import Steading.Manifest.Shape

/-!
# Shapes that all objects share

Metadata, and the ways in which one object points at others: selectors of labels and references by
name.
-/

namespace Steading.Shape

open Place

def texts : Shape :=
  .list .text

def textMap : Shape :=
  .map .text

/-- Amounts of resources by name, such as `500m` and `2Gi`. -/
def amounts : Shape :=
  .map .text

def ownerReference : Shape :=
  .record (requireds .text ["apiVersion", "kind", "name", "uid"] ++
    optionals .flag ["blockOwnerDeletion", "controller"])

def managedFields : Shape :=
  .record (optionals .text
    ["apiVersion", "fieldsType", "manager", "operation", "subresource"] ++
    [.optional "fieldsV1" .anything, .optional "time" .time])

def metadata : Shape :=
  .record (optionals .text ["generateName", "name", "namespace", "resourceVersion", "selfLink",
      "uid"] ++
    optionals textMap ["annotations", "labels"] ++
    optionals .time ["creationTimestamp", "deletionTimestamp"] ++
    optionals .int64 ["deletionGracePeriodSeconds", "generation"] ++
    [.optional "finalizers" texts,
      .optional "managedFields" (.list managedFields),
      .optional "ownerReferences" (.list ownerReference)])

/-- A condition on one label or field. -/
def requirement : Shape :=
  .record (requireds .text ["key", "operator"] ++ [.optional "values" texts])

def labelSelector : Shape :=
  .record [.optional "matchExpressions" (.list requirement), .optional "matchLabels" textMap]

/-- An object in the same namespace, by its name. -/
def localReference : Shape :=
  .record [.optional "name" .text]

/-- Something that came about in an object's life, and since when it has been so. -/
def condition (times : List String) : Shape :=
  .record (requireds .text ["status", "type"] ++ optionals .text ["message", "reason"] ++
    optionals .time times)

end Steading.Shape
