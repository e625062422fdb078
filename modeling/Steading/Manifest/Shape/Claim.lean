import Steading.Manifest.Shape.Metadata

/-!
# Shapes of claims on storage
-/

namespace Steading.Shape

open Place

/-- An object that a volume is filled from. -/
def typedReference (more : List String) : Shape :=
  .record (requireds .text ["kind", "name"] ++ optionals .text ("apiGroup" :: more))

def claimSpec : Shape :=
  .record (optionals .text ["storageClassName", "volumeAttributesClassName", "volumeMode",
      "volumeName"] ++
    [.optional "accessModes" texts,
      .optional "dataSource" (typedReference []),
      .optional "dataSourceRef" (typedReference ["namespace"]),
      .optional "resources" (.record (optionals amounts ["limits", "requests"])),
      .optional "selector" labelSelector])

def claimStatus : Shape :=
  .record (optionals .text ["currentVolumeAttributesClassName", "phase"] ++
    optionals amounts ["allocatedResources", "capacity"] ++
    [.optional "accessModes" texts,
      .optional "allocatedResourceStatuses" textMap,
      .optional "conditions" (.list (condition ["lastProbeTime", "lastTransitionTime"])),
      .optional "modifyVolumeStatus"
        (.record [.required "status" .text, .optional "targetVolumeAttributesClassName" .text])])

/-- A claim on storage that is made along with something else. -/
def claimTemplate : Shape :=
  .record [.optional "metadata" metadata, .required "spec" claimSpec]

def claim : Shape :=
  .record [.fixed "apiVersion" "v1", .fixed "kind" "PersistentVolumeClaim",
    .required "metadata" metadata, .optional "spec" claimSpec, .optional "status" claimStatus]

end Steading.Shape
