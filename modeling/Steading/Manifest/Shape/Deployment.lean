import Steading.Manifest.Shape.Pod

/-!
# Shapes of deployments
-/

namespace Steading.Shape

open Place

def strategy : Shape :=
  .record [.optional "type" .text,
    .optional "rollingUpdate" (.record (optionals .intOrText ["maxSurge", "maxUnavailable"]))]

def deploymentSpec : Shape :=
  .record (optionals .int32 ["minReadySeconds", "progressDeadlineSeconds", "replicas",
      "revisionHistoryLimit"] ++
    [.optional "paused" .flag, .required "selector" labelSelector, .optional "strategy" strategy,
      .required "template" podTemplate])

def deploymentStatus : Shape :=
  .record (optionals .int32 ["availableReplicas", "collisionCount", "readyReplicas", "replicas",
      "unavailableReplicas", "updatedReplicas"] ++
    [.optional "conditions" (.list (condition ["lastTransitionTime", "lastUpdateTime"])),
      .optional "observedGeneration" .int64])

def deployment : Shape :=
  .record [.fixed "apiVersion" "apps/v1", .fixed "kind" "Deployment",
    .required "metadata" metadata, .optional "spec" deploymentSpec,
    .optional "status" deploymentStatus]

/-- The number of replicas of a deployment, as an object of its own. -/
def scale : Shape :=
  .record [.fixed "apiVersion" "autoscaling/v1", .fixed "kind" "Scale",
    .required "metadata" metadata,
    .optional "spec" (.record [.optional "replicas" .int32]),
    .optional "status" (.record [.required "replicas" .int32, .optional "selector" .text])]

end Steading.Shape
