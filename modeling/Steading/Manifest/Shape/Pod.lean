import Steading.Manifest.Shape.Container

/-!
# Shapes of pods
-/

namespace Steading.Shape

open Place

/-- What is met soonest, and what has to be met. -/
def preferences (preferred required : Shape) : Shape :=
  .record [.optional "preferredDuringSchedulingIgnoredDuringExecution" preferred,
    .optional "requiredDuringSchedulingIgnoredDuringExecution" required]

def nodeTerm : Shape :=
  .record (optionals (.list requirement) ["matchExpressions", "matchFields"])

def nodeAffinity : Shape :=
  preferences
    (.list (.record [.required "preference" nodeTerm, .required "weight" .int32]))
    (.record [.required "nodeSelectorTerms" (.list nodeTerm)])

def podTerm : Shape :=
  .record (optionals labelSelector ["labelSelector", "namespaceSelector"] ++
    optionals texts ["matchLabelKeys", "mismatchLabelKeys", "namespaces"] ++
    [.required "topologyKey" .text])

def podAffinity : Shape :=
  preferences
    (.list (.record [.required "podAffinityTerm" podTerm, .required "weight" .int32]))
    (.list podTerm)

def affinity : Shape :=
  .record [.optional "nodeAffinity" nodeAffinity, .optional "podAffinity" podAffinity,
    .optional "podAntiAffinity" podAffinity]

def dnsConfig : Shape :=
  .record [.optional "nameservers" texts,
    .optional "options" (.list (.record (optionals .text ["name", "value"]))),
    .optional "searches" texts]

def podSecurityContext : Shape :=
  .record (identity ++
    [.optional "fsGroup" .int64, .optional "fsGroupChangePolicy" .text,
      .optional "supplementalGroups" (.list .int64),
      .optional "sysctls" (.list (.record (requireds .text ["name", "value"])))])

def toleration : Shape :=
  .record (optionals .text ["effect", "key", "operator", "value"] ++
    [.optional "tolerationSeconds" .int64])

def spreadConstraint : Shape :=
  .record (requireds .text ["topologyKey", "whenUnsatisfiable"] ++
    optionals .text ["nodeAffinityPolicy", "nodeTaintsPolicy"] ++
    [.required "maxSkew" .int32, .optional "minDomains" .int32,
      .optional "labelSelector" labelSelector, .optional "matchLabelKeys" texts])

def podResourceClaim : Shape :=
  .record [.required "name" .text,
    .optional "source" (.record (optionals .text
      ["resourceClaimName", "resourceClaimTemplateName"]))]

def podSpec : Shape :=
  .record (optionals .text ["dnsPolicy", "hostname", "nodeName", "preemptionPolicy",
      "priorityClassName", "restartPolicy", "runtimeClassName", "schedulerName", "serviceAccount",
      "serviceAccountName", "subdomain"] ++
    optionals .flag ["automountServiceAccountToken", "enableServiceLinks", "hostIPC",
      "hostNetwork", "hostPID", "hostUsers", "setHostnameAsFQDN", "shareProcessNamespace"] ++
    optionals .int64 ["activeDeadlineSeconds", "terminationGracePeriodSeconds"] ++
    [.required "containers" (.list container),
      .optional "affinity" affinity,
      .optional "dnsConfig" dnsConfig,
      .optional "ephemeralContainers" (.list ephemeralContainer),
      .optional "hostAliases"
        (.list (.record [.optional "hostnames" texts, .optional "ip" .text])),
      .optional "imagePullSecrets" (.list localReference),
      .optional "initContainers" (.list container),
      .optional "nodeSelector" textMap,
      .optional "os" (.record [.required "name" .text]),
      .optional "overhead" amounts,
      .optional "priority" .int32,
      .optional "readinessGates" (.list (.record [.required "conditionType" .text])),
      .optional "resourceClaims" (.list podResourceClaim),
      .optional "schedulingGates" (.list (.record [.required "name" .text])),
      .optional "securityContext" podSecurityContext,
      .optional "tolerations" (.list toleration),
      .optional "topologySpreadConstraints" (.list spreadConstraint),
      .optional "volumes" (.list volume)])

def podTemplate : Shape :=
  .record [.optional "metadata" metadata, .optional "spec" podSpec]

end Steading.Shape
