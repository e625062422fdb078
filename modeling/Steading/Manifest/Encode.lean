import Steading.Manifest.Object
import Steading.Manifest.Shape.Deployment

/-!
# Cluster objects as JSON

An object is read in two steps: its shape says whether all its members are what they should be and
leaves nothing else in it, and then the parts with a meaning are taken out of it and the others are
kept. A part that is not set is left out, and so is read back from an object that lacks it; what
every object of its kind has, such as the selector of a deployment, is written even when it is
empty.
-/

namespace Steading

open Json

namespace Json

variable {α : Type}

/-- A member that is written only if it is set. -/
def optional (name : String) (encode : α → Json) : Option α → List (String × Json)
  | some a => [(name, encode a)]
  | none => []

def members? : Json → Option (List (String × Json))
  | .obj ms => some ms
  | _ => none

def getOptional (ms : List (String × Json)) (name : String) (decode : Json → Option α) :
    Option (Option α) :=
  match ms.lookup name with
  | some j => (decode j).map some
  | none => some none

def getOr (d : α) (ms : List (String × Json)) (name : String) (decode : Json → Option α) :
    Option α :=
  (getOptional ms name decode).map (·.getD d)

/-- The members of other names. -/
def except (known : List String) (ms : List (String × Json)) : Others :=
  ms.filter fun m => !known.contains m.1

def texts (ts : Texts) : Json :=
  .obj (ts.map fun t => (t.1, .str t.2))

def texts? (j : Json) : Option Texts := do
  (← members? j).mapM fun m => (str? m.2).map (m.1, ·)

end Json

def Metadata.toJson (m : Metadata) : Json :=
  .obj (optional "name" .str m.name ++ optional "namespace" .str m.ns ++
    optional "labels" texts m.labels ++ optional "finalizers" strs m.finalizers ++ m.others)

def Metadata.ofJson? (j : Json) : Option Metadata := do
  let ms ← members? j
  return {
    name := ← getOptional ms "name" str?
    ns := ← getOptional ms "namespace" str?
    labels := ← getOptional ms "labels" texts?
    finalizers := ← getOptional ms "finalizers" (list? str?)
    others := except ["name", "namespace", "labels", "finalizers"] ms }

def ResourceAmounts.toJson (r : ResourceAmounts) : Json :=
  .obj (optional "requests" texts r.requests ++ optional "limits" texts r.limits ++ r.others)

def ResourceAmounts.ofJson? (j : Json) : Option ResourceAmounts := do
  let ms ← members? j
  return {
    requests := ← getOptional ms "requests" texts?
    limits := ← getOptional ms "limits" texts?
    others := except ["requests", "limits"] ms }

def ContainerPort.toJson (p : ContainerPort) : Json :=
  .obj (optional "name" .str p.name ++ [("containerPort", int32 p.port)] ++
    optional "protocol" .str p.protocol ++ p.others)

def ContainerPort.ofJson? (j : Json) : Option ContainerPort := do
  let ms ← members? j
  return {
    name := ← getOptional ms "name" str?
    port := ← getOr 0 ms "containerPort" int32?
    protocol := ← getOptional ms "protocol" str?
    others := except ["name", "containerPort", "protocol"] ms }

def EnvVar.toJson (e : EnvVar) : Json :=
  .obj ([("name", .str e.name)] ++ optional "value" .str e.value ++ e.others)

def EnvVar.ofJson? (j : Json) : Option EnvVar := do
  let ms ← members? j
  return {
    name := ← getOr "" ms "name" str?
    value := ← getOptional ms "value" str?
    others := except ["name", "value"] ms }

def VolumeMount.toJson (m : VolumeMount) : Json :=
  .obj ([("name", .str m.name), ("mountPath", .str m.path)] ++ m.others)

def VolumeMount.ofJson? (j : Json) : Option VolumeMount := do
  let ms ← members? j
  return {
    name := ← getOr "" ms "name" str?
    path := ← getOr "" ms "mountPath" str?
    others := except ["name", "mountPath"] ms }

def Json.arrOf {α : Type} (encode : α → Json) (xs : List α) : Json :=
  .arr (xs.map encode)

def Container.toJson (c : Container) : Json :=
  .obj ([("name", .str c.name)] ++ optional "image" .str c.image ++
    optional "command" strs c.command ++ optional "args" strs c.args ++
    optional "env" (arrOf EnvVar.toJson) c.env ++
    optional "ports" (arrOf ContainerPort.toJson) c.ports ++
    optional "resources" ResourceAmounts.toJson c.resources ++
    optional "volumeMounts" (arrOf VolumeMount.toJson) c.mounts ++ c.others)

def Container.fields : List String :=
  ["name", "image", "command", "args", "env", "ports", "resources", "volumeMounts"]

def Container.ofJson? (j : Json) : Option Container := do
  let ms ← members? j
  return {
    name := ← getOr "" ms "name" str?
    image := ← getOptional ms "image" str?
    command := ← getOptional ms "command" (list? str?)
    args := ← getOptional ms "args" (list? str?)
    env := ← getOptional ms "env" (list? EnvVar.ofJson?)
    ports := ← getOptional ms "ports" (list? ContainerPort.ofJson?)
    resources := ← getOptional ms "resources" ResourceAmounts.ofJson?
    mounts := ← getOptional ms "volumeMounts" (list? VolumeMount.ofJson?)
    others := except Container.fields ms }

def ClaimSource.toJson (s : ClaimSource) : Json :=
  .obj ([("claimName", .str s.claimName)] ++ s.others)

def ClaimSource.ofJson? (j : Json) : Option ClaimSource := do
  let ms ← members? j
  return { claimName := ← getOr "" ms "claimName" str?, others := except ["claimName"] ms }

def Volume.toJson (v : Volume) : Json :=
  .obj ([("name", .str v.name)] ++ optional "persistentVolumeClaim" ClaimSource.toJson v.claim ++
    optional "emptyDir" .obj v.emptyDir ++ v.others)

def Volume.ofJson? (j : Json) : Option Volume := do
  let ms ← members? j
  return {
    name := ← getOr "" ms "name" str?
    claim := ← getOptional ms "persistentVolumeClaim" ClaimSource.ofJson?
    emptyDir := ← getOptional ms "emptyDir" members?
    others := except ["name", "persistentVolumeClaim", "emptyDir"] ms }

def PodSpec.toJson (p : PodSpec) : Json :=
  .obj ([("containers", arrOf Container.toJson p.containers)] ++
    optional "dnsPolicy" .str p.dnsPolicy ++ optional "hostNetwork" .bool p.hostNetwork ++
    optional "volumes" (arrOf Volume.toJson) p.volumes ++ p.others)

def PodSpec.ofJson? (j : Json) : Option PodSpec := do
  let ms ← members? j
  return {
    containers := ← getOr [] ms "containers" (list? Container.ofJson?)
    dnsPolicy := ← getOptional ms "dnsPolicy" str?
    hostNetwork := ← getOptional ms "hostNetwork" bool?
    volumes := ← getOptional ms "volumes" (list? Volume.ofJson?)
    others := except ["containers", "dnsPolicy", "hostNetwork", "volumes"] ms }

def PodTemplate.toJson (t : PodTemplate) : Json :=
  .obj (optional "metadata" Metadata.toJson t.metadata ++ optional "spec" PodSpec.toJson t.spec ++
    t.others)

def PodTemplate.ofJson? (j : Json) : Option PodTemplate := do
  let ms ← members? j
  return {
    metadata := ← getOptional ms "metadata" Metadata.ofJson?
    spec := ← getOptional ms "spec" PodSpec.ofJson?
    others := except ["metadata", "spec"] ms }

def LabelSelector.toJson (s : LabelSelector) : Json :=
  .obj (optional "matchLabels" texts s.matchLabels ++ s.others)

def LabelSelector.ofJson? (j : Json) : Option LabelSelector := do
  let ms ← members? j
  return {
    matchLabels := ← getOptional ms "matchLabels" texts?
    others := except ["matchLabels"] ms }

def DeploymentStrategy.toJson (s : DeploymentStrategy) : Json :=
  .obj (optional "type" .str s.type ++ s.others)

def DeploymentStrategy.ofJson? (j : Json) : Option DeploymentStrategy := do
  let ms ← members? j
  return { type := ← getOptional ms "type" str?, others := except ["type"] ms }

def DeploymentSpec.toJson (s : DeploymentSpec) : Json :=
  .obj (optional "replicas" int32 s.replicas ++ [("selector", s.selector.toJson)] ++
    optional "strategy" DeploymentStrategy.toJson s.strategy ++
    [("template", s.template.toJson)] ++ s.others)

def DeploymentSpec.ofJson? (j : Json) : Option DeploymentSpec := do
  let ms ← members? j
  return {
    replicas := ← getOptional ms "replicas" int32?
    selector := ← getOr {} ms "selector" LabelSelector.ofJson?
    strategy := ← getOptional ms "strategy" DeploymentStrategy.ofJson?
    template := ← getOr {} ms "template" PodTemplate.ofJson?
    others := except ["replicas", "selector", "strategy", "template"] ms }

def ClaimSpec.toJson (s : ClaimSpec) : Json :=
  .obj (optional "accessModes" strs s.accessModes ++
    optional "resources" ResourceAmounts.toJson s.resources ++
    optional "storageClassName" .str s.storageClass ++ s.others)

def ClaimSpec.ofJson? (j : Json) : Option ClaimSpec := do
  let ms ← members? j
  return {
    accessModes := ← getOptional ms "accessModes" (list? str?)
    storageClass := ← getOptional ms "storageClassName" str?
    resources := ← getOptional ms "resources" ResourceAmounts.ofJson?
    others := except ["accessModes", "storageClassName", "resources"] ms }

def Claim.toJson (c : Claim) : Json :=
  .obj ([("apiVersion", .str "v1"), ("kind", .str "PersistentVolumeClaim"),
    ("metadata", c.metadata.toJson)] ++ optional "spec" ClaimSpec.toJson c.spec ++ c.others)

def Claim.ofJson? (j : Json) : Option Claim := do
  let ms ← members? (← Shape.claim.read? Json.deepest j)
  return {
    metadata := ← getOr {} ms "metadata" Metadata.ofJson?
    spec := ← getOptional ms "spec" ClaimSpec.ofJson?
    others := except ["apiVersion", "kind", "metadata", "spec"] ms }

def Deployment.toJson (d : Deployment) : Json :=
  .obj ([("apiVersion", .str "apps/v1"), ("kind", .str "Deployment"),
    ("metadata", d.metadata.toJson)] ++ optional "spec" DeploymentSpec.toJson d.spec ++ d.others)

def Deployment.ofJson? (j : Json) : Option Deployment := do
  let ms ← members? (← Shape.deployment.read? Json.deepest j)
  return {
    metadata := ← getOr {} ms "metadata" Metadata.ofJson?
    spec := ← getOptional ms "spec" DeploymentSpec.ofJson?
    others := except ["apiVersion", "kind", "metadata", "spec"] ms }

end Steading
