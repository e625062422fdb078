import Steading.Json.Basic

/-!
# Cluster objects

Claims on storage and deployments, as far as this library gives their parts a meaning. Each part
also keeps the members that it has room for and no use, so that an object read from the cluster can
be sent back with everything it had.
-/

namespace Steading

/-- Members of a part that have no meaning here. -/
abbrev Others : Type :=
  List (String × Json)

/-- Texts by name, such as labels or amounts of resources. -/
abbrev Texts : Type :=
  List (String × String)

structure Metadata where
  name : Option String := none
  ns : Option String := none
  labels : Option Texts := none
  finalizers : Option (List String) := none
  others : Others := []

/-- Amounts that are asked for and amounts that are not exceeded. -/
structure ResourceAmounts where
  requests : Option Texts := none
  limits : Option Texts := none
  others : Others := []

structure ContainerPort where
  name : Option String := none
  port : Int32
  protocol : Option String := none
  others : Others := []

structure EnvVar where
  name : String
  value : Option String := none
  others : Others := []

structure VolumeMount where
  name : String
  path : String
  others : Others := []

structure Container where
  name : String
  image : Option String := none
  command : Option (List String) := none
  args : Option (List String) := none
  env : Option (List EnvVar) := none
  ports : Option (List ContainerPort) := none
  resources : Option ResourceAmounts := none
  mounts : Option (List VolumeMount) := none
  others : Others := []

/-- The claim behind a volume. -/
structure ClaimSource where
  claimName : String
  others : Others := []

structure Volume where
  name : String
  claim : Option ClaimSource := none
  emptyDir : Option Others := none
  others : Others := []

structure PodSpec where
  containers : List Container
  dnsPolicy : Option String := none
  hostNetwork : Option Bool := none
  volumes : Option (List Volume) := none
  others : Others := []

structure PodTemplate where
  metadata : Option Metadata := none
  spec : Option PodSpec := none
  others : Others := []

structure LabelSelector where
  matchLabels : Option Texts := none
  others : Others := []

structure DeploymentStrategy where
  type : Option String := none
  others : Others := []

structure DeploymentSpec where
  replicas : Option Int32 := none
  selector : LabelSelector := {}
  strategy : Option DeploymentStrategy := none
  template : PodTemplate := {}
  others : Others := []

structure Deployment where
  metadata : Metadata
  spec : Option DeploymentSpec := none
  others : Others := []

structure ClaimSpec where
  accessModes : Option (List String) := none
  storageClass : Option String := none
  resources : Option ResourceAmounts := none
  others : Others := []

/-- A claim on storage. -/
structure Claim where
  metadata : Metadata
  spec : Option ClaimSpec := none
  others : Others := []

instance : Inhabited Deployment := ⟨{ metadata := {} }⟩
instance : Inhabited Claim := ⟨{ metadata := {} }⟩

/-- The name an object goes by; one without a name goes by the empty one. -/
def Metadata.nameOrEmpty (m : Metadata) : String :=
  m.name.getD ""

/-- Objects of which only the identity matters. -/
def Claim.named (ns name : String) : Claim where
  metadata := { name := some name, ns := some ns }

def Deployment.named (ns name : String) : Deployment where
  metadata := { name := some name, ns := some ns }

/-- Whether the removal of a claim has to wait for somebody. -/
def Claim.hasFinalizers (c : Claim) : Bool :=
  c.metadata.finalizers.any (!·.isEmpty)

def Claim.withoutFinalizers (c : Claim) : Claim :=
  { c with metadata := { c.metadata with finalizers := none } }

def Deployment.scaled (d : Deployment) (replicas : Int32) : Deployment :=
  { d with spec := some { d.spec.getD {} with replicas := some replicas } }

end Steading
