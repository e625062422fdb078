import Steading.Duration
import Steading.Json.Decode
import Steading.Manifest.Object

/-!
# The cluster

The calls this library makes to a cluster, what each of them answers, and how each can fail.
-/

namespace Steading

inductive Kind
  | deployment
  | claim
  deriving DecidableEq, Inhabited

def Kind.name : Kind → String
  | deployment => "deployment"
  | claim => "persistentvolumeclaim"

/-- The name a kind goes by in the cluster. -/
def Kind.resource : Kind → String
  | deployment => "Deployment"
  | claim => "PersistentVolumeClaim"

def Kind.toJson (k : Kind) : Json :=
  .str k.resource

def Kind.ofJson? (j : Json) : Option Kind :=
  match Json.name? j with
  | some "Deployment" => some deployment
  | some "PersistentVolumeClaim" => some claim
  | _ => none

inductive ClusterError
  | notFound (kind : Kind) (name : String)
  | api (kind : Kind) (name : String) (code : Option UInt16) (text : String)
  | timeout (kind : Kind) (name : String) (after : Duration)
  | ingress (text : String)
  deriving DecidableEq, Inhabited

namespace ClusterError

def isNotFound : ClusterError → Bool
  | notFound _ _ => true
  | _ => false

def message : ClusterError → String
  | notFound kind name => kind.name ++ " " ++ name ++ " not found"
  | api kind name _ text => kind.name ++ " " ++ name ++ ": " ++ text
  | timeout kind name after =>
    kind.name ++ " " ++ name ++ ": cluster call timed out after " ++ toString after.millis ++ "ms"
  | ingress text => "ingress lookup failed: " ++ text

end ClusterError

inductive ClusterCall
  | createClaim (c : Claim)
  | getClaim (name : String)
  | deleteClaim (name : String)
  | clearFinalizers (name : String)
  | createDeployment (d : Deployment)
  | getDeployment (name : String)
  | replaceDeployment (d : Deployment)
  | deleteDeployment (name : String)
  | scaleDeployment (name : String) (replicas : Int32)

namespace ClusterCall

/-- What a call answers if it goes through. -/
abbrev Reply : ClusterCall → Type
  | getClaim _ => Claim
  | getDeployment _ => Deployment
  | _ => Unit

def kind : ClusterCall → Kind
  | createClaim _ | getClaim _ | deleteClaim _ | clearFinalizers _ => .claim
  | _ => .deployment

/-- The name of the object that a call is about, as far as it has one. -/
def target? : ClusterCall → Option String
  | createClaim c => c.metadata.name
  | createDeployment d | replaceDeployment d => d.metadata.name
  | getClaim name | deleteClaim name | clearFinalizers name | getDeployment name
  | deleteDeployment name | scaleDeployment name _ => some name

def target (c : ClusterCall) : String :=
  c.target?.getD ""

end ClusterCall

end Steading
