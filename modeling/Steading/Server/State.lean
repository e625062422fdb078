import Steading.Json.Decode
import Steading.Validation

/-!
# Whether a server runs

A server that is stored either runs, with one replica, or is terminated, with none.
-/

namespace Steading

inductive ServerState
  | running
  | terminated
  deriving DecidableEq, Inhabited

namespace ServerState

def name : ServerState → String
  | running => "running"
  | terminated => "terminated"

def parse (s : String) : Except ValidationError ServerState :=
  if s = "running" then .ok running
  else if s = "terminated" then .ok terminated
  else .error (.unknownState s)

/-- Where scaling to a number of replicas leads: a running server goes down to none, a terminated
one up to one, and nothing else is a move. -/
def scaleTarget (s : ServerState) (replicas : Int32) : Option ServerState :=
  match s with
  | running => if replicas = 0 then some terminated else none
  | terminated => if replicas = 1 then some running else none

def toJson (s : ServerState) : Json :=
  .str s.name

def ofJson? (j : Json) : Option ServerState := do
  match parse (← Json.name? j) with
  | .ok s => some s
  | .error _ => none

end ServerState

end Steading
