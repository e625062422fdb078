import Steading.Server.State

/-!
# Asking for another number of replicas
-/

namespace Steading

structure ScaleRequest where
  replicas : Int32
  deriving DecidableEq, Inhabited

namespace ScaleRequest

open Json

def toJson (r : ScaleRequest) : Json :=
  .obj [("replicas", int32 r.replicas)]

def ofJson? (j : Json) : Option ScaleRequest :=
  match slots ["replicas"] j with
  | some [replicas] => do return ⟨← replicas.required int32?⟩
  | _ => none

end ScaleRequest

end Steading
