import Steading.Store.Memory
import Steading.Store.Tables

/-!
# Stores that can be made to fail

A store of either kind, and which of its operations are arranged to fail. An arranged failure does
not touch the rows.
-/

namespace Steading

inductive StoreBackend
  | memory (m : MemoryStore)
  | tables (t : TableStore)
  deriving Inhabited

def StoreBackend.answer : StoreBackend → (c : StoreCall) → Except StoreError c.Reply × StoreBackend
  | memory m, c => ((m.answer c).1, memory (m.answer c).2)
  | tables t, c => ((t.answer c).1, tables (t.answer c).2)

inductive StoreMethod
  | find
  | save
  | update
  | updateWorld
  | delete
  deriving DecidableEq, Inhabited

namespace StoreMethod

def all : List StoreMethod :=
  [find, save, update, updateWorld, delete]

def name : StoreMethod → String
  | find => "find"
  | save => "save"
  | update => "update"
  | updateWorld => "update_world"
  | delete => "delete"

def ofName? (s : String) : Option StoreMethod :=
  all.find? (·.name == s)

end StoreMethod

def StoreCall.method : StoreCall → StoreMethod
  | find _ => .find
  | save _ => .save
  | update _ => .update
  | updateWorld _ _ _ _ => .updateWorld
  | delete _ => .delete

structure FaultyStore where
  backend : StoreBackend
  /-- What a method that fails says, from the outside in. -/
  faults : StoreMethod → Option (List String)
  /-- Whether no world is ever the one looked for. -/
  missesWorlds : Bool
  deriving Inhabited

namespace FaultyStore

def ofBackend (b : StoreBackend) : FaultyStore :=
  ⟨b, fun _ => none, false⟩

def failOn (s : FaultyStore) (m : StoreMethod) (causes : List String) : FaultyStore :=
  { s with faults := fun x => if x = m then some causes else s.faults x }

def missWorlds (s : FaultyStore) : FaultyStore :=
  { s with missesWorlds := true }

def heal (s : FaultyStore) : FaultyStore :=
  ofBackend s.backend

/-- The answer of the rows, whatever is arranged. -/
def direct (s : FaultyStore) (c : StoreCall) : Except StoreError c.Reply × FaultyStore :=
  ((s.backend.answer c).1, { s with backend := (s.backend.answer c).2 })

def answer (s : FaultyStore) (c : StoreCall) : Except StoreError c.Reply × FaultyStore :=
  match s.faults c.method with
  | some causes => (.error (.arranged causes), s)
  | none =>
    match c with
    | .updateWorld t world name details =>
      if s.missesWorlds then (.ok false, s) else s.direct (.updateWorld t world name details)
    | c => s.direct c

end FaultyStore

end Steading
