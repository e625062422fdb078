import Steading.Store

/-!
# The store in memory

Records by tenant, each tenant at most once.
-/

namespace Steading

structure MemoryStore where
  rows : List (TenantId × ServerRecord)
  deriving Inhabited

namespace MemoryStore

def empty : MemoryStore :=
  ⟨[]⟩

def find? (s : MemoryStore) (t : TenantId) : Option ServerRecord :=
  s.rows.lookup t

def size (s : MemoryStore) : Nat :=
  s.rows.length

/-- Changes the record of a tenant, if it has one. -/
def modify (s : MemoryStore) (t : TenantId) (f : ServerRecord → ServerRecord) : MemoryStore :=
  ⟨s.rows.map fun row => if row.1 = t then (row.1, f row.2) else row⟩

def erase (s : MemoryStore) (t : TenantId) : MemoryStore :=
  ⟨s.rows.filter fun row => row.1 ≠ t⟩

def answer (s : MemoryStore) : (c : StoreCall) → Except StoreError c.Reply × MemoryStore
  | .find t => (.ok (s.find? t), s)
  | .save r =>
    match s.find? r.server.tenant with
    | some _ => (.error (.alreadyStored r.server.tenant), s)
    | none => (.ok (), ⟨s.rows ++ [(r.server.tenant, r)]⟩)
  | .update server =>
    match s.find? server.tenant with
    | none => (.error (.noServer server.tenant), s)
    | some _ =>
      (.ok (), s.modify server.tenant fun r =>
        { r with server := { server with createdAt := r.server.createdAt } })
  | .updateWorld t world name details =>
    match s.find? t with
    | some r =>
      if r.world.world = world ∧ r.world.name = name then
        (.ok true, s.modify t fun r => { r with world := details })
      else (.ok false, s)
    | none => (.ok false, s)
  | .delete t => (.ok (s.find? t).isSome, s.erase t)

end MemoryStore

end Steading
