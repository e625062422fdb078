import Steading.Tenant

/-!
# Tenant locks

Exclusive access to tenants. Each tenant that somebody works for has a slot in a table, and whoever
wants access refers to the tenant's slot from the moment it asks until it has left. Before anybody
is given a slot, those that nobody refers to are thrown out; a slot that is made later is another
one, even for the same tenant. A slot gives access to one party at a time.
-/

namespace Steading

inductive LockPhase
  | waiting
  | holding
  /-- Access is given back, but the party still refers to its slot. -/
  | released
  deriving DecidableEq, Inhabited

/-- Somebody who asked for access. -/
structure LockParty (η : Type) where
  who : η
  tenant : TenantId
  slot : Nat
  phase : LockPhase
  deriving DecidableEq

structure TenantLocks (η : Type) where
  /-- The slots of tenants. -/
  table : List (TenantId × Nat)
  /-- In the order in which they asked. -/
  parties : List (LockParty η)
  /-- No slot has this number or a higher one. -/
  nextSlot : Nat
  deriving DecidableEq

namespace TenantLocks

variable {η : Type}

def empty : TenantLocks η :=
  ⟨[], [], 0⟩

def isReferred (l : TenantLocks η) (slot : Nat) : Bool :=
  l.parties.any (·.slot == slot)

def isTaken (l : TenantLocks η) (slot : Nat) : Bool :=
  l.parties.any fun p => p.slot == slot && p.phase == .holding

/-- Throws out the slots that nobody refers to. -/
def prune (l : TenantLocks η) : TenantLocks η :=
  { l with table := l.table.filter fun e => l.isReferred e.2 }

/-- Asks for access to a tenant. -/
def enter (l : TenantLocks η) (who : η) (t : TenantId) : TenantLocks η :=
  let l := l.prune
  match l.table.lookup t with
  | some slot => { l with parties := l.parties ++ [⟨who, t, slot, .waiting⟩] }
  | none =>
    { table := l.table ++ [(t, l.nextSlot)]
      parties := l.parties ++ [⟨who, t, l.nextSlot, .waiting⟩]
      nextSlot := l.nextSlot + 1 }

/-- Gives access to the first party that waits for a slot. -/
def grantFirst (slot : Nat) : List (LockParty η) → List (LockParty η)
  | [] => []
  | p :: ps =>
    if p.slot = slot ∧ p.phase = .waiting then { p with phase := .holding } :: ps
    else p :: grantFirst slot ps

/-- Gives a slot that is not taken to the first party that waits for it. -/
def grant (l : TenantLocks η) (slot : Nat) : TenantLocks η :=
  if l.isTaken slot then l else { l with parties := grantFirst slot l.parties }

/-- Gives away every slot that can be given away. -/
def grantAll (l : TenantLocks η) : TenantLocks η :=
  (l.parties.map (·.slot)).foldl grant l

/-- Gives back access that `who` has, still referring to the slots. -/
def unlock [DecidableEq η] (l : TenantLocks η) (who : η) : TenantLocks η :=
  { l with parties := l.parties.map fun p =>
      if p.who = who ∧ p.phase = .holding then { p with phase := .released } else p }

/-- Lets go of every slot of `who`, also of those it only waits for. -/
def leave [DecidableEq η] (l : TenantLocks η) (who : η) : TenantLocks η :=
  { l with parties := l.parties.filter (·.who ≠ who) }

/-- Asks for access and takes it as soon as nobody is before. -/
def acquire (l : TenantLocks η) (who : η) (t : TenantId) : TenantLocks η :=
  (l.enter who t).grantAll

/-- Gives back all access, or stops waiting for it; whoever is next takes over. -/
def release [DecidableEq η] (l : TenantLocks η) (who : η) : TenantLocks η :=
  ((l.unlock who).leave who).grantAll

/-- Who is in a phase, in the order in which they asked. -/
def inPhase (l : TenantLocks η) (phase : LockPhase) : List η :=
  (l.parties.filter (·.phase = phase)).map (·.who)

def holds [DecidableEq η] (l : TenantLocks η) (who : η) : Bool :=
  (l.inPhase .holding).contains who

/-- The number of tenants whose slots somebody refers to. -/
def active (l : TenantLocks η) : Nat :=
  (l.table.filter fun e => l.isReferred e.2).length

end TenantLocks

end Steading
