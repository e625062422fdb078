import Steading.Lifecycle

/-!
# Activities

What somebody does for a tenant, with the access it takes to do it. An operation that changes a
tenant's server asks for access to the tenant before anything else, waits until it has it, and gives
it back when it has come to its end, whichever end that is. Reading a record takes no access.

Access is given back in two steps, since others may take it before the slot is let go of.
-/

namespace Steading

inductive Activity (α : Type) : Type
  | done (a : α)
  | ask (r : Request) (next : r.Reply → Activity α)
  /-- Asks for access to a tenant. -/
  | enter (t : TenantId) (next : Activity α)
  /-- Goes on once access is given. -/
  | wait (next : Activity α)
  | unlock (next : Activity α)
  | leave (next : Activity α)

variable {α β : Type}

/-- Goes through a program and goes on from its result. -/
def Program.followedBy : Program α → (α → Activity β) → Activity β
  | done a, f => f a
  | ask r next, f => .ask r fun reply => (next reply).followedBy f

namespace Activity

def unguarded (p : Program α) : Activity α :=
  p.followedBy done

/-- A program that has access, which is given back behind it. -/
def held (p : Program α) : Activity α :=
  p.followedBy fun a => unlock (leave (done a))

/-- A program that nobody else's for the same tenant gets in between. -/
def guarded (t : TenantId) (p : Program α) : Activity α :=
  enter t (wait (held p))

end Activity

/-- What is done to carry out a command. -/
def Command.activity (c : Controller) (t : Tenant) :
    Command → Activity (Except Failure Answer)
  | create r => .guarded t.id ((create r).program c t)
  | patch r => .guarded t.id ((patch r).program c t)
  | scale r => .guarded t.id ((scale r).program c t)
  | delete => .guarded t.id (delete.program c t)
  | inspect => .unguarded (inspect.program c t)

end Steading
