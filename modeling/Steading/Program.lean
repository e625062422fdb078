import Steading.Cluster
import Steading.Store

/-!
# Programs

An operation as a tree: either it is done, or it asks one thing of the outside world and goes on
from the reply. What the outside world is does not matter here; a program is run against any
`Outside`, which answers a request and keeps a state.

The laws of a monad hold (`Program.bind_assoc` and its neighbours), so programs are written in `do`
notation.
-/

namespace Steading

inductive Request
  | cluster (c : ClusterCall)
  /-- The address players use to reach a server. -/
  | address
  | store (c : StoreCall)
  /-- The time, in whole seconds. -/
  | now
  /-- An id that no world has yet. -/
  | freshId
  | pause (nanos : Nat)

abbrev Request.Reply : Request → Type
  | cluster c => Except ClusterError c.Reply
  | address => Except ClusterError String
  | store c => Except StoreError c.Reply
  | now => Int64
  | freshId => String
  | pause _ => Unit

inductive Program (α : Type) : Type
  | done (a : α)
  | ask (r : Request) (next : r.Reply → Program α)

namespace Program

variable {α β γ : Type}

def bind : Program α → (α → Program β) → Program β
  | done a, f => f a
  | ask r next, f => ask r fun reply => (next reply).bind f

instance : Monad Program where
  pure := done
  bind := bind

theorem bind_done (p : Program α) : p.bind done = p := by
  induction p with
  | done a => rfl
  | ask r next ih => simp [bind, ih]

theorem bind_assoc (p : Program α) (f : α → Program β) (g : β → Program γ) :
    (p.bind f).bind g = p.bind fun a => (f a).bind g := by
  induction p with
  | done a => rfl
  | ask r next ih => simp [bind, ih]

instance : LawfulMonad Program :=
  LawfulMonad.mk' _ (fun p => bind_done p) (fun _ _ => rfl) bind_assoc

/-- A single request. -/
def request (r : Request) : Program r.Reply :=
  ask r done

def call (c : ClusterCall) : Program (Except ClusterError c.Reply) :=
  request (.cluster c)

end Program

/-- What programs are run against: it answers every request and may change by it. -/
structure Outside (σ : Type) where
  answer : (r : Request) → σ → r.Reply × σ

def Program.run {σ α : Type} (o : Outside σ) : Program α → σ → α × σ
  | done a, s => (a, s)
  | ask r next, s => (next (o.answer r s).1).run o (o.answer r s).2

theorem Program.run_bind {σ α β : Type} (o : Outside σ) (p : Program α) (f : α → Program β)
    (s : σ) : (p.bind f).run o s = (f (p.run o s).1).run o (p.run o s).2 := by
  induction p generalizing s with
  | done a => rfl
  | ask r next ih => exact ih _ _

end Steading
