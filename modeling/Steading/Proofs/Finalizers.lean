import Mathlib.Data.List.Induction
import Steading.Proofs.Holdings

/-!
# Claims that wait to go

A claim is only ever terminating while it is there with finalizers, for they are what it waits for
(`Holdings.awaited_habit`). So it is in every state that a simulated cluster can come to, whatever
was left in it and whatever was made to fail (`SimulatedCluster.Reachable.awaited`).
-/

namespace Steading

namespace Holdings

/-- Every claim that waits to go is there and has finalizers to wait for. -/
def Awaited (s : Holdings) : Prop :=
  ∀ name, s.terminating name = true → (s.claims name).any Claim.hasFinalizers = true

variable {s s' : Holdings} {name : String}

/-- A claim that does not wait to go may be replaced, or go. -/
theorem Awaited.putClaim (h : s.Awaited) (hname : s.terminating name = false) (c : Option Claim) :
    (s.putClaim name c).Awaited := by
  intro other hother
  by_cases heq : other = name
  · subst heq
    rw [show s.terminating other = true from hother] at hname
    cases hname
  · rw [show (s.putClaim name c).claims other = s.claims other from setAt_of_ne heq]
    exact h other hother

theorem Awaited.not_terminating (h : s.Awaited)
    (hclaim : (s.claims name).any Claim.hasFinalizers = false) : s.terminating name = false := by
  rw [Bool.eq_false_iff]
  intro hterminating
  rw [h name hterminating] at hclaim
  cases hclaim

theorem Gives.awaited {c : ClusterCall} {a : c.Reply} (h : s.Gives c a s') (hs : s.Awaited) :
    s'.Awaited := by
  cases c with
  | createClaim c =>
    obtain ⟨hfree, rfl⟩ := h
    exact hs.putClaim (hs.not_terminating (by rw [hfree, Option.any_none])) _
  | getClaim name => exact (show s' = s from h) ▸ hs
  | deleteClaim name =>
    obtain ⟨c, hc, rfl⟩ := h
    split_ifs with hfinalizers
    · intro other hother
      by_cases heq : other = name
      · subst heq
        exact (congrArg (Option.any _) hc).trans hfinalizers
      · exact hs other ((setAt_of_ne heq).symm.trans hother)
    · refine hs.putClaim (hs.not_terminating ?_) _
      rw [hc, Option.any_some]
      exact Bool.eq_false_iff.2 hfinalizers
  | clearFinalizers name =>
    obtain ⟨c, hc, rfl⟩ := h
    split_ifs with hterminating
    · intro other hother
      by_cases heq : other = name
      · subst heq
        cases (setAt_same _ _ _).symm.trans hother
      · have hclaim : ((s.putClaim name none).setTerminating name false).claims other =
            s.claims other := setAt_of_ne heq
        rw [hclaim]
        exact hs other ((setAt_of_ne heq).symm.trans hother)
    · exact hs.putClaim (Bool.eq_false_iff.2 hterminating) _
  | createDeployment d => exact h.2 ▸ hs
  | getDeployment name => exact h.2 ▸ hs
  | replaceDeployment d => exact h.2 ▸ hs
  | deleteDeployment name => exact h.2 ▸ hs
  | scaleDeployment name replicas =>
    obtain ⟨d, -, rfl⟩ := h
    exact hs

theorem awaited_habit {fault : ClusterError → Prop} (r : Request) (s : Holdings) (reply : r.Reply)
    (s' : Holdings) (h : habit fault r s reply s') (hs : s.Awaited) : s'.Awaited := by
  cases r with
  | cluster c =>
    rcases reply with e | a
    · exact h.2 ▸ hs
    · exact Gives.awaited h hs
  | store c =>
    rw [h.2]
    exact hs
  | address | now | freshId | pause => exact (show s' = s from h) ▸ hs

end Holdings

namespace SimulatedCluster

/-- What may happen to a cluster: calls, and what is arranged without one. -/
inductive Event
  | call (c : ClusterCall)
  | failOn (op : ClusterOp) (name : String)
  | clearFailures
  | linger (name : String) (lookups : Nat)
  | forgetCalls
  | insertClaim (c : Claim)
  | insertDeployment (d : Deployment)

def after (s : SimulatedCluster) : Event → SimulatedCluster
  | .call c => (s.answer c).2
  | .failOn op name => s.failOn op name
  | .clearFailures => s.clearFailures
  | .linger name lookups => s.linger name lookups
  | .forgetCalls => s.forgetCalls
  | .insertClaim c => s.insertClaim c
  | .insertDeployment d => s.insertDeployment d

/-- What a cluster has come to after events, the oldest first. -/
def play (s : SimulatedCluster) (es : List Event) : SimulatedCluster :=
  es.foldl after s

/-- Claims are put in without a call only where there are none. -/
def Orderly (s : SimulatedCluster) : List Event → Prop
  | [] => True
  | .insertClaim c :: es =>
    s.claims c.metadata.nameOrEmpty = none ∧ (s.after (.insertClaim c)).Orderly es
  | e :: es => (s.after e).Orderly es

/-- What a cluster can come to from being empty. -/
def Reachable (s : SimulatedCluster) : Prop :=
  ∃ ns es, (empty ns).Orderly es ∧ (empty ns).play es = s

variable {s : SimulatedCluster} {e : Event} {es : List Event}

theorem play_concat (s : SimulatedCluster) (es : List Event) (e : Event) :
    s.play (es ++ [e]) = (s.play es).after e := by
  rw [play, List.foldl_append, List.foldl_cons, List.foldl_nil, play]

theorem orderly_concat_iff : ∀ {es : List Event} {s : SimulatedCluster},
    s.Orderly (es ++ [e]) ↔ s.Orderly es ∧ (s.play es).Orderly [e]
  | [], _ => ⟨fun h => ⟨trivial, h⟩, And.right⟩
  | e' :: es, s => by
    have ih := @orderly_concat_iff es (s.after e')
    cases e' with
    | insertClaim c => exact (and_congr_right' ih).trans and_assoc.symm
    | _ => exact ih

theorem awaited_after {f : Records} (he : s.Orderly [e]) (hs : (s.holdings f).Awaited) :
    ((s.after e).holdings f).Awaited := by
  cases e with
  | call c => exact Holdings.awaited_habit _ _ _ _ (habit_answer f s c) hs
  | insertClaim c =>
    refine hs.putClaim (hs.not_terminating ?_) (some c)
    exact congrArg (Option.any Claim.hasFinalizers) he.1
  | failOn | clearFailures | linger | forgetCalls | insertDeployment => exact hs

theorem awaited_play {f : Records} (hs : (s.holdings f).Awaited) (h : s.Orderly es) :
    ((s.play es).holdings f).Awaited := by
  induction es using List.reverseRecOn with
  | nil => exact hs
  | append_singleton es e ih =>
    obtain ⟨hes, he⟩ := orderly_concat_iff.1 h
    rw [play_concat]
    exact awaited_after he (ih hes)

theorem awaited_empty (ns : String) (f : Records) : ((empty ns).holdings f).Awaited :=
  fun _ hname => by cases hname

theorem Reachable.after (h : s.Reachable) (he : s.Orderly [e]) : (s.after e).Reachable := by
  obtain ⟨ns, es, hes, rfl⟩ := h
  exact ⟨ns, es ++ [e], orderly_concat_iff.2 ⟨hes, he⟩, play_concat _ _ _⟩

theorem Reachable.awaited (h : s.Reachable) (f : Records) : (s.holdings f).Awaited := by
  obtain ⟨ns, es, hes, rfl⟩ := h
  exact awaited_play (awaited_empty ns f) hes

end SimulatedCluster

end Steading
