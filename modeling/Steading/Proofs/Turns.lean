import Mathlib.Data.List.Basic
import Steading.Activity
import Steading.Cluster.Simulated
import Steading.Proofs.Exclusion

/-!
# Tasks of one tenant take turns

Tasks go on side by side, one thing at a time and in any order. A task that is guarded is at any
time at one of a few stages, each with what it refers to then (`Crowd.Stage`): it has access to its
tenant while it makes requests, and makes no more once it has given access back. So of two such
tasks of one tenant, the one that has made a request before the other makes none after it
(`Crowd.Turns`).

What is replied does not matter here, so nothing is said of it.
-/

namespace Steading

/-- Tasks side by side: who has asked for which tenant, and what each has yet to do, unless it is
broken off. -/
structure Crowd (η α : Type) where
  locks : TenantLocks η
  rest : η → Option (Activity α)

namespace Crowd

open TenantLocks

variable {η α : Type} {l l' : TenantLocks η} {t : TenantId} {i j k : η}
variable {a a' : Option (Activity α)} {asked : List Request} {ps qs : List (LockParty η)}

/-! ## One task -/

/-- How far a guarded task has come: what it refers to, and what it has yet to do. -/
inductive Stage (t : TenantId) : List (LockParty η) → Option (Activity α) → Prop
  | outside (p : Program α) : Stage t [] (some (.enter t (.wait (.held p))))
  | waiting {q : LockParty η} (p : Program α) (ht : q.tenant = t) (hq : q.phase ≠ .released) :
      Stage t [q] (some (.wait (.held p)))
  | inside {q : LockParty η} (p : Program α) (ht : q.tenant = t) (hq : q.phase = .holding) :
      Stage t [q] (some (.held p))
  | unlocked {q : LockParty η} (a : α) (ht : q.tenant = t) (hq : q.phase = .released) :
      Stage t [q] (some (.leave (.done a)))
  | left (a : α) : Stage t [] (some (.done a))
  | broken {qs : List (LockParty η)} (ht : ∀ q ∈ qs, q.tenant = t) : Stage t qs none

/-- Nothing is asked of the outside world from here on. -/
inductive Ended : Option (Activity α) → Prop
  | broken : Ended none
  | unlocked (a : α) : Ended (some (.leave (.done a)))
  | left (a : α) : Ended (some (.done a))

/-- Something may have been asked of the outside world before. -/
inductive Begun : Option (Activity α) → Prop
  | inside (p : Program α) : Begun (some (.held p))
  | ended {a : Option (Activity α)} (h : Ended a) : Begun a

theorem Begun.ended_of (h : Begun a) (ha : ∀ p, a ≠ some (.held p)) : Ended a := by
  cases h with
  | inside p => exact absurd rfl (ha p)
  | ended h => exact h

namespace Stage

theorem tenant_eq (h : Stage t ps a) : ∀ q ∈ ps, q.tenant = t := by
  cases h with
  | outside | left => simp
  | waiting _ ht | inside _ ht | unlocked _ ht => simpa using ht
  | broken ht => exact ht

/-- Whoever waits for a tenant may be given access at any time; that is no stage of its own. -/
theorem given (h : Stage t ps a) (hgiven : List.Forall₂ LockParty.Given ps qs) :
    Stage t qs a := by
  cases h with
  | outside p =>
    cases hgiven
    exact .outside p
  | waiting p ht hq =>
    obtain _ | ⟨hq', ⟨⟩⟩ := hgiven
    refine .waiting p (hq'.tenant_eq.trans ht) ?_
    rcases hq' with rfl | ⟨-, rfl⟩
    · exact hq
    · simp
  | inside p ht hq =>
    obtain _ | ⟨hq', ⟨⟩⟩ := hgiven
    obtain rfl := hq'.eq_of_ne (by simp [hq])
    exact .inside p ht hq
  | unlocked a ht hq =>
    obtain _ | ⟨hq', ⟨⟩⟩ := hgiven
    obtain rfl := hq'.eq_of_ne (by simp [hq])
    exact .unlocked a ht hq
  | left a =>
    cases hgiven
    exact .left a
  | broken ht =>
    refine .broken ?_
    induction hgiven with
    | nil => exact ht
    | cons hpq _ ih =>
      rw [List.forall_mem_cons] at ht ⊢
      exact ⟨hpq.tenant_eq.trans ht.1, ih ht.2⟩

theorem parties_eq_nil {b : α} (h : Stage t ps a) (ha : a = some (.done b)) : ps = [] := by
  cases h with
  | left => rfl
  | inside p => cases p <;> cases ha
  | _ => cases ha

end Stage

variable [DecidableEq η]

/-- What a task may do at a time: what it asks of the outside world, and what becomes of the locks
and of what it has yet to do. -/
inductive Move (i : η) (l : TenantLocks η) :
    Option (Activity α) → List Request → TenantLocks η → Option (Activity α) → Prop
  | ask {r : Request} (next : r.Reply → Activity α) (reply : r.Reply) :
      Move i l (some (.ask r next)) [r] l (some (next reply))
  | enter (t : TenantId) (next : Activity α) :
      Move i l (some (.enter t next)) [] (l.enter i t) (some next)
  | pass (next : Activity α) (h : l.holds i = true) :
      Move i l (some (.wait next)) [] l (some next)
  | unlock (next : Activity α) : Move i l (some (.unlock next)) [] (l.unlock i) (some next)
  | leave (next : Activity α) : Move i l (some (.leave next)) [] (l.leave i) (some next)
  | breakOff (a : Option (Activity α)) : Move i l a [] l none
  /-- A task that is broken off gives back its access and lets go of its slot, some time later. -/
  | giveBack : Move i l none [] (l.unlock i) none
  | letGo : Move i l none [] (l.leave i) none

namespace Move

theorem partiesOf_of_ne (h : Move i l a asked l' a') (hk : k ≠ i) :
    l'.partiesOf k = l.partiesOf k := by
  cases h with
  | ask | pass | breakOff => rfl
  | enter t next => exact partiesOf_enter_of_ne l t hk
  | unlock | giveBack => exact partiesOf_unlock_of_ne l hk
  | leave | letGo => exact partiesOf_leave_of_ne l hk

theorem kept (h : Move i l a asked l' a') (hkept : l.Kept) : l'.Kept := by
  cases h with
  | ask | pass | breakOff => exact hkept
  | enter t next => exact hkept.enter i t
  | unlock | giveBack => exact hkept.unlock i
  | leave | letGo => exact hkept.leave i

theorem reachable (h : Move i l a asked l' a') (hl : l.Reachable) : l'.Reachable := by
  cases h with
  | ask | pass | breakOff => exact hl
  | enter t next => exact hl.step (.enter i t)
  | unlock | giveBack => exact hl.step (.unlock i)
  | leave | letGo => exact hl.step (.leave i)

theorem ended (h : Move i l a asked l' a') (ha : Ended a) : asked = [] ∧ Ended a' := by
  cases ha with
  | broken => cases h <;> exact ⟨rfl, .broken⟩
  | unlocked a =>
    cases h with
    | leave => exact ⟨rfl, .left a⟩
    | breakOff => exact ⟨rfl, .broken⟩
  | left a =>
    cases h with
    | breakOff => exact ⟨rfl, .broken⟩

theorem begun (h : Move i l a asked l' a') (ha : Begun a) : Begun a' := by
  cases ha with
  | inside p =>
    cases p with
    | done a =>
      cases h with
      | unlock => exact .ended (.unlocked a)
      | breakOff => exact .ended .broken
    | ask r next =>
      cases h with
      | ask _ reply => exact .inside (next reply)
      | breakOff => exact .ended .broken
  | ended ha => exact .ended (h.ended ha).2

theorem asked_eq (h : Move i l a asked l' a') : asked = [] ∨ ∃ r, asked = [r] := by
  cases h with
  | ask => exact .inr ⟨_, rfl⟩
  | _ => exact .inl rfl

end Move

namespace Stage

theorem move (h : Stage t (l.partiesOf i) a) (hmove : Move i l a asked l' a') :
    Stage t (l'.partiesOf i) a' := by
  have htenant := h.tenant_eq
  generalize hps : l.partiesOf i = ps at h
  cases h with
  | outside p =>
    cases hmove with
    | enter =>
      obtain ⟨slot, hslot⟩ := partiesOf_enter_self l i t
      rw [hslot, hps]
      exact .waiting p rfl (by simp)
    | breakOff => exact .broken htenant
  | waiting p ht hq =>
    cases hmove with
    | pass _ hholds =>
      obtain ⟨q', hq', hphase⟩ := holds_iff_partiesOf.1 hholds
      rw [hps, List.mem_singleton] at hq'
      rw [hps]
      exact .inside p ht (hq' ▸ hphase)
    | breakOff => exact .broken htenant
  | inside p ht hq =>
    cases p with
    | done a =>
      cases hmove with
      | unlock =>
        rw [partiesOf_unlock_self, hps, List.map_singleton, if_pos hq]
        exact .unlocked a ht rfl
      | breakOff => exact .broken htenant
    | ask r next =>
      cases hmove with
      | ask _ reply =>
        rw [hps]
        exact .inside (next reply) ht hq
      | breakOff => exact .broken htenant
  | unlocked a ht hq =>
    cases hmove with
    | leave =>
      rw [partiesOf_leave_self]
      exact .left a
    | breakOff => exact .broken htenant
  | left a =>
    cases hmove with
    | breakOff => exact .broken htenant
  | broken ht =>
    cases hmove with
    | breakOff => exact .broken htenant
    | giveBack =>
      rw [partiesOf_unlock_self]
      refine .broken (List.forall_mem_map.2 fun q hq => ?_)
      split_ifs <;> exact htenant q hq
    | letGo =>
      rw [partiesOf_leave_self]
      exact .broken (by simp)

theorem exists_held {r : Request} (h : Stage t ps a) (hmove : Move i l a [r] l' a') :
    ∃ p, a = some (.held p) := by
  cases h with
  | inside p => exact ⟨p, rfl⟩
  | _ => cases hmove

theorem holds {p : Program α} (h : Stage t (l.partiesOf i) a) (ha : a = some (.held p)) :
    l.holds i = true := by
  generalize hps : l.partiesOf i = ps at h
  cases h with
  | inside _ _ hq => exact holds_iff_partiesOf.2 ⟨_, hps ▸ List.mem_singleton_self _, hq⟩
  | _ => cases p <;> cases ha

end Stage

/-! ## Tasks side by side -/

variable {job : η → Option (Activity α)} {w w' : Crowd η α}
variable {calls new : List (η × Request)}

def start (job : η → Option (Activity α)) : Crowd η α :=
  ⟨.empty, job⟩

/-- What may happen at a time, with the request that is made. -/
inductive Step (w : Crowd η α) : List (η × Request) → Crowd η α → Prop
  | take {l : TenantLocks η} (h : w.locks.Gives l) : w.Step [] { w with locks := l }
  | move {i : η} {asked : List Request} {l : TenantLocks η}
      {a : Option (Activity α)} (h : Move i w.locks (w.rest i) asked l a) :
      w.Step (asked.map (i, ·)) ⟨l, setAt w.rest i a⟩

/-- With these requests, the oldest first, one thing after the other may happen. -/
inductive Runs (w : Crowd η α) : List (η × Request) → Crowd η α → Prop
  | start : w.Runs [] w
  | next {calls new : List (η × Request)} {w₁ w₂ : Crowd η α} (h : w.Runs calls w₁)
      (hstep : w₁.Step new w₂) : w.Runs (calls ++ new) w₂

def Guards (job : η → Option (Activity α)) (i : η) (t : TenantId) : Prop :=
  ∃ p, job i = some (.guarded t p)

/-- Both are guarded for one tenant. -/
def Rivals (job : η → Option (Activity α)) (i j : η) : Prop :=
  i ≠ j ∧ ∃ t, Guards job i t ∧ Guards job j t

theorem Step.exists_move {r : Request} (h : w.Step [(i, r)] w') :
    ∃ l a, Move i w.locks (w.rest i) [r] l a := by
  generalize hnew : [(i, r)] = new at h
  cases h with
  | take => cases hnew
  | move hmove =>
    obtain ⟨r', rfl, heq⟩ := List.map_eq_singleton_iff.1 hnew.symm
    obtain ⟨rfl, rfl⟩ := Prod.mk.inj heq
    exact ⟨_, _, hmove⟩

namespace Runs

theorem take (h : w.Runs calls w') (hgives : w'.locks.Gives l) :
    w.Runs calls { w' with locks := l } := by
  have hnext := h.next (.take hgives)
  rwa [List.append_nil] at hnext

theorem silent (h : w.Runs calls w') (hmove : Move i w'.locks (w'.rest i) [] l a) :
    w.Runs calls ⟨l, setAt w'.rest i a⟩ := by
  have hnext := h.next (.move hmove)
  rwa [List.map_nil, List.append_nil] at hnext

theorem call {r : Request} {next : r.Reply → Activity α} (h : w.Runs calls w')
    (hrest : w'.rest i = some (.ask r next)) (reply : r.Reply) :
    w.Runs (calls ++ [(i, r)]) { w' with rest := setAt w'.rest i (some (next reply)) } :=
  h.next (.move (hrest ▸ Move.ask next reply : Move i w'.locks (w'.rest i) [r] _ _))

end Runs

/-- A guarded task is at one of its stages; if a rival has made a request since it made one, then it
makes none again. -/
structure Turns (job : η → Option (Activity α)) (calls : List (η × Request))
    (w : Crowd η α) : Prop where
  kept : w.locks.Kept
  staged : ∀ i t, Guards job i t → Stage t (w.locks.partiesOf i) (w.rest i)
  called : ∀ i t, Guards job i t → i ∈ calls.map (·.1) → Begun (w.rest i)
  overtaken : ∀ i j, Rivals job i j → [i, j].Sublist (calls.map (·.1)) → Ended (w.rest i)
  apart : ∀ i j, Rivals job i j → ¬ [i, j, i].Sublist (calls.map (·.1))

/-- What a change at `i` keeps there it keeps everywhere. -/
theorem keeps_setAt {β : Type} {f : η → β} {P : β → Prop} {b : β} (hP : P (f i) → P b)
    (hk : P (f k)) : P (setAt f i b k) := by
  by_cases hki : k = i
  · subst hki
    rw [setAt_same]
    exact hP hk
  · rwa [setAt_of_ne hki]

theorem append_sublist_append {β : Type} (xs : List β) {x y : β} {l : List β}
    (h : (xs ++ [x]).Sublist (l ++ [y])) : (xs ++ [x]).Sublist l ∨ x = y ∧ xs.Sublist l := by
  have hreverse := h.reverse
  rw [List.reverse_append, List.reverse_append] at hreverse
  rcases List.cons_sublist_cons'.1 hreverse with hsub | ⟨rfl, hsub⟩
  · exact .inl (by simpa using hsub.reverse)
  · exact .inr ⟨rfl, by simpa using hsub.reverse⟩

namespace Turns

theorem start (job : η → Option (Activity α)) :
    Turns job [] (.start job) where
  kept := .empty
  staged i t hi := by
    obtain ⟨p, hp⟩ := hi
    show Stage t [] (job i)
    rw [hp]
    exact .outside p
  called _ _ _ hi := by cases hi
  overtaken _ _ _ h := by cases h
  apart _ _ _ h := by cases h

theorem eq_of_holds (h : Turns job calls w) (hi : Guards job i t) (hj : Guards job j t)
    (hil : w.locks.holds i = true) (hjl : w.locks.holds j = true) : i = j := by
  have hmem : ∀ k, Guards job k t → w.locks.holds k = true →
      ∃ p ∈ w.locks.holders t, p.who = k := by
    intro k hk hkl
    obtain ⟨p, hp, hphase⟩ := holds_iff_partiesOf.1 hkl
    obtain ⟨hparty, hwho⟩ := List.mem_filter.1 hp
    exact ⟨p, List.mem_filter.2 ⟨hparty, decide_eq_true ⟨(h.staged k t hk).tenant_eq p hp, hphase⟩⟩,
      of_decide_eq_true hwho⟩
  obtain ⟨p, hp, rfl⟩ := hmem i hi hil
  obtain ⟨q, hq, rfl⟩ := hmem j hj hjl
  rw [h.kept.eq_of_mem_holders hp hq]

theorem take (h : Turns job calls w) (hgives : w.locks.Gives l) :
    Turns job calls { w with locks := l } :=
  { h with
    kept := h.kept.gives hgives
    staged := fun i t hi => (h.staged i t hi).given (hgives.forall₂_partiesOf i) }

/-- What is true of the requests made so far stays true. -/
theorem moved {a : Option (Activity α)} (h : Turns job calls w)
    (hmove : Move i w.locks (w.rest i) asked l a) :
    Turns job calls ⟨l, setAt w.rest i a⟩ where
  kept := hmove.kept h.kept
  staged k t hk := by
    show Stage t (l.partiesOf k) (setAt w.rest i a k)
    by_cases hki : k = i
    · subst hki
      rw [setAt_same]
      exact (h.staged k t hk).move hmove
    · rw [setAt_of_ne hki, hmove.partiesOf_of_ne hki]
      exact h.staged k t hk
  called k t hk hmem := keeps_setAt hmove.begun (h.called k t hk hmem)
  overtaken k j hkj hsub := keeps_setAt (fun hi => (hmove.ended hi).2) (h.overtaken k j hkj hsub)
  apart := h.apart

theorem call {r : Request} {a : Option (Activity α)} (h : Turns job calls w)
    (hmove : Move i w.locks (w.rest i) [r] l a) :
    Turns job (calls ++ [(i, r)]) ⟨l, setAt w.rest i a⟩ := by
  have hmoved := h.moved hmove
  refine { hmoved with
    called := fun k t hk hmem => ?_
    overtaken := fun k j hkj hsub => ?_
    apart := fun k j hkj hsub => ?_ }
  · rw [List.map_append, List.mem_append] at hmem
    rcases hmem with hmem | hmem
    · exact hmoved.called k t hk hmem
    · obtain rfl := List.mem_singleton.1 hmem
      obtain ⟨p, hp⟩ := (h.staged k t hk).exists_held hmove
      exact keeps_setAt hmove.begun (hp ▸ .inside p)
  · rw [List.map_append] at hsub
    rcases append_sublist_append [k] hsub with hsub | ⟨rfl, hbefore⟩
    · exact hmoved.overtaken k j hkj hsub
    · -- `j` has access as it makes its request, so `k`, which made one before, has given it back.
      obtain ⟨hne, t, hk, hj⟩ := hkj
      obtain ⟨p, hp⟩ := (h.staged j t hj).exists_held hmove
      have hjl := (h.staged j t hj).holds hp
      have hbegun := h.called k t hk (List.singleton_sublist.1 hbefore)
      have hended : Ended (w.rest k) := hbegun.ended_of fun p hkp =>
        hne (h.eq_of_holds hk hj ((h.staged k t hk).holds hkp) hjl)
      exact keeps_setAt (fun hi => (hmove.ended hi).2) hended
  · rw [List.map_append] at hsub
    rcases append_sublist_append [k, j] hsub with hsub | ⟨rfl, hbefore⟩
    · exact h.apart k j hkj hsub
    · -- `j` has made a request since, so there is nothing left that could be asked.
      cases (hmove.ended (h.overtaken k j hkj hbefore)).1

theorem step (h : Turns job calls w) (hstep : w.Step new w') : Turns job (calls ++ new) w' := by
  cases hstep with
  | take hgives =>
    rw [List.append_nil]
    exact h.take hgives
  | move hmove =>
    rcases hmove.asked_eq with rfl | ⟨r, rfl⟩
    · rw [List.map_nil, List.append_nil]
      exact h.moved hmove
    · exact h.call hmove

end Turns

theorem Runs.turns (h : (Crowd.start job).Runs calls w) : Turns job calls w := by
  induction h with
  | start => exact .start job
  | next _ hstep ih => exact ih.step hstep

theorem Runs.reachable (h : (Crowd.start job).Runs calls w) : w.locks.Reachable := by
  induction h with
  | start => exact .empty
  | next _ hstep ih =>
    cases hstep with
    | take hgives => exact ih.step (.take hgives)
    | move hmove => exact hmove.reachable ih

end Crowd

theorem Command.activity_eq (c : Controller) (t : Tenant) {command : Command}
    (h : command.isExclusive = true) :
    command.activity c t = .guarded t.id (command.program c t) := by
  cases command with
  | inspect => cases h
  | _ => rfl

def Controller.tasks {η : Type} (c : Controller) (ops : η → Tenant × Command) (i : η) :
    Option (Activity (Except Failure Answer)) :=
  some ((ops i).2.activity c (ops i).1)

theorem Controller.guards_tasks {η : Type} (c : Controller) {ops : η → Tenant × Command} {i : η}
    (h : (ops i).2.isExclusive = true) : Crowd.Guards (c.tasks ops) i (ops i).1.id :=
  ⟨_, congrArg some (Command.activity_eq c (ops i).1 h)⟩

namespace TenantLocks

/-- However parties come and go, the locks are in order. However operations go on side by side, the
locks are in such a state, and one that needs exclusive access makes requests only while it has
access, makes none between two of another one for the same tenant, and refers to nothing when it
has come to its end. -/
theorem mutual_exclusion {η : Type} [DecidableEq η] :
    (∀ l : TenantLocks η, l.Reachable → l.Orderly) ∧
      ∀ (c : Controller) (ops : η → Tenant × Command) (calls : List (η × Request))
        (w : Crowd η (Except Failure Answer)), (Crowd.start (c.tasks ops)).Runs calls w →
          w.locks.Reachable ∧
          (∀ i, (ops i).2.isExclusive = true →
            (∀ r w', w.Step [(i, r)] w' → w.locks.holds i = true) ∧
              ∀ result, w.rest i = some (.done result) → w.locks.partiesOf i = []) ∧
          ∀ i j, i ≠ j → (ops i).2.isExclusive = true → (ops j).2.isExclusive = true →
            (ops i).1.id = (ops j).1.id → ¬ [i, j, i].Sublist (calls.map (·.1)) := by
  refine ⟨fun l h => h.kept.orderly, fun c ops calls w h => ⟨h.reachable, fun i hi => ?_, ?_⟩⟩
  · have hstage := h.turns.staged i _ (c.guards_tasks hi)
    refine ⟨fun r w' hstep => ?_, fun result => hstage.parties_eq_nil⟩
    obtain ⟨l, a, hmove⟩ := hstep.exists_move
    obtain ⟨p, hp⟩ := hstage.exists_held hmove
    exact hstage.holds hp
  · intro i j hne hi hj ht
    exact h.turns.apart i j ⟨hne, _, c.guards_tasks hi, ht ▸ c.guards_tasks hj⟩

/-- Two deletions for one tenant: the second is at work as soon as the first has given its access
back, which has not let go of its slot yet. -/
theorem mutual_exclusion_of_deletions :
    ∃ calls w, (Crowd.start (Controller.tasks default fun _ : Bool => (default, .delete))).Runs
        calls w ∧
      calls.map (·.1) = [false, false, false, false, true] ∧ w.locks.active = 1 ∧
        w.locks.inPhase .released = [false] ∧ w.locks.holds true = true ∧ w.locks.Orderly ∧
        ¬ [false, true, false].Sublist (calls.map (·.1)) := by
  let job : Bool → _ := Controller.tasks default fun _ : Bool => (default, .delete)
  let locks (first second : LockPhase) : TenantLocks Bool :=
    ⟨[(default, 0)], [⟨false, default, 0, first⟩, ⟨true, default, 0, second⟩], 1⟩
  have asked : (Crowd.start job).Runs [] ⟨locks .waiting .waiting, _⟩ :=
    (Crowd.Runs.start.silent (i := false) (.enter default _)).silent (i := true) (.enter default _)
  have taken : (Crowd.start job).Runs [] ⟨locks .holding .waiting, _⟩ :=
    (asked.take ⟨[], _, _, rfl, rfl, rfl, rfl⟩).silent (i := false) (.pass _ rfl)
  have deleted := (((taken.call (i := false) rfl (.ok none)).call (i := false) rfl (.ok ())).call
    (i := false) rfl (.ok ())).call (i := false) rfl (.ok false)
  have given : (Crowd.start job).Runs _ ⟨locks .released .waiting, _⟩ :=
    deleted.silent (i := false) (.unlock _)
  have passed : (Crowd.start job).Runs _ ⟨locks .released .holding, _⟩ :=
    (given.take ⟨[_], _, _, rfl, rfl, rfl, rfl⟩).silent (i := true) (.pass _ rfl)
  have called := passed.call (i := true) rfl (.ok none)
  obtain ⟨hreachable, -, hapart⟩ := mutual_exclusion.2 _ _ _ _ called
  exact ⟨_, _, called, rfl, rfl, rfl, rfl, mutual_exclusion.1 _ hreachable,
    hapart false true (by decide) rfl rfl rfl⟩

end TenantLocks

end Steading
