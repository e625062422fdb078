import Steading.Proofs.Turns
import Steading.Simulation

/-!
# Tasks that are run side by side

A schedule lets its tasks go on as far as they can, and gives access to whoever has waited longest.
That is one of the ways in which tasks may go on (`Schedule.Follows`), so the tasks of a schedule
take turns as those of every crowd do (`Schedule.takes_turns`).

With nobody else around, a schedule carries a command out as its program is run in one go
(`Schedule.finishes_alone`): to ask for access and to give it back changes nothing else.
-/

namespace Steading

/-- What is still to be done once an activity has halted. -/
def Halted.rest {α : Type} : Halted α → Activity α
  | done a => .done a
  | paused _ rest => rest
  | waits rest => rest

def Task.rest : Task → Activity (Except Failure Answer)
  | .due _ rest => rest
  | .finished result => .done result

theorem Crowd.Runs.grantAll {η α : Type} [DecidableEq η] {w w' : Crowd η α}
    {calls : List (η × Request)} (h : w.Runs calls w') :
    w.Runs calls { w' with locks := w'.locks.grantAll } := by
  have hfold : ∀ (slots : List Nat) (l : TenantLocks η), w.Runs calls { w' with locks := l } →
      w.Runs calls { w' with locks := slots.foldl .grant l } := by
    intro slots
    induction slots with
    | nil => exact fun _ hl => hl
    | cons slot slots ih =>
      intro l hl
      refine ih _ ?_
      rcases l.grant_eq slot with hsame | hgives
      · rwa [hsame]
      · exact hl.take hgives
  exact hfold _ w'.locks h

namespace Schedule

open Crowd (Move)

variable {α : Type} {w : Crowd Nat α} {s : Schedule} {rest : Nat → Option (Activity α)}
variable {place : Nat} {a : Activity α} {b : Option (Activity α)}

/-- A crowd may have come to where a schedule is, with the same requests. -/
def Follows (w : Crowd Nat α) (s : Schedule) (rest : Nat → Option (Activity α)) : Prop :=
  w.Runs s.asked.reverse ⟨s.locks, rest⟩

namespace Follows

theorem note {r : Request} {next : r.Reply → Activity α} (h : s.Follows w rest)
    (hrest : rest place = some (.ask r next)) (reply : r.Reply) (simulation : Simulation) :
    (s.note place r simulation).Follows w (setAt rest place (some (next reply))) := by
  rw [Follows, Schedule.note, List.reverse_cons]
  exact h.call hrest reply

theorem silent {l : TenantLocks Nat} (h : s.Follows w rest) (hrest : rest place = some a)
    (hmove : Move place s.locks (some a) [] l b) :
    Follows w { s with locks := l } (setAt rest place b) :=
  Crowd.Runs.silent h (hrest ▸ hmove : Move place s.locks (rest place) [] l b)

theorem grantAll (h : s.Follows w rest) :
    Follows w { s with locks := s.locks.grantAll } rest :=
  Crowd.Runs.grantAll h

theorem go (h : s.Follows w rest) (hrest : rest place = some a) :
    (s.go place a).2.Follows w (setAt rest place (some (s.go place a).1.rest)) := by
  induction a generalizing s rest with
  | done a =>
    rw [Schedule.go, Halted.rest, setAt_self hrest]
    exact h
  | ask r next ih =>
    have hnext : ∀ (reply : r.Reply) (simulation : Simulation),
        ((s.note place r simulation).go place (next reply)).2.Follows w (setAt rest place
          (some ((s.note place r simulation).go place (next reply)).1.rest)) := by
      intro reply simulation
      have hgo := ih reply (h.note hrest reply simulation) (setAt_same _ _ _)
      rwa [setAt_setAt] at hgo
    cases r with
    | pause d =>
      simp only [Schedule.go]
      split_ifs
      · exact hnext () s.simulation
      · exact h.note hrest () s.simulation
    | _ => exact hnext _ _
  | enter t next ih =>
    have hgo := ih (h.silent hrest (.enter t next)).grantAll (setAt_same _ _ _)
    rwa [setAt_setAt] at hgo
  | wait next ih =>
    rw [Schedule.go]
    split_ifs with hholds
    · have hgo := ih (h.silent hrest (.pass next hholds)) (setAt_same _ _ _)
      rwa [setAt_setAt] at hgo
    · rw [Halted.rest, setAt_self hrest]
      exact h
  | unlock next ih =>
    have hgo := ih (h.silent hrest (.unlock next)).grantAll (setAt_same _ _ _)
    rwa [setAt_setAt] at hgo
  | leave next ih =>
    have hgo := ih (h.silent hrest (.leave next)) (setAt_same _ _ _)
    rwa [setAt_setAt] at hgo

theorem advance {w : Crowd Nat (Except Failure Answer)}
    {rest : Nat → Option (Activity (Except Failure Answer))} {t : Task} (h : s.Follows w rest)
    (hrest : rest place = some t.rest) :
    (s.advance place t).2.Follows w (setAt rest place (some (s.advance place t).1.rest)) := by
  cases t with
  | finished result =>
    rw [Schedule.advance, setAt_self hrest]
    exact h
  | due time a =>
    rw [Schedule.advance]
    split_ifs
    · rw [setAt_self hrest]
      exact h
    · have hgo := h.go hrest
      rw [Task.rest] at hgo
      split <;> rename_i hhalt <;> rw [hhalt] at hgo <;> exact hgo

end Follows

/-- What the tasks of a list have yet to do, by their places. -/
def rests (ts : List Task) (place : Nat) : Option (Activity (Except Failure Answer)) :=
  ts[place]?.map Task.rest

theorem setAt_rests (before after : List Task) (t t' : Task) :
    setAt (rests (before ++ t :: after)) before.length (some t'.rest) =
      rests (before ++ t' :: after) := by
  funext place
  by_cases hplace : place = before.length
  · subst hplace
    simp [rests, setAt_same]
  · rw [setAt_of_ne hplace]
    simp only [rests, List.getElem?_append, List.getElem?_cons]
    split_ifs with hlt hzero
    · rfl
    · omega
    · rfl

namespace Follows

variable {w : Crowd Nat (Except Failure Answer)}

theorem round (ts before : List Task) (h : s.Follows w (rests (before ++ ts))) :
    (s.round before.length ts).2.Follows w
      (rests (before ++ (s.round before.length ts).1)) := by
  induction ts generalizing before s with
  | nil => exact h
  | cons t ts ih =>
    have hrest : rests (before ++ t :: ts) before.length = some t.rest := by simp [rests]
    have hadvance := h.advance hrest
    rw [setAt_rests, List.append_cons] at hadvance
    have hround := ih _ hadvance
    rw [List.length_append, List.append_assoc] at hround
    exact hround

theorem rounds (fuel : Nat) (ts : List Task) (h : s.Follows w (rests ts)) :
    (s.rounds fuel ts).2.Follows w (rests (s.rounds fuel ts).1) := by
  induction fuel generalizing ts s with
  | zero => exact h
  | succ fuel ih =>
    have hround := h.round ts []
    rw [Schedule.rounds]
    rcases hafter : s.round 0 ts with ⟨ts', s'⟩
    rw [List.length_nil, List.nil_append, hafter] at hround
    dsimp only
    split
    · exact hround
    · exact ih _ hround

end Follows

/-- Of two commands for one tenant that need exclusive access, whatever they are run side by side
with, neither asks for anything between two requests of the other. -/
theorem takes_turns (c : Controller) (commands : List (Tenant × Command)) (s : Simulation)
    (fuel : Nat) {i j : Nat} {e e' : Tenant × Command} (hi : commands[i]? = some e)
    (hj : commands[j]? = some e') (hne : i ≠ j) (he : e.2.isExclusive = true)
    (he' : e'.2.isExclusive = true) (ht : e.1.id = e'.1.id) :
    ¬ [i, j, i].Sublist (((start s).rounds fuel
      (commands.map fun e => .ofCommand c e.1 e.2)).2.asked.map (·.1)) := by
  let job := rests (commands.map fun e => .ofCommand c e.1 e.2)
  have hjob : ∀ (k : Nat) (e : Tenant × Command), commands[k]? = some e →
      e.2.isExclusive = true → Crowd.Guards job k e.1.id := by
    intro k e hk he
    refine ⟨e.2.program c e.1, ?_⟩
    simp only [job, rests, List.getElem?_map, hk, Option.map_some, Task.ofCommand, Task.rest,
      Command.activity_eq c e.1 he]
  have hstart : (start s).Follows (Crowd.start job) job := .start
  have hruns := hstart.rounds fuel
  intro hsub
  refine hruns.turns.apart i j ⟨hne, _, hjob i e hi he, ht ▸ hjob j e' hj he'⟩ ?_
  rw [List.map_reverse]
  exact hsub.reverse

/-! ## One task alone -/

/-- In enough rounds, a task that is alone comes to a result and leaves a simulation behind. -/
def Finishes (s : Schedule) (t : Task) (result : Except Failure Answer) (s' : Simulation) : Prop :=
  ∃ bound, ∀ fuel, bound ≤ fuel →
    (s.rounds fuel [t]).1 = [.finished result] ∧ (s.rounds fuel [t]).2.simulation = s'

/-- What a task does in its turn is all that matters of how far it is. -/
theorem Finishes.of_go {s₁ : Schedule} {a a₁ : Activity (Except Failure Answer)} {time : Nat}
    {result : Except Failure Answer} {s' : Simulation} (h : s₁.Finishes (.due time a₁) result s')
    (htime : time ≤ s.simulation.elapsed) (htime₁ : time ≤ s₁.simulation.elapsed)
    (hgo : s.go 0 a = s₁.go 0 a₁) : s.Finishes (.due time a) result s' := by
  obtain ⟨bound, hbound⟩ := h
  refine ⟨bound + 1, fun fuel hfuel => ?_⟩
  obtain ⟨n, rfl⟩ := Nat.exists_eq_succ_of_ne_zero (show fuel ≠ 0 by omega)
  have hadvance : s.advance 0 (.due time a) = s₁.advance 0 (.due time a₁) := by
    simp only [advance, Nat.not_lt.2 htime, Nat.not_lt.2 htime₁, if_false, hgo]
  have hrounds : s.rounds (n + 1) [.due time a] = s₁.rounds (n + 1) [.due time a₁] := by
    simp only [Schedule.rounds, Schedule.round, hadvance]
  rw [hrounds]
  exact hbound (n + 1) (by omega)

/-- A program is gone through with its pauses as if it were run in one go. -/
theorem finishes_followedBy {f : Except Failure Answer → Activity (Except Failure Answer)}
    (hf : ∀ result (s : Schedule), ∃ locks, s.go 0 (f result) = (.done result, { s with locks }))
    (p : Program (Except Failure Answer)) (s : Schedule) (time : Nat)
    (htime : time ≤ s.simulation.elapsed) :
    s.Finishes (.due time (p.followedBy f)) (s.simulation.run p).1 (s.simulation.run p).2 := by
  induction p generalizing s time with
  | done result =>
    obtain ⟨locks, hgo⟩ := hf result s
    refine ⟨1, fun fuel hfuel => ?_⟩
    obtain ⟨n, rfl⟩ := Nat.exists_eq_succ_of_ne_zero (show fuel ≠ 0 by omega)
    simp [Schedule.rounds, Schedule.round, advance, Program.followedBy, Nat.not_lt.2 htime, hgo,
      nextTime, Simulation.run, Program.run]
  | ask r next ih =>
    -- A request that does not stop the task leaves the clock alone.
    have hnext : s.go 0 ((Program.ask r next).followedBy f) =
          (s.note 0 r (s.simulation.answer r).2).go 0
            ((next (s.simulation.answer r).1).followedBy f) →
        time ≤ (s.simulation.answer r).2.elapsed →
          s.Finishes (.due time ((Program.ask r next).followedBy f))
            (s.simulation.run (.ask r next)).1 (s.simulation.run (.ask r next)).2 :=
      fun hgo hlater => (ih _ _ time hlater).of_go htime hlater hgo
    cases r with
    | pause d =>
      by_cases hd : d = 0
      · subst hd
        exact hnext (by simp [go, Program.followedBy, Simulation.answer]) htime
      · let later := { s.simulation with elapsed := s.simulation.elapsed + d }
        obtain ⟨bound, hbound⟩ := ih () { s.note 0 (.pause d) s.simulation with simulation := later }
          (s.simulation.elapsed + d) (Nat.le_refl _)
        refine ⟨bound + 1, fun fuel hfuel => ?_⟩
        obtain ⟨n, rfl⟩ := Nat.exists_eq_succ_of_ne_zero (show fuel ≠ 0 by omega)
        have hrounds : s.rounds (n + 1) [.due time ((Program.ask (.pause d) next).followedBy f)] =
            Schedule.rounds { s.note 0 (.pause d) s.simulation with simulation := later } n
              [.due (s.simulation.elapsed + d) ((next ()).followedBy f)] := by
          have hpos : 0 < d := Nat.pos_of_ne_zero hd
          simp [Schedule.rounds, Schedule.round, advance, go, Program.followedBy,
            Nat.not_lt.2 htime, hd, nextTime, Schedule.note, hpos, later]
        rw [hrounds]
        exact hbound n (by omega)
    | _ => exact hnext rfl htime

/-- A command that nothing else is carried out with comes to what its program comes to. -/
theorem finishes_alone (c : Controller) (t : Tenant) (command : Command) (s : Simulation) :
    (start s).Finishes (.ofCommand c t command) (s.run (command.program c t)).1
      (s.run (command.program c t)).2 := by
  by_cases hexclusive : command.isExclusive = true
  · rw [Task.ofCommand, Command.activity_eq c t hexclusive]
    have hheld := finishes_followedBy (f := fun a => .unlock (.leave (.done a)))
      (fun _ _ => ⟨_, rfl⟩) (command.program c t)
      { start s with locks := TenantLocks.empty.acquire 0 t.id } 0 (Nat.zero_le _)
    exact hheld.of_go (Nat.zero_le _) (Nat.zero_le _) rfl
  · cases command with
    | inspect =>
      exact finishes_followedBy (f := .done) (fun _ _ => ⟨_, rfl⟩) _ (start s) 0 (Nat.zero_le _)
    | _ => exact absurd rfl hexclusive

end Schedule

end Steading
