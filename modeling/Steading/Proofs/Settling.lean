import Mathlib.Algebra.Order.BigOperators.Group.Finset
import Mathlib.Algebra.Order.Floor.Div
import Steading.Proofs.Run
import Steading.Settings

/-!
# How long a claim is waited for

If the first pause is not empty and no longer than the longest (`SettlePolicy.Paced`), every pause
but the last is at least as long as the first, so the time that is left bounds how often a claim is
looked up. What is asked in a wait, and when, is known from the lookup that ends it
(`SettlePolicy.EndsAt`).

By the clock, a wait ends at a deadline (`SettlePolicy.waitByClock`). That is the same wait, and no
point in time or duration on the way is too large to be written down.
-/

namespace Steading

open Finset

namespace Duration

theorem eq_of_nanos_eq {a b : Duration} (h : a.nanos = b.nanos) : a = b := by
  cases a
  cases b
  cases h
  rfl

theorem nanos_min (a b : Duration) : (min a b).nanos = min a.nanos b.nanos :=
  apply_ite nanos (a ≤ b) a b

theorem nanos_max (a b : Duration) : (max a b).nanos = max a.nanos b.nanos :=
  apply_ite nanos (a ≤ b) b a

end Duration

/-- The seconds of a point in time have 63 bits. -/
def Instant.bound : Nat :=
  0x8000000000000000 * 1000000000

/-- A point in time, in nanoseconds. -/
structure Instant where
  nanos : Nat
  lt_bound : nanos < Instant.bound

namespace Instant

def origin : Instant :=
  ⟨0, by decide⟩

/-- A while later, if that can be written down. -/
def after? (t : Instant) (d : Duration) : Option Instant :=
  if h : t.nanos + d.nanos < bound then some ⟨t.nanos + d.nanos, h⟩ else none

theorem exists_after? {t : Instant} {d : Duration} (h : t.nanos + d.nanos < bound) :
    ∃ later, t.after? d = some later ∧ later.nanos = t.nanos + d.nanos :=
  ⟨_, dif_pos h, rfl⟩

/-- How long it has been since another point in time, if that has passed. -/
def since? (t earlier : Instant) : Option Duration :=
  if earlier.nanos ≤ t.nanos then
    some ⟨t.nanos - earlier.nanos, lt_of_le_of_lt (Nat.sub_le _ _)
      (t.lt_bound.trans_le (by decide))⟩
  else none

/-- Up to a deadline, what is left and the end of a pause can be written down. -/
theorem exists_pause {deadline now : Instant} {left : Nat} (h : now.nanos + left = deadline.nanos)
    (backoff : Duration) :
    ∃ rest later, deadline.since? now = some rest ∧
      (min backoff rest).nanos = min backoff.nanos left ∧
      now.after? (min backoff rest) = some later ∧
      later.nanos = now.nanos + min backoff.nanos left := by
  obtain ⟨rest, hsince, hrest⟩ :
      ∃ rest, deadline.since? now = some rest ∧ rest.nanos = deadline.nanos - now.nanos :=
    ⟨_, if_pos (by omega), rfl⟩
  have hmin : (min backoff rest).nanos = min backoff.nanos left := by
    rw [Duration.nanos_min, hrest, ← h, Nat.add_sub_cancel_left]
  obtain ⟨later, hafter, hlater⟩ := exists_after? (t := now)
    (lt_of_le_of_lt (by rw [hmin]; omega) deadline.lt_bound)
  rw [hmin] at hlater
  exact ⟨rest, later, hsince, hmin, hafter, hlater⟩

end Instant

/-- How often a claim has been looked up, and how long the pauses were. -/
structure Watch where
  lookups : Nat
  elapsed : Nat

/-- Each lookup of a claim gets the next of the answers, and time goes by in pauses only. Nothing
else is answered. -/
def Watch.habit (answers : Nat → Except ClusterError Claim) : Habit Watch
  | .cluster (.getClaim _), w, reply, w' =>
    reply = answers w.lookups ∧ w' = { w with lookups := w.lookups + 1 }
  | .pause nanos, w, _, w' => w' = { w with elapsed := w.elapsed + nanos }
  | _, _, _, _ => False

/-- The first pause is not empty, and no longer than the longest. -/
structure SettlePolicy.Paced (p : SettlePolicy) : Prop where
  nonempty : 0 < p.initialBackoff.nanos
  le_max : p.initialBackoff.nanos ≤ p.maxBackoff.nanos

theorem Settings.paced_settle (get : String → Option String) :
    (fromLookup get).settle.Paced := by
  have hmillis : ∀ n : UInt64, 1 ≤ (max n 1).toNat := by
    intro n
    show 1 ≤ (if n ≤ 1 then (1 : UInt64) else n).toNat
    split_ifs with h
    · exact le_rfl
    · exact Nat.le_of_lt (Nat.lt_of_not_le h)
  refine ⟨?_, ?_⟩
  · have hone := hmillis (number get "LONGHALL_SETTLE_BACKOFF_MS" 250)
    show 0 < min (_ * 1000000) (Duration.bound - 1)
    simp only [Duration.bound]
    omega
  · show _ ≤ (max SettlePolicy.default.maxBackoff _).nanos
    rw [Duration.nanos_max]
    exact le_max_right _ _

namespace SettlePolicy

/-- The `k`-th pause as long as enough time is left. -/
def backoff (p : SettlePolicy) (k : Nat) : Duration :=
  ⟨min (p.initialBackoff.nanos * 2 ^ k) p.maxBackoff.nanos,
    lt_of_le_of_lt (min_le_right _ _) p.maxBackoff.lt_bound⟩

/-- How much of the time has gone by after so many pauses. -/
def waited (p : SettlePolicy) (patience k : Nat) : Nat :=
  min (∑ j ∈ range k, (p.backoff j).nanos) patience

/-- The `k`-th pause. -/
def pauseAt (p : SettlePolicy) (patience k : Nat) : Nat :=
  min (p.backoff k).nanos (patience - p.waited patience k)

section

variable {p : SettlePolicy} {patience k : Nat}

theorem backoff_zero (hp : p.Paced) : p.backoff 0 = p.initialBackoff := by
  refine Duration.eq_of_nanos_eq ?_
  show min (_ * 2 ^ 0) _ = _
  rw [pow_zero, mul_one, min_eq_left hp.le_max]

/-- That doubling stops at the longest of all durations does not show: no pause is longer than the
longest of the policy. -/
theorem min_double_backoff (p : SettlePolicy) (k : Nat) :
    min (p.backoff k).double p.maxBackoff = p.backoff (k + 1) := by
  refine Duration.eq_of_nanos_eq ?_
  have hbound := p.maxBackoff.lt_bound
  rw [Duration.nanos_min]
  show min (min (2 * min _ _) _) _ = min _ _
  rw [pow_succ, ← mul_assoc]
  omega

theorem initialBackoff_le_backoff (hp : p.Paced) (k : Nat) :
    p.initialBackoff.nanos ≤ (p.backoff k).nanos :=
  le_min (Nat.le_mul_of_pos_right _ (Nat.two_pow_pos k)) hp.le_max

theorem backoff_pos (hp : p.Paced) (k : Nat) : 0 < (p.backoff k).nanos :=
  hp.nonempty.trans_le (initialBackoff_le_backoff hp k)

theorem pauseAt_le (p : SettlePolicy) (patience k : Nat) :
    p.pauseAt patience k ≤ p.maxBackoff.nanos :=
  (min_le_left _ _).trans (min_le_right _ _)

theorem waited_zero (p : SettlePolicy) (patience : Nat) : p.waited patience 0 = 0 := by
  rw [waited, sum_range_zero, Nat.zero_min]

theorem waited_le (p : SettlePolicy) (patience k : Nat) : p.waited patience k ≤ patience :=
  min_le_right _ _

theorem waited_succ (p : SettlePolicy) (patience k : Nat) :
    p.waited patience (k + 1) = p.waited patience k + p.pauseAt patience k := by
  rw [pauseAt, waited, waited, sum_range_succ]
  omega

theorem waited_eq_of_le (hp : p.Paced) (h : patience ≤ p.initialBackoff.nanos * k) :
    p.waited patience k = patience := by
  have hsum : (range k).card • p.initialBackoff.nanos ≤ ∑ j ∈ range k, (p.backoff j).nanos :=
    card_nsmul_le_sum _ _ _ fun j _ => initialBackoff_le_backoff hp j
  rw [card_range, smul_eq_mul, mul_comm] at hsum
  exact min_eq_right (h.trans hsum)

end

/-- The first lookup that does not find the claim, or else finds it when no time is left. -/
structure EndsAt (p : SettlePolicy) (patience : Nat) (answers : Nat → Except ClusterError Claim)
    (n : Nat) : Prop where
  before : ∀ k < n, (answers k).isOk = true ∧ p.waited patience k < patience
  last : (answers n).isOk = true → p.waited patience n = patience

theorem exists_endsAt {p : SettlePolicy} (hp : p.Paced) (patience : Nat)
    (answers : Nat → Except ClusterError Claim) :
    ∃ n ≤ patience ⌈/⌉ p.initialBackoff.nanos, p.EndsAt patience answers n := by
  have hlast : (answers (patience ⌈/⌉ p.initialBackoff.nanos)).isOk = true →
      p.waited patience (patience ⌈/⌉ p.initialBackoff.nanos) = patience :=
    fun _ => waited_eq_of_le hp (le_smul_ceilDiv hp.nonempty)
  have hover : ∃ n, (answers n).isOk = true → p.waited patience n = patience := ⟨_, hlast⟩
  classical
  refine ⟨Nat.find hover, Nat.find_le hlast, fun k hk => ?_, Nat.find_spec hover⟩
  obtain ⟨hseen, hleft⟩ := Classical.not_imp.1 (Nat.find_min hover hk)
  exact ⟨hseen, lt_of_le_of_ne (p.waited_le patience k) hleft⟩

section

variable {p : SettlePolicy} {name : String}

/-- A claim that is seen while time is left is looked up again after a pause. -/
theorem waitFor_of_pos {left empty : Nat} {backoff : Duration} (h : 0 < backoff.nanos) :
    p.waitFor name left backoff empty =
      .ask (.cluster (.getClaim name)) fun reply : Except ClusterError Claim =>
        if reply.isOk then
          if left = 0 then .done (.error (.stillPresent name p.timeout))
          else
            .ask (.pause (min backoff.nanos left)) fun _ =>
              p.waitFor name (left - min backoff.nanos left) (min backoff.double p.maxBackoff)
                empty
        else .done (.ok ()) := by
  rw [waitFor.eq_def]
  refine congrArg (Program.ask _) (funext fun reply : Except ClusterError Claim => ?_)
  cases reply with
  | error e => rfl
  | ok c =>
    show (if left = 0 then _ else if 0 < backoff.nanos then _ else _) = ite _ _ _
    rw [if_pos h]
    rfl

/-! ## By the clock -/

/-- Waits until a deadline, for at most so many rounds. It comes to nothing if there are more, or if
a point in time or a duration cannot be written down. -/
def waitByClock (p : SettlePolicy) (name : String) (deadline : Instant) :
    Nat → Instant → Duration → Program (Option (Except ProvisionError Unit))
  | 0, _, _ => return none
  | rounds + 1, now, backoff => do
    if ← claimExists name then
      if deadline.nanos ≤ now.nanos then return some (.error (.stillPresent name p.timeout))
      else
        match deadline.since? now with
        | none => return none
        | some left =>
          match now.after? (min backoff left) with
          | none => return none
          | some later =>
            .ask (.pause (min backoff left).nanos) fun _ =>
              waitByClock p name deadline rounds later (min backoff.double p.maxBackoff)
    else return some (.ok ())

/-- One round by the clock is one round of the wait. -/
theorem waitByClock_succ {deadline now : Instant} {rounds left empty : Nat} {backoff : Duration}
    (h : 0 < backoff.nanos) (hleft : now.nanos + left = deadline.nanos)
    (hnext : 0 < left → ∀ later : Instant,
      later.nanos + (left - min backoff.nanos left) = deadline.nanos →
      p.waitByClock name deadline rounds later (min backoff.double p.maxBackoff) =
        some <$> p.waitFor name (left - min backoff.nanos left) (min backoff.double p.maxBackoff)
          empty) :
    p.waitByClock name deadline (rounds + 1) now backoff =
      some <$> p.waitFor name left backoff empty := by
  rw [waitFor_of_pos h]
  refine congrArg (Program.ask _) (funext fun reply => ?_)
  cases reply with
  | error e => rfl
  | ok c =>
    have hover : deadline.nanos ≤ now.nanos ↔ left = 0 := by omega
    obtain ⟨rest, later, hsince, hmin, hafter, hlater⟩ := Instant.exists_pause hleft backoff
    show (if deadline.nanos ≤ now.nanos then _ else _) = some <$> (if left = 0 then _ else _)
    by_cases hzero : left = 0
    · rw [if_pos hzero, if_pos (hover.2 hzero)]
      rfl
    · rw [if_neg hzero, if_neg fun h => hzero (hover.1 h), hsince]
      show (match now.after? _ with | none => _ | some later => _) = Program.ask _ _
      rw [hafter]
      show Program.ask (.pause (min backoff rest).nanos) _ = _
      rw [hmin]
      exact congrArg (Program.ask _)
        (funext fun _ => hnext (Nat.pos_of_ne_zero hzero) later (by omega))

/-- Every round takes at least the first pause off the time that is left, or all of it. -/
theorem waitByClock_eq (hp : p.Paced) {deadline : Instant} {rounds empty : Nat} :
    ∀ {left k : Nat} {now : Instant}, now.nanos + left = deadline.nanos →
      left ≤ p.initialBackoff.nanos * rounds →
      p.waitByClock name deadline (rounds + 1) now (p.backoff k) =
        some <$> p.waitFor name left (p.backoff k) empty := by
  induction rounds with
  | zero =>
    intro left k now hleft hrounds
    exact waitByClock_succ (backoff_pos hp k) hleft fun hpos => by omega
  | succ rounds ih =>
    intro left k now hleft hrounds
    refine waitByClock_succ (backoff_pos hp k) hleft fun _ later hlater => ?_
    rw [min_double_backoff]
    refine ih hlater ?_
    have hfirst := initialBackoff_le_backoff hp k
    rw [Nat.mul_succ] at hrounds
    omega

/-- When waiting has to stop that starts now: after the timeout, or after thirty years if that
cannot be written down. -/
def deadline? (p : SettlePolicy) (start : Instant) : Option Instant :=
  (start.after? p.timeout).or (start.after? (.ofNanos forever))

/-- How long may be waited from now on. -/
def patienceFrom (p : SettlePolicy) (start : Instant) : Nat :=
  if start.nanos + p.timeout.nanos < Instant.bound then p.timeout.nanos else forever

/-- Waits for a claim to go, from now on. -/
def waitFrom (p : SettlePolicy) (start : Instant) (name : String) :
    Program (Except ProvisionError Unit) :=
  p.waitFor name (p.patienceFrom start) p.initialBackoff emptyPauses

theorem waitFrom_origin (p : SettlePolicy) (name : String) :
    p.waitFrom .origin name = p.waitUntilAbsent name := by
  have hsecs : Instant.origin.nanos + p.timeout.nanos < Instant.bound ↔
      p.timeout.secs < 0x8000000000000000 := by
    rw [Duration.secs, Nat.div_lt_iff_lt_mul (by decide)]
    show 0 + _ < _ ↔ _
    rw [Nat.zero_add]
    rfl
  rw [waitFrom, waitUntilAbsent, patienceFrom, patience, if_congr hsecs rfl rfl]

/-- There is a deadline if there are thirty years left, or at least the timeout. -/
theorem exists_deadline? {start : Instant}
    (hstart : start.nanos + min p.timeout.nanos forever < Instant.bound) :
    ∃ deadline, p.deadline? start = some deadline ∧
      deadline.nanos = start.nanos + p.patienceFrom start := by
  rw [deadline?, patienceFrom]
  split_ifs with h
  · obtain ⟨deadline, hdeadline, hnanos⟩ := Instant.exists_after? h
    exact ⟨deadline, by rw [hdeadline, Option.some_or], hnanos⟩
  · have hforever : (Duration.ofNanos forever).nanos = forever := by decide
    rw [show start.after? p.timeout = none from dif_neg h, Option.none_or, ← hforever]
    exact Instant.exists_after? (by rw [hforever]; omega)

theorem patienceFrom_le {start : Instant}
    (hstart : start.nanos + min p.timeout.nanos forever < Instant.bound) :
    p.patienceFrom start ≤ p.timeout.nanos := by
  rw [patienceFrom]
  split_ifs with h <;> omega

end

/-! ## Lookup by lookup -/

section

variable (p : SettlePolicy) (name : String) (patience : Nat)
  (answers : Nat → Except ClusterError Claim)

/-- The wait from the `k`-th lookup on. -/
def waitAt (k : Nat) : Program (Except ProvisionError Unit) :=
  p.waitFor name (patience - p.waited patience k) (p.backoff k) emptyPauses

def lookup (k : Nat) : Exchange Watch :=
  ⟨⟨k, p.waited patience k⟩, .cluster (.getClaim name), answers k⟩

/-- A lookup and the pause after it. -/
def round (k : Nat) : List (Exchange Watch) :=
  [p.lookup name patience answers k,
    ⟨⟨k + 1, p.waited patience k⟩, .pause (p.pauseAt patience k), ()⟩]

/-- What a wait comes to if it ends with such an answer. -/
def outcome (reply : Except ClusterError Claim) : Except ProvisionError Unit :=
  if reply.isOk then .error (.stillPresent name p.timeout) else .ok ()

end

section

variable {p : SettlePolicy} {name : String} {patience n k m : Nat}
  {answers : Nat → Except ClusterError Claim} {es : List (Exchange Watch)}
  {result : Except ProvisionError Unit} {w : Watch}

theorem waitAt_eq (hp : p.Paced) :
    p.waitAt name patience k =
      .ask (.cluster (.getClaim name)) fun reply : Except ClusterError Claim =>
        if reply.isOk then
          if patience - p.waited patience k = 0 then .done (.error (.stillPresent name p.timeout))
          else .ask (.pause (p.pauseAt patience k)) fun _ => p.waitAt name patience (k + 1)
        else .done (.ok ()) := by
  have hrest : patience - p.waited patience k - p.pauseAt patience k =
      patience - p.waited patience (k + 1) := by
    rw [waited_succ]
    omega
  rw [waitAt, waitFor_of_pos (backoff_pos hp k), min_double_backoff, ← pauseAt, hrest]
  rfl

theorem runs_waitAt_of_left (hp : p.Paced) (hseen : (answers k).isOk = true)
    (hleft : p.waited patience k < patience) :
    (p.waitAt name patience k).Runs (Watch.habit answers) ⟨k, p.waited patience k⟩ es result w ↔
      ∃ es₁, (p.waitAt name patience (k + 1)).Runs (Watch.habit answers)
          ⟨k + 1, p.waited patience (k + 1)⟩ es₁ result w ∧
        es = p.round name patience answers k ++ es₁ := by
  rw [waitAt_eq hp, Program.runs_ask, waited_succ]
  simp only [if_neg (Nat.sub_ne_zero_of_lt hleft)]
  constructor
  · rintro ⟨_, _, _, ⟨rfl, rfl⟩, run, rfl⟩
    rw [if_pos hseen, Program.runs_ask] at run
    obtain ⟨_, _, es₁, rfl, run, rfl⟩ := run
    exact ⟨es₁, run, rfl⟩
  · rintro ⟨es₁, run, rfl⟩
    refine ⟨_, _, _, ⟨rfl, rfl⟩, ?_, rfl⟩
    rw [if_pos hseen, Program.runs_ask]
    exact ⟨_, _, _, rfl, run, rfl⟩

theorem runs_waitAt_of_over (hp : p.Paced)
    (h : (answers n).isOk = true → p.waited patience n = patience) :
    (p.waitAt name patience n).Runs (Watch.habit answers) ⟨n, p.waited patience n⟩ es result w ↔
      es = [p.lookup name patience answers n] ∧ result = p.outcome name (answers n) ∧
        w = ⟨n + 1, p.waited patience n⟩ := by
  have hend : (if (answers n).isOk then
        if patience - p.waited patience n = 0 then .done (.error (.stillPresent name p.timeout))
        else .ask (.pause (p.pauseAt patience n)) fun _ => p.waitAt name patience (n + 1)
      else .done (.ok ())) = (pure (p.outcome name (answers n)) : Program _) := by
    rw [outcome]
    split_ifs with hseen hleft
    · rfl
    · exact absurd (Nat.sub_eq_zero_of_le (h hseen).ge) hleft
    · rfl
  rw [waitAt_eq hp, Program.runs_ask]
  constructor
  · rintro ⟨_, _, _, ⟨rfl, rfl⟩, run, rfl⟩
    rw [hend, Program.runs_pure] at run
    obtain ⟨rfl, rfl, rfl⟩ := run
    exact ⟨rfl, rfl, rfl⟩
  · rintro ⟨rfl, rfl, rfl⟩
    refine ⟨_, _, _, ⟨rfl, rfl⟩, ?_, rfl⟩
    rw [hend, Program.runs_pure]
    exact ⟨rfl, rfl, rfl⟩

/-- From the lookup that is next to the one that ends the wait. -/
theorem runs_waitAt_iff (hp : p.Paced) (h : p.EndsAt patience answers n) (hk : k + m = n) :
    (p.waitAt name patience k).Runs (Watch.habit answers) ⟨k, p.waited patience k⟩ es result w ↔
      es = (List.range' k m).flatMap (p.round name patience answers) ++
          [p.lookup name patience answers n] ∧
        result = p.outcome name (answers n) ∧ w = ⟨n + 1, p.waited patience n⟩ := by
  induction m generalizing k es with
  | zero =>
    obtain rfl : k = n := hk
    exact runs_waitAt_of_over hp h.last
  | succ m ih =>
    obtain ⟨hseen, hleft⟩ := h.before k (by omega)
    rw [runs_waitAt_of_left hp hseen hleft, List.range'_succ, List.flatMap_cons, List.append_assoc]
    simp only [ih (show k + 1 + m = n by omega)]
    constructor
    · rintro ⟨es₁, ⟨rfl, hend⟩, rfl⟩
      exact ⟨rfl, hend⟩
    · rintro ⟨rfl, hend⟩
      exact ⟨_, ⟨rfl, hend⟩, rfl⟩

theorem waitFrom_eq (hp : p.Paced) (start : Instant) (name : String) :
    p.waitFrom start name = p.waitAt name (p.patienceFrom start) 0 := by
  rw [waitFrom, waitAt, waited_zero, Nat.sub_zero, backoff_zero hp]

end

/-- The settings always pace the wait. A paced wait makes at most one lookup more than there are
first pauses in the timeout, rounded up. It ends at the first lookup that does not find the claim,
and with an error only if the claim is still found when all the time has gone by. -/
theorem settles_in_time :
    (∀ get, (Settings.fromLookup get).settle.Paced) ∧
      (∀ p name, waitFrom p .origin name = waitUntilAbsent p name) ∧
      ∀ {p : SettlePolicy}, p.Paced → ∀ {start : Instant},
        start.nanos + min p.timeout.nanos forever < Instant.bound → ∀ name : String,
          let patience := p.patienceFrom start
          let rounds := p.timeout.nanos ⌈/⌉ p.initialBackoff.nanos
          (∃ deadline, p.deadline? start = some deadline ∧
            deadline.nanos = start.nanos + patience ∧
            p.waitByClock name deadline (rounds + 1) start p.initialBackoff =
              some <$> p.waitFrom start name) ∧
          (∀ k, p.pauseAt patience k ≤ p.maxBackoff.nanos ∧
            p.waited patience k ≤ p.timeout.nanos) ∧
          ∀ answers, ∃ n ≤ rounds, p.EndsAt patience answers n ∧
            ∀ es result w,
              (p.waitFrom start name).Runs (Watch.habit answers) ⟨0, 0⟩ es result w ↔
                es = (List.range n).flatMap (p.round name patience answers) ++
                    [p.lookup name patience answers n] ∧
                  result = p.outcome name (answers n) ∧ w = ⟨n + 1, p.waited patience n⟩ := by
  refine ⟨Settings.paced_settle, waitFrom_origin, ?_⟩
  intro p hp start hstart name patience rounds
  have hpatience : patience ≤ p.timeout.nanos := patienceFrom_le hstart
  have hrounds : patience ⌈/⌉ p.initialBackoff.nanos ≤ rounds :=
    (gc_smul_ceilDiv hp.nonempty).monotone_l hpatience
  refine ⟨?_, fun k => ⟨p.pauseAt_le _ _, (p.waited_le _ _).trans hpatience⟩, fun answers => ?_⟩
  · obtain ⟨deadline, hdeadline, hnanos⟩ := exists_deadline? (p := p) hstart
    refine ⟨deadline, hdeadline, hnanos, ?_⟩
    have hfits : patience ≤ p.initialBackoff.nanos * rounds :=
      (ceilDiv_le_iff_le_mul hp.nonempty).1 hrounds
    rw [← backoff_zero hp]
    exact (waitByClock_eq hp hnanos.symm hfits).trans (by rw [waitFrom, backoff_zero hp])
  · obtain ⟨n, hn, hends⟩ := exists_endsAt hp patience answers
    refine ⟨n, hn.trans hrounds, hends, fun es result w => ?_⟩
    have hiff : (p.waitAt name patience 0).Runs (Watch.habit answers) ⟨0, p.waited patience 0⟩ es
        result w ↔ _ := runs_waitAt_iff hp hends (Nat.zero_add n)
    rw [waited_zero, ← List.range_eq_range'] at hiff
    rw [waitFrom_eq hp]
    exact hiff

/-- A claim that stays is looked up six times in twenty milliseconds. -/
theorem settles_in_time_of_lasting_claim :
    let p : SettlePolicy := ⟨.ofMillis 20, .ofMillis 2, .ofMillis 5⟩
    p.Paced ∧ Instant.origin.nanos + min p.timeout.nanos forever < Instant.bound ∧
      ∃ es, (p.waitUntilAbsent "hoard").Runs (Watch.habit fun _ => .ok Inhabited.default) ⟨0, 0⟩ es
        (.error (.stillPresent "hoard" p.timeout)) ⟨6, 20000000⟩ := by
  intro p
  have hp : p.Paced := ⟨by decide, by decide⟩
  have hstart : Instant.origin.nanos + min p.timeout.nanos forever < Instant.bound := by decide
  obtain ⟨-, horigin, hsettles⟩ := settles_in_time
  obtain ⟨-, -, hexact⟩ := hsettles hp hstart "hoard"
  obtain ⟨n, -, hends, hruns⟩ := hexact fun _ => .ok Inhabited.default
  have hearly : ∀ k < 5, p.waited (p.patienceFrom .origin) k ≠ p.patienceFrom .origin := by
    decide +kernel
  have hlast : p.waited (p.patienceFrom .origin) 5 = 20000000 ∧
      p.patienceFrom .origin = 20000000 := by
    decide +kernel
  obtain rfl : n = 5 := by
    refine le_antisymm (not_lt.1 fun hlate => ?_) (not_lt.1 fun h => hearly n h (hends.last rfl))
    exact (hends.before 5 hlate).2.ne (hlast.1.trans hlast.2.symm)
  rw [horigin, hlast.1] at hruns
  exact ⟨hp, hstart, _, (hruns _ _ _).2 ⟨rfl, rfl, rfl⟩⟩

end SettlePolicy

end Steading
