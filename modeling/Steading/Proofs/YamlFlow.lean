import Steading.Proofs.YamlScalars
import Steading.Yaml.Lexer

/-!
# Reading on in a flow

The lexer at the tokens of JSON. In a flow no indentation counts, no key is required, and blanks are
blanks on every line, so what the lexer has found says all that matters (`Lexer.Found`), and each
lemma says what it has found behind one more token. Outside of all flows a tab at which a key could
start is the end of it (`Lexer.fails_tab`), and so is half of a surrogate pair anywhere
(`Lexer.fails_string`).
-/

namespace Steading.Json

open Yaml (Token)

/-- A name with its colon. Where the colon is too far away the name is not marked as a key. -/
def Name.tokens (n : Name) : List Token :=
  let named := [.scalar (spelled n.marks) .doubleQuoted, .value]
  if n.isNear then .key :: named else named

end Steading.Json

namespace Steading.Yaml.Lexer

open Json (Mark Space Name isSpace)

/-! ## Lexers in a flow -/

/-- No key has to be there. -/
def Optional (keys : List (Option PendingKey)) : Prop :=
  ∀ k ∈ keys, ∀ p ∈ k, p.required = false

/-- A lexer that has opened no block. -/
def noBlock (tokens : List Token) (flow : Nat) (keys : List (Option PendingKey))
    (keyAllowed : Bool) (cursor : Cursor) : Lexer :=
  ⟨cursor, tokens, tokens.length, flow, -1, [], keyAllowed, keys⟩

/-- What a lexer outside of blocks has found, the newest token first, how many flows are open,
whether a key can start, and what is left. -/
def Found (tokens : List Token) (flow : Nat) (keyAllowed : Bool) (cs : List Char) (l : Lexer) :
    Prop :=
  ∃ keys cursor, Optional keys ∧ cursor.rest = cs ∧ l = noBlock tokens flow keys keyAllowed cursor

/-- The lexer gets from one state to another by a number of tokens. -/
def Reads (n : Nat) (l l' : Lexer) : Prop :=
  ∀ fuel, l.run (fuel + n) = l'.run fuel

theorem Reads.trans {m n : Nat} {l l' l'' : Lexer} (h : Reads m l l') (h' : Reads n l' l'') :
    Reads (n + m) l l'' := fun fuel => by
  rw [← Nat.add_assoc, h, h']

/-- The lexer finds no more than a number of tokens before it gives up. -/
def Fails (n : Nat) (l : Lexer) : Prop :=
  ∀ fuel, l.run (fuel + n) = none

theorem Reads.fails {m n : Nat} {l l' : Lexer} (h : Reads m l l') (h' : Fails n l') :
    Fails (n + m) l := fun fuel => by
  rw [← Nat.add_assoc, h, h']

variable {tokens : List Token} {flow : Nat} {keys : List (Option PendingKey)} {allowed : Bool}
  {cursor : Cursor} {spot : Spot} {cs r : List Char} {c : Char} {l : Lexer}

/-- The keys that can still be ones at a place. -/
def fresh (here : Spot) (keys : List (Option PendingKey)) : List (Option PendingKey) :=
  keys.map (Option.filter fun k => !isStale here k)

theorem Optional.fresh (h : Optional keys) (here : Spot) : Optional (fresh here keys) := by
  intro k hk p hp
  obtain ⟨k', hk', rfl⟩ := List.mem_map.1 hk
  exact h k' hk' p (Option.filter_eq_some_iff.1 hp).1

theorem Optional.cons {k : Option PendingKey} (hk : ∀ p ∈ k, p.required = false)
    (h : Optional keys) : Optional (k :: keys) :=
  List.forall_mem_cons.2 ⟨hk, h⟩

theorem Optional.tail (h : Optional keys) : Optional keys.tail :=
  fun k hk => h k (List.mem_of_mem_tail hk)

theorem mapM_eq_some {α β : Type} {f : α → Option β} {g : α → β} : ∀ {as : List α},
    (∀ a ∈ as, f a = some (g a)) → as.mapM f = some (as.map g)
  | [], _ => rfl
  | a :: as, h => by
    rw [List.forall_mem_cons] at h
    rw [List.mapM_cons, h.1, mapM_eq_some h.2]
    rfl

theorem dropStale_noBlock (h : Optional keys) :
    (noBlock tokens flow keys allowed cursor).dropStale =
      some (noBlock tokens flow (fresh cursor.spot keys) allowed cursor) := by
  rw [dropStale, noBlock, mapM_eq_some (g := Option.filter fun k => !isStale cursor.spot k)]
  · rfl
  · intro k hk
    cases k with
    | none => rfl
    | some k =>
      have hrequired : k.required = false := h _ hk k rfl
      cases hstale : isStale cursor.spot k <;> simp [spot, hrequired, hstale, Option.filter]

theorem dropKey_noBlock (h : Optional keys) (tokens : List Token) (flow : Nat) (allowed : Bool)
    (cursor : Cursor) : ∃ keys', Optional keys' ∧ keys'.tail = keys.tail ∧
    (noBlock tokens flow keys allowed cursor).dropKey =
      some (noBlock tokens flow keys' allowed cursor) := by
  cases keys with
  | nil => exact ⟨[], h, rfl, rfl⟩
  | cons k keys =>
    cases k with
    | none => exact ⟨none :: keys, h, rfl, rfl⟩
    | some k =>
      have hk : k.required = false := h _ List.mem_cons_self k rfl
      refine ⟨none :: keys, (h.tail).cons (by simp), rfl, ?_⟩
      simp [dropKey, pending, noBlock, hk, withKey]

/-- A character at which the lexer stops to skip. -/
def isSolid (c : Char) : Bool :=
  !isBlank c && !isBreak c && c != '#' && c != Char.ofNat 0xFEFF

theorem skipSpace_cons (fuel : Nat) (hc : c ≠ '#') :
    skipSpace (fuel + 1) (noBlock tokens flow keys allowed ⟨c :: r, spot⟩) =
      if c == ' ' || (c == '\t' && (flow != 0 || !allowed)) then
        skipSpace fuel (noBlock tokens flow keys allowed ⟨r, spot.move 1⟩)
      else if c == Char.ofNat 0xFEFF && spot.column == 0 then
        skipSpace fuel (noBlock tokens flow keys allowed ⟨r, spot.move 1⟩)
      else if isBreak c then
        skipSpace fuel (noBlock tokens flow keys (allowed || flow == 0)
          (Cursor.skipBreak ⟨c :: r, spot⟩))
      else noBlock tokens flow keys allowed ⟨c :: r, spot⟩ := by
  rw [skipSpace]
  split
  · next h => cases h
  · next h => exact absurd (List.cons.inj h).1 hc
  · next c' r' hnot h =>
    obtain ⟨rfl, rfl⟩ := List.cons.inj h
    have hflow : (!(noBlock tokens flow keys allowed ⟨c :: r, spot⟩).inFlow) = (flow == 0) := by
      simp [inFlow, noBlock, bne]
    rw [hflow]
    rfl

/-- Where the lexer stops to skip. -/
def Stops (r : List Char) : Prop :=
  ∀ c ∈ r.head?, isSolid c = true

theorem stops_nil : Stops [] := fun _ h => by cases h

theorem stops_cons (hc : isSolid c = true) (r : List Char) : Stops (c :: r) :=
  fun _ h => Option.some.inj h ▸ hc

theorem skipSpace_stops (hr : Stops r) (fuel : Nat) :
    skipSpace (fuel + 1) (noBlock tokens flow keys allowed ⟨r, spot⟩) =
      noBlock tokens flow keys allowed ⟨r, spot⟩ := by
  cases r with
  | nil => rfl
  | cons c r =>
    have hc := hr c rfl
    simp only [isSolid, isBlank, Bool.and_eq_true, Bool.not_eq_true', Bool.or_eq_false_iff,
      bne_iff_ne, ne_eq, beq_eq_false_iff_ne] at hc
    obtain ⟨⟨⟨⟨hblank, htab⟩, hbreak⟩, hcomment⟩, hmark⟩ := hc
    simp [skipSpace_cons fuel hcomment, hblank, htab, hbreak, hmark]

/-- Every tab is skipped: in a flow, and outside of all flows where no key can start. -/
def TabsFit (flow : Nat) (allowed : Bool) (s : List Char) : Prop :=
  flow = 0 → '\t' ∉ if allowed then s else s.dropWhile isBlank

theorem skipBreak_space {x : Char} (hx : isBreak x = true) (s : List Char) (hr : Stops r)
    (spot : Spot) : ∃ s' spot', (s = s' ∨ s = '\n' :: s') ∧ spot.line < spot'.line ∧
      Cursor.skipBreak ⟨x :: (s ++ r), spot⟩ = ⟨s' ++ r, spot'⟩ := by
  rw [Cursor.skipBreak.eq_def]
  split
  · next r' h =>
    have htail : s ++ r = '\n' :: r' := (List.cons.inj h).2
    cases s with
    | nil =>
      have hfeed := hr '\n' (by rw [show r = '\n' :: r' from htail]; rfl)
      cases hfeed
    | cons y s =>
      obtain ⟨rfl, rfl⟩ := List.cons.inj htail
      exact ⟨s, _, .inr rfl, Nat.lt_succ_self _, rfl⟩
  · next x' r' _ h =>
    obtain ⟨rfl, rfl⟩ := List.cons.inj h
    exact ⟨s, _, .inl rfl, Nat.lt_succ_self _, by rw [if_pos hx]⟩
  · next h => cases h

theorem tabsFit_nextLine_iff {x : Char} {s s' : List Char} (hx : isBreak x = true)
    (hs : s = s' ∨ s = '\n' :: s') :
    TabsFit flow (allowed || flow == 0) s' ↔ TabsFit flow allowed (x :: s) := by
  have hblank : isBlank x = false := by
    rw [Bool.eq_false_iff]
    intro h
    simp only [isBlank, Bool.or_eq_true, beq_iff_eq] at h
    rcases h with rfl | rfl <;> cases hx
  have htab : '\t' ∈ x :: s ↔ '\t' ∈ s' := by
    have hne : '\t' ≠ x := by
      rintro rfl
      cases hblank
    rcases hs with rfl | rfl <;> simp [hne]
  refine forall_congr' fun hflow => ?_
  rw [List.dropWhile_cons_of_neg (by simp [hblank]), ite_self, htab]
  simp [hflow]

theorem tabsFit_tail_iff {x : Char} {s : List Char} (hx : isBlank x = true)
    (hskips : (x == ' ' || (x == '\t' && (flow != 0 || !allowed))) = true) :
    TabsFit flow allowed s ↔ TabsFit flow allowed (x :: s) := by
  refine forall_congr' fun hflow => ?_
  cases allowed with
  | true =>
    have hne : '\t' ≠ x := by
      rintro rfl
      simp [hflow] at hskips
    simp [hne]
  | false => simp [List.dropWhile_cons_of_pos hx]

theorem TabsFit.skips {x : Char} {s : List Char} (hx : isBlank x = true)
    (h : TabsFit flow allowed (x :: s)) :
    (x == ' ' || (x == '\t' && (flow != 0 || !allowed))) = true := by
  simp only [isBlank, Bool.or_eq_true, beq_iff_eq] at hx
  rcases hx with rfl | rfl
  · rfl
  · by_cases hflow : flow = 0
    · have h := h hflow
      cases allowed with
      | true => exact absurd List.mem_cons_self h
      | false => simp
    · simp [hflow]

theorem Spot.move_move (s : Spot) (m n : Nat) : (s.move m).move n = s.move (n + m) := by
  simp only [Spot.move, Spot.mk.injEq, true_and]
  omega

theorem isBlank_or_isBreak {x : Char} (h : isSpace x = true) (hx : isBlank x = false) :
    isBreak x = true := by
  simp only [isSpace, Bool.or_eq_true, beq_iff_eq] at h
  rcases h with ((rfl | rfl) | rfl) | rfl <;> first | rfl | cases hx

theorem skipSpace_blank (fuel : Nat) (hc : isBlank c = true)
    (hskips : (c == ' ' || (c == '\t' && (flow != 0 || !allowed))) = true) :
    skipSpace (fuel + 1) (noBlock tokens flow keys allowed ⟨c :: r, spot⟩) =
      skipSpace fuel (noBlock tokens flow keys allowed ⟨r, spot.move 1⟩) := by
  have hcomment : c ≠ '#' := by
    rintro rfl
    cases hc
  rw [skipSpace_cons fuel hcomment, if_pos hskips]

theorem skipSpace_break (fuel : Nat) (hc : isBreak c = true) (s : List Char) (hr : Stops r)
    (tokens : List Token) (spot : Spot) :
    ∃ s' spot', (s = s' ∨ s = '\n' :: s') ∧ spot.line < spot'.line ∧
      skipSpace (fuel + 1) (noBlock tokens flow keys allowed ⟨c :: (s ++ r), spot⟩) =
        skipSpace fuel (noBlock tokens flow keys (allowed || flow == 0) ⟨s' ++ r, spot'⟩) := by
  have hcomment : c ≠ '#' := by
    rintro rfl
    cases hc
  have hblank : c ≠ ' ' ∧ c ≠ '\t' := by
    constructor <;> rintro rfl <;> cases hc
  have hmark : c ≠ Char.ofNat 0xFEFF := by
    rintro rfl
    cases hc
  obtain ⟨s', spot', hs, hline, hskip⟩ := skipBreak_space hc s hr spot
  refine ⟨s', spot', hs, hline, ?_⟩
  rw [skipSpace_cons fuel hcomment]
  simp only [hblank, hmark, hc, hskip, beq_iff_eq, Bool.or_eq_true, Bool.and_eq_true, false_and,
    or_self, if_true, if_false]

theorem length_lt_of_nextLine {s s' : List Char} {fuel : Nat} (hs : s = s' ∨ s = '\n' :: s')
    (h : s.length < fuel) : s'.length < fuel := by
  rcases hs with rfl | rfl
  · exact h
  · exact Nat.lt_of_succ_lt h

theorem all_of_nextLine {s s' : List Char} (hs : s = s' ∨ s = '\n' :: s')
    (h : s.all isSpace = true) : s'.all isSpace = true := by
  rcases hs with rfl | rfl
  · exact h
  · exact (Bool.and_eq_true_iff.1 h).2

/-- The blanks before a token. In a flow they do not change whether a key can start, and it is known
where they end on one line, and that they end further down otherwise. -/
theorem skipSpace_noBlock (hr : Stops r) (tokens : List Token) (keys : List (Option PendingKey)) :
    ∀ {fuel : Nat} {s : List Char}, s.length < fuel →
      s.all isSpace = true → ∀ {allowed : Bool}, TabsFit flow allowed s → ∀ spot : Spot,
        ∃ allowed' spot', skipSpace fuel (noBlock tokens flow keys allowed ⟨s ++ r, spot⟩) =
            noBlock tokens flow keys allowed' ⟨r, spot'⟩ ∧
          (flow ≠ 0 → allowed' = allowed) ∧ (s.all isBlank = true → spot' = spot.move s.length) ∧
          (s.all isBlank = false → spot.line < spot'.line)
  | fuel + 1, [], _, _, allowed, _, spot =>
    ⟨allowed, spot, skipSpace_stops hr fuel, fun _ => rfl, fun _ => rfl, fun h => by cases h⟩
  | fuel + 1, x :: s, hfuel, hs, allowed, htabs, spot => by
    rw [List.all_cons, Bool.and_eq_true] at hs
    rw [List.length_cons, Nat.succ_lt_succ_iff] at hfuel
    cases hblank : isBlank x with
    | true =>
      have hskips := htabs.skips hblank
      obtain ⟨allowed', spot', hrest, hallowed, hspot, hline⟩ := skipSpace_noBlock hr tokens keys
        hfuel hs.2 ((tabsFit_tail_iff hblank hskips).2 htabs) (spot.move 1)
      refine ⟨allowed', spot', ?_, hallowed, fun h => ?_, fun h => ?_⟩
      · rw [List.cons_append, skipSpace_blank fuel hblank hskips, hrest]
      · rw [List.all_cons, Bool.and_eq_true] at h
        rw [hspot h.2, Spot.move_move, List.length_cons]
      · rw [List.all_cons, hblank, Bool.true_and] at h
        exact hline h
    | false =>
      have hbreak := isBlank_or_isBreak hs.1 hblank
      obtain ⟨s', spot₁, hs', hdown, hskip⟩ := skipSpace_break fuel hbreak s hr tokens spot
      obtain ⟨allowed', spot', hrest, hallowed, hspot, hline⟩ := skipSpace_noBlock hr tokens keys
        (length_lt_of_nextLine hs' hfuel) (all_of_nextLine hs' hs.2)
        ((tabsFit_nextLine_iff hbreak hs').2 htabs) spot₁
      have hbelow : spot₁.line ≤ spot'.line := by
        cases h : s'.all isBlank with
        | true => exact (hspot h).symm ▸ Nat.le_refl _
        | false => exact Nat.le_of_lt (hline h)
      refine ⟨allowed', spot', hskip.trans hrest, fun h => ?_, fun h => ?_, fun _ => ?_⟩
      · simp [hallowed h, h]
      · rw [List.all_cons, hblank] at h
        cases h
      · exact Nat.lt_of_lt_of_le hdown hbelow

/-- Outside of all flows the lexer does not skip a tab at which a key could start. -/
theorem skipSpace_tab (hr : Stops r) (tokens : List Token) (keys : List (Option PendingKey)) :
    ∀ {fuel : Nat} {s : List Char}, s.length < fuel → s.all isSpace = true →
      ∀ {allowed : Bool}, ¬ TabsFit 0 allowed s → ∀ spot : Spot, ∃ r' spot',
        skipSpace fuel (noBlock tokens 0 keys allowed ⟨s ++ r, spot⟩) =
          noBlock tokens 0 keys true ⟨'\t' :: r', spot'⟩
  | fuel + 1, [], _, _, allowed, htabs, _ => by
    refine absurd (fun _ => ?_) htabs
    cases allowed <;> exact List.not_mem_nil
  | fuel + 1, x :: s, hfuel, hs, allowed, htabs, spot => by
    rw [List.all_cons, Bool.and_eq_true] at hs
    rw [List.length_cons, Nat.succ_lt_succ_iff] at hfuel
    cases hblank : isBlank x with
    | true =>
      by_cases hskips : (x == ' ' || (x == '\t' && ((0 : Nat) != 0 || !allowed))) = true
      · obtain ⟨r', spot', hrest⟩ := skipSpace_tab hr tokens keys hfuel hs.2
          (fun h => htabs ((tabsFit_tail_iff hblank hskips).1 h)) (spot.move 1)
        exact ⟨r', spot', by rw [List.cons_append, skipSpace_blank fuel hblank hskips, hrest]⟩
      · obtain ⟨rfl, rfl⟩ : x = '\t' ∧ allowed = true := by
          simp only [isBlank, Bool.or_eq_true, beq_iff_eq] at hblank
          rcases hblank with rfl | rfl
          · exact absurd rfl hskips
          · cases allowed with
            | true => exact ⟨rfl, rfl⟩
            | false => exact absurd rfl hskips
        exact ⟨s ++ r, spot, skipSpace_cons fuel (by decide)⟩
    | false =>
      have hbreak := isBlank_or_isBreak hs.1 hblank
      obtain ⟨s', spot₁, hs', -, hskip⟩ := skipSpace_break fuel hbreak s hr tokens spot
      obtain ⟨r', spot', hrest⟩ := skipSpace_tab hr tokens keys (length_lt_of_nextLine hs' hfuel)
        (all_of_nextLine hs' hs.2) (fun h => htabs ((tabsFit_nextLine_iff hbreak hs').1 h)) spot₁
      exact ⟨r', spot', hskip.trans hrest⟩

theorem unindent_noBlock (column : Int) :
    (noBlock tokens flow keys allowed cursor).unindent column =
      noBlock tokens flow keys allowed cursor := by
  rw [unindent]
  split <;> rfl

theorem run_cons (hk : Optional keys) (tokens : List Token) {s : List Char}
    (hs : s.all isSpace = true) (hc : isSolid c = true) (htabs : TabsFit flow allowed s)
    (spot : Spot) (r : List Char) :
    ∃ allowed' spot', (flow ≠ 0 → allowed' = allowed) ∧
      (s.all isBlank = true → spot' = spot.move s.length) ∧
      (s.all isBlank = false → spot.line < spot'.line) ∧
      ∀ fuel, run (fuel + 1) (noBlock tokens flow keys allowed ⟨s ++ c :: r, spot⟩) =
        ((noBlock tokens flow (fresh spot' keys) allowed' ⟨c :: r, spot'⟩).lexToken c r).bind
          (run fuel) := by
  have hstops := stops_cons hc r
  have hfuel : s.length < (s ++ c :: r).length + 1 := by
    rw [List.length_append]
    omega
  obtain ⟨allowed', spot', hskip, hallowed, hspot, hline⟩ :=
    skipSpace_noBlock hstops tokens keys hfuel hs htabs spot
  refine ⟨allowed', spot', hallowed, hspot, hline, fun fuel => ?_⟩
  have hlength : (noBlock tokens flow keys allowed ⟨s ++ c :: r, spot⟩).cursor.rest.length =
      (s ++ c :: r).length := rfl
  rw [run, hlength, hskip, dropStale_noBlock hk]
  simp only [Option.bind_eq_bind, Option.bind_some, unindent_noBlock]
  rfl

theorem run_nil (hk : Optional keys) {s : List Char} (hs : s.all isSpace = true)
    (htabs : TabsFit flow allowed s) (spot : Spot) (fuel : Nat) :
    run (fuel + 1) (noBlock tokens flow keys allowed ⟨s, spot⟩) = some tokens.reverse := by
  obtain ⟨allowed', spot', hskip, -, -⟩ := skipSpace_noBlock stops_nil tokens keys
    (Nat.lt_succ_self s.length) hs htabs spot
  obtain ⟨keys', -, -, hdrop⟩ :=
    dropKey_noBlock (hk.fresh spot') tokens flow allowed' ⟨[], spot'⟩
  have hlength : (noBlock tokens flow keys allowed ⟨s, spot⟩).cursor.rest.length = s.length := rfl
  rw [List.append_nil] at hskip
  rw [run, hlength, hskip, dropStale_noBlock hk]
  simp only [Option.bind_eq_bind, Option.bind_some, unindent_noBlock, hdrop]
  rfl

theorem fails_tab (hk : Optional keys) (tokens : List Token) {s : List Char}
    (hs : s.all isSpace = true) (htabs : ¬ TabsFit 0 allowed s) (hr : Stops r) (spot : Spot) :
    Fails 1 (noBlock tokens 0 keys allowed ⟨s ++ r, spot⟩) := by
  have hfuel : s.length < (s ++ r).length + 1 := by
    rw [List.length_append]
    omega
  obtain ⟨r', spot', hskip⟩ := skipSpace_tab hr tokens keys hfuel hs htabs spot
  have hlength : (noBlock tokens 0 keys allowed ⟨s ++ r, spot⟩).cursor.rest.length =
      (s ++ r).length := rfl
  have hlex : ∀ l : Lexer, l.lexToken '\t' r' = none := fun l => by
    simp [lexToken, isDocumentMark, startsPlain, isBlank]
  intro fuel
  rw [run, hlength, hskip, dropStale_noBlock hk]
  simp only [Option.bind_eq_bind, Option.bind_some, unindent_noBlock]
  exact congrArg (Option.bind · (run fuel)) (hlex _)

theorem saveKey_noBlock (hk : Optional keys) (tokens : List Token) (flow : Nat) (allowed : Bool)
    (cursor : Cursor) :
    ∃ keys', Optional keys' ∧
      (allowed = true → keys'.head? = some (some ⟨tokens.length, false, cursor.spot⟩)) ∧
      (noBlock tokens flow keys allowed cursor).saveKey =
        some (noBlock tokens flow keys' allowed cursor) := by
  cases allowed with
  | false => exact ⟨keys, hk, fun h => (by cases h), rfl⟩
  | true =>
    obtain ⟨keys', hk', -, hdrop⟩ := dropKey_noBlock hk tokens flow true cursor
    have hcolumn : ((-1 : Int) == (cursor.spot.column : Int)) = false := by
      simp only [beq_eq_false_iff_ne]
      omega
    refine ⟨some ⟨tokens.length, false, cursor.spot⟩ :: keys'.tail,
      hk'.tail.cons fun p hp => ?_, fun _ => rfl, ?_⟩
    · cases hp
      rfl
    · have hallowed : (noBlock tokens flow keys true cursor).keyAllowed = true := rfl
      rw [saveKey, if_pos hallowed, hdrop]
      simp only [noBlock, column, Lexer.spot, hcolumn, Bool.and_false]
      rfl

/-! ## What is found behind a token -/

/-- A token in a flow, from the blanks before it. -/
theorem exists_run (h : Found tokens (flow + 1) allowed cs l) (hcs : Json.skipSpace cs = c :: r)
    (hc : isSolid c = true) : ∃ keys spot, Optional keys ∧ ∀ fuel, l.run (fuel + 1) =
      ((noBlock tokens (flow + 1) keys allowed ⟨c :: r, spot⟩).lexToken c r).bind (run fuel) := by
  obtain ⟨keys, ⟨rest, spot⟩, hk, rfl, rfl⟩ := h
  obtain ⟨s, hs⟩ := Json.exists_space rest
  have htabs : TabsFit (flow + 1) allowed s.chars := fun h => by cases h
  obtain ⟨allowed', spot', hallowed, -, -, hrun⟩ :=
    run_cons hk tokens (List.all_eq_true.2 s.blank) hc htabs spot r
  obtain rfl := hallowed (Nat.succ_ne_zero flow)
  refine ⟨_, spot', hk.fresh spot', fun fuel => ?_⟩
  rw [hs, hcs, hrun]

theorem reads_token {P : Lexer → Prop} (h : Found tokens (flow + 1) allowed cs l)
    (hcs : Json.skipSpace cs = c :: r) (hc : isSolid c = true)
    (hlex : ∀ keys spot, Optional keys → ∃ l',
      (noBlock tokens (flow + 1) keys allowed ⟨c :: r, spot⟩).lexToken c r = some l' ∧ P l') :
    ∃ l', Reads 1 l l' ∧ P l' := by
  obtain ⟨keys, spot, hk, hrun⟩ := exists_run h hcs hc
  obtain ⟨l', hl', hP⟩ := hlex keys spot hk
  refine ⟨l', fun fuel => ?_, hP⟩
  rw [hrun, hl']
  rfl

variable (tokens flow allowed c r spot) in
theorem openFlow_noBlock (hk : Optional keys) (t : Token) :
    ∃ l', (noBlock tokens flow keys allowed ⟨c :: r, spot⟩).openFlow t = some l' ∧
      Found (t :: tokens) (flow + 1) true r l' := by
  obtain ⟨keys', hk', -, hsave⟩ := saveKey_noBlock hk tokens flow allowed ⟨c :: r, spot⟩
  refine ⟨_, by rw [openFlow, hsave]; rfl, none :: keys', _, hk'.cons (by simp), ?_, rfl⟩
  rfl

variable (tokens flow allowed c r spot) in
theorem closeFlow_noBlock (hk : Optional keys) (t : Token) :
    ∃ l', (noBlock tokens (flow + 1) keys allowed ⟨c :: r, spot⟩).closeFlow t = some l' ∧
      Found (t :: tokens) flow false r l' := by
  obtain ⟨keys', hk', -, hdrop⟩ := dropKey_noBlock hk tokens (flow + 1) allowed ⟨c :: r, spot⟩
  refine ⟨_, by rw [closeFlow, hdrop]; rfl, keys'.tail, _, hk'.tail, ?_, rfl⟩
  rfl

variable (tokens flow allowed c r spot) in
theorem lexFlowEntry_noBlock (hk : Optional keys) :
    ∃ l', (noBlock tokens flow keys allowed ⟨c :: r, spot⟩).lexFlowEntry = some l' ∧
      Found (.flowEntry :: tokens) flow true r l' := by
  obtain ⟨keys', hk', -, hdrop⟩ := dropKey_noBlock hk tokens flow allowed ⟨c :: r, spot⟩
  refine ⟨_, by rw [lexFlowEntry, hdrop]; rfl, keys', _, hk', ?_, rfl⟩
  rfl

theorem reads_open {t : Token}
    (hc : c = '[' ∧ t = .flowSequenceStart ∨ c = '\x7b' ∧ t = .flowMappingStart)
    (h : Found tokens (flow + 1) allowed cs l) (hcs : Json.skipSpace cs = c :: r) :
    ∃ l', Reads 1 l l' ∧ Found (t :: tokens) (flow + 2) true r l' := by
  have hsolid : isSolid c = true := by
    rcases hc with ⟨rfl, -⟩ | ⟨rfl, -⟩ <;> rfl
  refine reads_token h hcs hsolid fun keys spot hk => ?_
  obtain ⟨l', hl', hfound⟩ := openFlow_noBlock tokens (flow + 1) allowed spot r c hk t
  refine ⟨l', ?_, hfound⟩
  rw [← hl']
  rcases hc with ⟨rfl, rfl⟩ | ⟨rfl, rfl⟩ <;> simp [lexToken, isDocumentMark]

theorem reads_close {t : Token}
    (hc : c = ']' ∧ t = .flowSequenceEnd ∨ c = '\x7d' ∧ t = .flowMappingEnd)
    (h : Found tokens (flow + 1) allowed cs l) (hcs : Json.skipSpace cs = c :: r) :
    ∃ l', Reads 1 l l' ∧ Found (t :: tokens) flow false r l' := by
  have hsolid : isSolid c = true := by
    rcases hc with ⟨rfl, -⟩ | ⟨rfl, -⟩ <;> rfl
  refine reads_token h hcs hsolid fun keys spot hk => ?_
  obtain ⟨l', hl', hfound⟩ := closeFlow_noBlock tokens flow allowed spot r c hk t
  refine ⟨l', ?_, hfound⟩
  rw [← hl']
  rcases hc with ⟨rfl, rfl⟩ | ⟨rfl, rfl⟩ <;> simp [lexToken, isDocumentMark]

theorem reads_comma (h : Found tokens (flow + 1) allowed cs l)
    (hcs : Json.skipSpace cs = ',' :: r) :
    ∃ l', Reads 1 l l' ∧ Found (.flowEntry :: tokens) (flow + 1) true r l' := by
  refine reads_token h hcs rfl fun keys spot hk => ?_
  obtain ⟨l', hl', hfound⟩ := lexFlowEntry_noBlock tokens (flow + 1) allowed spot r ',' hk
  refine ⟨l', ?_, hfound⟩
  rw [← hl']
  simp [lexToken, isDocumentMark]

theorem lexToken_quote (l : Lexer) (r : List Char) :
    l.lexToken '"' r = l.lexQuoted .doubleQuoted doubleQuoted := by
  simp [lexToken, isDocumentMark]

/-- A string, and the key that may start with it. -/
theorem lexToken_string {ms : List Mark} (hms : ms.all Mark.portable = true)
    (hk : Optional keys) (tokens : List Token) (flow : Nat) (allowed : Bool) (spot : Spot)
    (r : List Char) :
    ∃ keys', Optional keys' ∧
      (allowed = true → keys'.head? = some (some ⟨tokens.length, false, spot⟩)) ∧
      (noBlock tokens flow keys allowed ⟨'"' :: (ms.flatMap Mark.chars ++ '"' :: r), spot⟩).lexToken
          '"' (ms.flatMap Mark.chars ++ '"' :: r) =
        some (noBlock (.scalar (Json.spelled ms) .doubleQuoted :: tokens) flow keys' false
          ⟨r, spot.move (Json.literal ms).length⟩) := by
  obtain ⟨keys', hk', hhead, hsave⟩ := saveKey_noBlock hk tokens flow allowed
    ⟨'"' :: (ms.flatMap Mark.chars ++ '"' :: r), spot⟩
  have hcolumn : 0 < (spot.move 1).column := Nat.succ_pos spot.column
  have hread := doubleQuoted_string hms hcolumn r
  have hlength : (Json.literal ms).length = (ms.flatMap Mark.chars).length + 1 + 1 := by
    simp [Json.literal]
  refine ⟨keys', hk', hhead, ?_⟩
  rw [lexToken_quote, lexQuoted, lexAtom, hsave, hlength, ← Spot.move_move]
  simp only [Option.bind_eq_bind, Option.bind_some, allowKey, noBlock, List.tail_cons, hread,
    Option.map_some]
  rfl

/-- A string with half of a surrogate pair in it is no token. -/
theorem fails_string {ms : List Mark} (hlegible : ms.all Mark.legible = true)
    (hms : ms.all Mark.portable = false) (h : Found tokens (flow + 1) allowed cs l)
    (hcs : Json.skipSpace cs = Json.literal ms ++ r) : Fails 1 l := by
  rw [Json.literal_append] at hcs
  obtain ⟨keys, spot, hk, hrun⟩ := exists_run h hcs rfl
  obtain ⟨keys', -, -, hsave⟩ := saveKey_noBlock hk tokens (flow + 1) allowed
    ⟨'"' :: (ms.flatMap Mark.chars ++ '"' :: r), spot⟩
  have hcolumn : 0 < (spot.move 1).column := Nat.succ_pos spot.column
  have hread := doubleQuoted_marks_half r hlegible hms hcolumn [] []
  intro fuel
  rw [hrun, lexToken_quote, lexQuoted, lexAtom, hsave]
  simp only [Option.bind_eq_bind, Option.bind_some, allowKey, noBlock, List.tail_cons, Gap.none,
    hread, Option.map_none, Option.bind_none]

theorem reads_string {ms : List Mark} (hms : ms.all Mark.portable = true)
    (h : Found tokens (flow + 1) allowed cs l) (hcs : Json.skipSpace cs = Json.literal ms ++ r) :
    ∃ l', Reads 1 l l' ∧
      Found (.scalar (Json.spelled ms) .doubleQuoted :: tokens) (flow + 1) false r l' := by
  rw [Json.literal_append] at hcs
  refine reads_token h hcs rfl fun keys spot hk => ?_
  obtain ⟨keys', hk', -, hlex⟩ := lexToken_string hms hk tokens (flow + 1) allowed spot r
  exact ⟨_, hlex, keys', _, hk', rfl, rfl⟩

/-- The colon behind a key that started with the newest token. -/
theorem lexValue_marked (hk : Optional keys) (flow : Nat) (allowed : Bool) (t : Token)
    (here : Spot) (r : List Char)
    (hkey : keys.head? = some (some ⟨tokens.length, false, spot⟩)) :
    ∃ l', (noBlock (t :: tokens) (flow + 1) keys allowed ⟨':' :: r, here⟩).lexValue = some l' ∧
      Found (.value :: t :: .key :: tokens) (flow + 1) false r l' := by
  obtain ⟨keys, rfl⟩ := List.head?_eq_some_iff.1 hkey
  refine ⟨_, rfl, none :: keys, ⟨r, here.move 1⟩, hk.tail.cons (by simp), rfl, ?_⟩
  simp [emitAt, openBlock, inFlow, withKey, allowKey, emit, skip, noBlock, Cursor.move]

/-- A colon without a key in front of it. -/
theorem lexValue_unmarked (hk : Optional keys) (flow : Nat) (allowed : Bool) (tokens : List Token)
    (here : Spot) (r : List Char) (hkey : keys.head? = some none) :
    ∃ l', (noBlock tokens (flow + 1) keys allowed ⟨':' :: r, here⟩).lexValue = some l' ∧
      Found (.value :: tokens) (flow + 1) false r l' := by
  obtain ⟨keys, rfl⟩ := List.head?_eq_some_iff.1 hkey
  refine ⟨_, rfl, none :: keys, ⟨r, here.move 1⟩, hk, rfl, ?_⟩
  simp [openBlock, inFlow, allowKey, emit, skip, noBlock, Cursor.move]

/-- Whether a name can still be a key at its colon. -/
theorem isStale_name {n : Name} {number : Nat} {here : Spot}
    (hhere : n.after.chars.all isBlank = true →
      here = (spot.move (Json.literal n.marks).length).move n.after.chars.length)
    (hbelow : n.after.chars.all isBlank = false → spot.line < here.line) :
    isStale here ⟨number, false, spot⟩ = !n.isNear := by
  cases hblank : n.after.chars.all isBlank with
  | true =>
    rw [hhere hblank, Name.isNear, hblank, Bool.true_and, ← decide_not]
    simp only [isStale, Spot.move, Nat.lt_irrefl, decide_false, Bool.false_or]
    exact decide_eq_decide.2 (by omega)
  | false =>
    rw [Name.isNear, hblank, Bool.false_and, isStale, decide_eq_true (hbelow hblank)]
    rfl

theorem lexValue_name {n : Name} (hk : Optional keys) (flow : Nat) (allowed : Bool) (here : Spot)
    (r : List Char)
    (hkey : keys.head? = some (if n.isNear then some ⟨tokens.length, false, spot⟩ else none)) :
    ∃ l', (noBlock (.scalar (Json.spelled n.marks) .doubleQuoted :: tokens) (flow + 1) keys allowed
        ⟨':' :: r, here⟩).lexValue = some l' ∧
      Found (n.tokens.reverse ++ tokens) (flow + 1) false r l' := by
  cases hnear : n.isNear with
  | true =>
    rw [hnear, if_pos rfl] at hkey
    simpa [Name.tokens, hnear] using lexValue_marked hk flow allowed
      (.scalar (Json.spelled n.marks) .doubleQuoted) here r hkey
  | false =>
    rw [hnear, if_neg Bool.false_ne_true] at hkey
    simpa [Name.tokens, hnear] using lexValue_unmarked hk flow allowed
      (.scalar (Json.spelled n.marks) .doubleQuoted :: tokens) here r hkey

/-- A name up to behind its colon. -/
theorem reads_name {n : Name} (hn : n.marks.all Mark.portable = true)
    (h : Found tokens (flow + 1) true (n.chars ++ ':' :: r) l) :
    ∃ l', Reads 2 l l' ∧ Found (n.tokens.reverse ++ tokens) (flow + 1) false r l' := by
  obtain ⟨l₁, hfirst, keys, spot, hk, hkey, rfl⟩ := reads_token
    (P := fun l' => ∃ keys spot, Optional keys ∧
      keys.head? = some (some ⟨tokens.length, false, spot⟩) ∧
      l' = noBlock (.scalar (Json.spelled n.marks) .doubleQuoted :: tokens) (flow + 1) keys false
        ⟨n.after.chars ++ ':' :: r, spot.move (Json.literal n.marks).length⟩)
    h (Json.skipSpace_name n r) rfl fun keys spot hk => by
      obtain ⟨keys', hk', hkey, hlex⟩ := lexToken_string hn hk tokens (flow + 1)
        true spot (n.after.chars ++ ':' :: r)
      exact ⟨_, hlex, keys', spot, hk', hkey rfl, rfl⟩
  have htabs : TabsFit (flow + 1) false n.after.chars := fun h => by cases h
  obtain ⟨allowed, here, -, hhere, hbelow, hrun⟩ := run_cons (c := ':') hk
    (.scalar (Json.spelled n.marks) .doubleQuoted :: tokens) (List.all_eq_true.2 n.after.blank) rfl
    htabs (spot.move (Json.literal n.marks).length) r
  have hstale : isStale here ⟨tokens.length, false, spot⟩ = !n.isNear := isStale_name hhere hbelow
  have hfresh : (fresh here keys).head? =
      some (if n.isNear then some ⟨tokens.length, false, spot⟩ else none) := by
    simp [fresh, hkey, hstale, Option.filter]
  obtain ⟨l', hl', hfound⟩ := lexValue_name (hk.fresh here) flow allowed here r hfresh
  have hlex : (noBlock (.scalar (Json.spelled n.marks) .doubleQuoted :: tokens) (flow + 1)
      (fresh here keys) allowed ⟨':' :: r, here⟩).lexToken ':' r = some l' := by
    rw [← hl']
    simp [lexToken, isDocumentMark, inFlow, noBlock]
  refine ⟨l', hfirst.trans (n := 1) fun fuel => ?_, hfound⟩
  rw [hrun, hlex]
  rfl

theorem isSolid_of_isWordChar (hc : isWordChar c = true) : isSolid c = true := by
  have hne : ∀ x, isWordChar x = false → c ≠ x := fun x => ne_of_isWordChar hc
  simp (disch := decide) [isSolid, isBlank_of_isWordChar hc, isBreak_of_isWordChar hc, hne]

/-- Only a minus could be taken for something else. -/
theorem startsPlain_of_isWordChar (hc : isWordChar c = true) (hminus : c = '-' → endsWord r = false)
    (l : Lexer) : l.startsPlain c r = true := by
  have hne : ∀ x, isWordChar x = false → c ≠ x := fun x => ne_of_isWordChar hc
  by_cases h : c = '-'
  · subst h
    cases r with
    | nil => cases hminus rfl
    | cons x r =>
      have hblank : isBlank x = false := (Bool.or_eq_false_iff.1 (hminus rfl)).1
      simp [startsPlain, hblank, show isBlank '-' = false from rfl]
  · have hindicator : isIndicator c = false := by
      simp (disch := decide) [isIndicator, hne, h]
    simp [startsPlain, hindicator, isBlank_of_isWordChar hc]

theorem lexToken_word (hc : isWordChar c = true) (hminus : c = '-' → endsWord r = false)
    (hmark : isDocumentMark (c :: r) = false) (l : Lexer) : l.lexToken c r = l.lexPlain := by
  have hne : ∀ x, isWordChar x = false → c ≠ x := fun x => ne_of_isWordChar hc
  have hdash : ¬ (c == '-' && endsWord r) = true := fun h => by
    simp only [Bool.and_eq_true, beq_iff_eq] at h
    rw [hminus h.1] at h
    cases h.2
  unfold lexToken
  rw [hmark, if_neg (by simp [hne '%' rfl]), if_neg (by simp)]
  split
  all_goals try exact absurd rfl (hne _ rfl)
  rw [if_neg hdash, if_neg (by simp [hne '?' rfl]), if_neg (by simp [hne ':' rfl]),
    if_neg (by simp [hne '|' rfl]), if_neg (by simp [hne '>' rfl]),
    if_pos (startsPlain_of_isWordChar hc hminus l)]

theorem lexPlain_noBlock {p : PlainScalar} (hk : Optional keys)
    (hp : plain true 0 spot [] .none cs = some p) (tokens : List Token) (flow : Nat)
    (allowed : Bool) : ∃ keys', Optional keys' ∧
      (noBlock tokens (flow + 1) keys allowed ⟨cs, spot⟩).lexPlain =
        some (noBlock (.scalar p.text .plain :: tokens) (flow + 1) keys' p.onNewLine p.cursor) := by
  obtain ⟨keys', hk', -, hsave⟩ := saveKey_noBlock hk tokens (flow + 1) allowed
    ⟨cs, spot⟩
  refine ⟨keys', hk', ?_⟩
  rw [lexPlain, hsave]
  change (plain true 0 spot [] .none cs).bind _ = _
  rw [hp]
  rfl

/-- What is left behind a value goes on with what may follow it. -/
def Followed (r : List Char) : Prop :=
  ∃ (s : Space) (c : Char) (r' : List Char), r = s.chars ++ c :: r' ∧ isClosing c = true

theorem followed (s : Space) (hc : isClosing c = true) (r : List Char) :
    Followed (s.chars ++ c :: r) :=
  ⟨s, c, r, rfl, hc⟩

/-- A word, which takes the blanks behind it along. -/
theorem reads_word {w : List Char} (hw : IsWord w) (h : Found tokens (flow + 1) allowed cs l)
    (hcs : Json.skipSpace cs = w ++ r) (hr : Followed r) :
    ∃ l' allowed' r', Reads 1 l l' ∧ Json.skipSpace r' = Json.skipSpace r ∧
      Found (.scalar (String.ofList w) .plain :: tokens) (flow + 1) allowed' r' l' := by
  obtain ⟨s, x, r, rfl, hx⟩ := hr
  obtain ⟨c, cs', hcons, hc, -, hmark, hminus⟩ := hw.exists_cons
  rw [hcons, List.cons_append] at hcs
  obtain ⟨l', hread, allowed', hfound⟩ := reads_token (P := fun l' => ∃ allowed',
      Found (.scalar (String.ofList w) .plain :: tokens) (flow + 1) allowed' (x :: r) l')
    h hcs (isSolid_of_isWordChar hc) fun keys spot hk => by
      obtain ⟨p, hp, htext, hrest⟩ :=
        plain_eq hw (List.all_eq_true.2 s.blank) hx (Int.le_refl 0) spot r
      rw [hcons, List.cons_append] at hp
      obtain ⟨keys', hk', hlex⟩ := lexPlain_noBlock hk hp tokens flow allowed
      exact ⟨_, (lexToken_word hc (hminus _) (hmark _) _).trans hlex, p.onNewLine, keys', p.cursor,
        hk', hrest, by rw [htext]⟩
  exact ⟨l', allowed', x :: r, hread, (s.skipSpace_append _).symm, hfound⟩

end Steading.Yaml.Lexer
