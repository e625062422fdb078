import Steading.Proofs.PortableJson

/-!
# The scalars of JSON in YAML

A portable string is a double-quoted scalar of the same text, read without leaving its line, and a
number, a truth value or `null` is a plain scalar that says what it spells. A plain scalar takes the
blanks behind it along.
-/

namespace Steading.Yaml

open Json (Mark Space Source hexValue? isSpace)

/-! ## Strings -/

theorem hexDigit?_eq (c : Char) : hexDigit? c = hexValue? c := by
  simp [hexDigit?, hexValue?, Char.isDigit, Char.le_def]

theorem hexValue?_lt {c : Char} {n : Nat} (h : hexValue? c = some n) : n < 16 := by
  have hle : ∀ {low high : Char}, low ≤ c ∧ c ≤ high → low.toNat ≤ c.toNat ∧ c.toNat ≤ high.toNat :=
    fun h => h
  unfold hexValue? at h
  simp only [Bool.and_eq_true, decide_eq_true_eq] at h
  split_ifs at h with h₁ h₂ h₃
  all_goals
    obtain rfl := Option.some.inj h
  · have hc : 48 ≤ c.toNat ∧ c.toNat ≤ 57 := hle h₁
    simp only [show '0'.toNat = 48 from rfl]
    omega
  · have hc : 97 ≤ c.toNat ∧ c.toNat ≤ 102 := hle h₂
    simp only [show 'a'.toNat = 97 from rfl]
    omega
  · have hc : 65 ≤ c.toNat ∧ c.toNat ≤ 70 := hle h₃
    simp only [show 'A'.toNat = 65 from rfl]
    omega

/-- An escape has a character unless it spells half of a pair. -/
theorem hexChar?_unicode (a b c d : Json.HexDigit) :
    hexChar? [a.char, b.char, c.char, d.char] =
      if (Mark.unicode a b c d).isHalf then none else some (Mark.unicode a b c d).char := by
  have ha := hexValue?_lt a.eq
  have hb := hexValue?_lt b.eq
  have hc := hexValue?_lt c.eq
  have hd := hexValue?_lt d.eq
  have hread : [a.char, b.char, c.char, d.char].foldlM
      (fun n x => (hexDigit? x).map (n * 16 + ·)) 0 = some (Mark.unit a b c d) := by
    simp [hexDigit?_eq, a.eq, b.eq, c.eq, d.eq, Mark.unit]
  have hlt : Mark.unit a b c d < 0x110000 := by
    rw [Mark.unit]
    omega
  rw [hexChar?, hread, Option.bind_eq_bind, Option.bind_some]
  by_cases hhalf : (Mark.unicode a b c d).isHalf = true
  · rw [if_pos hhalf, if_neg]
    simp [Mark.isHalf, hlt] at hhalf ⊢
    omega
  · rw [if_neg hhalf, if_pos]
    · rfl
    · simp [Mark.isHalf, hlt] at hhalf ⊢
      omega

/-- An element of a string is read as its character; a blank is kept for later, in case that the
line ends there. -/
theorem doubleQuoted_mark {m : Mark} (hm : m.portable = true) {spot : Spot}
    (hspot : 0 < spot.column) (acc blanks r : List Char) :
    ∃ acc' blanks', blanks' ++ acc' = m.char :: (blanks ++ acc) ∧
      doubleQuoted spot acc (.blanks blanks) (m.chars ++ r) =
        doubleQuoted (spot.move m.chars.length) acc' (.blanks blanks') r := by
  cases m with
  | plain c h =>
    simp only [Mark.portable, Mark.legible, Bool.and_eq_true, Bool.not_eq_true'] at hm
    have hreturn : c ≠ '\r' := by
      rintro rfl
      exact absurd h.1 (by decide)
    have hslash : ∀ {cs' : List Char}, c = '\\' → r = cs' → False := fun h' _ => h.2.2 h'
    have hstep := doubleQuoted.eq_9 spot acc (.blanks blanks) c r h.2.1 (fun _ _ _ => hslash)
      (fun _ _ _ _ _ => hslash) (fun _ _ _ _ _ _ _ _ _ => hslash) (fun _ => hslash)
      (fun _ _ => hslash) (fun _ h' _ => hreturn h')
    rw [Mark.chars, List.singleton_append, hstep]
    split_ifs with hblank hbreak hbad
    · exact ⟨acc, c :: blanks, rfl, rfl⟩
    · exact absurd hbreak (by simp [hm.1.2])
    · simp only [Bool.or_eq_true, Bool.and_eq_true, beq_iff_eq] at hbad
      rcases hbad with hbad | hbad
      · exact absurd hbad h.2.2
      · omega
    · exact ⟨c :: (blanks ++ acc), [], rfl, rfl⟩
  | short c x h =>
    refine ⟨x :: (blanks ++ acc), [], rfl, ?_⟩
    unfold Json.shortEscape? at h
    split at h
    all_goals first | (obtain rfl := Option.some.inj h; rfl) | cases h
  | unicode a b c d =>
    have hhalf : (Mark.unicode a b c d).isHalf = false := by
      simpa [Mark.portable] using (Bool.and_eq_true_iff.1 hm).2
    refine ⟨_, [], rfl, ?_⟩
    simp only [Mark.chars, List.cons_append, List.nil_append, doubleQuoted, hexChar?_unicode,
      hhalf, Bool.false_eq_true, if_false, Option.bind_eq_bind, Option.bind_some]
    rfl

theorem doubleQuoted_half {m : Mark} (hm : m.isHalf = true) (spot : Spot) (acc : List Char)
    (gap : Gap) (r : List Char) : doubleQuoted spot acc gap (m.chars ++ r) = none := by
  cases m with
  | plain c h | short c x h => cases hm
  | unicode a b c d =>
    simp only [Mark.chars, List.cons_append, List.nil_append, doubleQuoted, hexChar?_unicode, hm,
      if_true, Option.bind_eq_bind, Option.bind_none]

theorem doubleQuoted_marks (r : List Char) : ∀ {ms : List Mark}, ms.all Mark.portable = true →
    ∀ {spot : Spot}, 0 < spot.column → ∀ acc blanks : List Char,
      doubleQuoted spot acc (.blanks blanks) (ms.flatMap Mark.chars ++ '"' :: r) =
        some (textOf ((ms.map Mark.char).reverse ++ (blanks ++ acc)),
          ⟨r, spot.move ((ms.flatMap Mark.chars).length + 1)⟩)
  | [], _, spot, _, acc, blanks => by
    rw [List.flatMap_nil, List.nil_append, doubleQuoted]
    rfl
  | m :: ms, h, spot, hspot, acc, blanks => by
    rw [List.all_cons, Bool.and_eq_true] at h
    obtain ⟨acc', blanks', hgathered, hread⟩ := doubleQuoted_mark h.1 hspot acc blanks
      (ms.flatMap Mark.chars ++ '"' :: r)
    have hnext : 0 < (spot.move m.chars.length).column := by
      simp only [Spot.move]
      omega
    rw [List.flatMap_cons, List.append_assoc, hread, doubleQuoted_marks r h.2 hnext, hgathered]
    simp [Spot.move, Nat.add_assoc]

theorem doubleQuoted_string {ms : List Mark} (h : ms.all Mark.portable = true) {spot : Spot}
    (hspot : 0 < spot.column) (r : List Char) :
    doubleQuoted spot [] .none (ms.flatMap Mark.chars ++ '"' :: r) =
      some (Json.spelled ms, ⟨r, spot.move ((ms.flatMap Mark.chars).length + 1)⟩) := by
  rw [Gap.none, doubleQuoted_marks r h hspot]
  simp [textOf, Json.spelled]

/-- Half of a pair anywhere in a string. -/
theorem doubleQuoted_marks_half (r : List Char) : ∀ {ms : List Mark}, ms.all Mark.legible = true →
    ms.all Mark.portable = false → ∀ {spot : Spot}, 0 < spot.column → ∀ acc blanks : List Char,
      doubleQuoted spot acc (.blanks blanks) (ms.flatMap Mark.chars ++ '"' :: r) = none
  | [], _, h, _, _, _, _ => by cases h
  | m :: ms, hlegible, h, spot, hspot, acc, blanks => by
    rw [List.all_cons, Bool.and_eq_true] at hlegible
    rw [List.all_cons] at h
    rw [List.flatMap_cons, List.append_assoc]
    cases hm : m.isHalf with
    | true => exact doubleQuoted_half hm spot acc _ _
    | false =>
      have hportable : m.portable = true := by
        rw [Mark.portable, hlegible.1, hm]
        rfl
      rw [hportable, Bool.true_and] at h
      obtain ⟨acc', blanks', -, hread⟩ := doubleQuoted_mark hportable hspot acc blanks
        (ms.flatMap Mark.chars ++ '"' :: r)
      rw [hread]
      exact doubleQuoted_marks_half r hlegible.2 h (Nat.lt_of_lt_of_le hspot (Nat.le_add_right _ _))
        acc' blanks'

/-! ## Words -/

def isWordChar (c : Char) : Bool :=
  c.isAlphanum || c == '+' || c == '-' || c == '.'

/-- What a number, a truth value and `null` look like. -/
def IsWord (w : List Char) : Prop :=
  ∃ sign c cs, w = sign ++ c :: cs ∧ (sign = [] ∨ sign = ['-']) ∧ c.isAlphanum = true ∧
    cs.all isWordChar = true

theorem isWord_null : IsWord Source.null.chars :=
  ⟨[], 'n', ['u', 'l', 'l'], rfl, .inl rfl, rfl, rfl⟩

theorem isWord_bool (b : Bool) : IsWord (Source.bool b).chars := by
  cases b with
  | false => exact ⟨[], 'f', ['a', 'l', 's', 'e'], rfl, .inl rfl, rfl, rfl⟩
  | true => exact ⟨[], 't', ['r', 'u', 'e'], rfl, .inl rfl, rfl, rfl⟩

theorem isWordChar_of_digit {c : Char} (hc : c.isDigit = true) : isWordChar c = true := by
  simp [isWordChar, Char.isAlphanum, hc]

theorem all_isWordChar_digits (d : Json.Digits) : d.chars.all isWordChar = true :=
  List.all_eq_true.2 fun c hc => isWordChar_of_digit (d.digit c hc)

theorem all_isWordChar_tail (n : Json.Numeral) : n.tail.all isWordChar = true := by
  rw [Json.Numeral.tail, List.all_append, Bool.and_eq_true]
  constructor
  · cases n.fraction with
    | none => rfl
    | some d => rw [Json.fractionChars, List.all_cons, all_isWordChar_digits]; rfl
  · cases n.exponent with
    | none => rfl
    | some e =>
      have hmark : isWordChar e.mark = true := by
        rcases e.mark_eq with h | h <;> rw [h] <;> rfl
      have hsign : e.sign.all isWordChar = true := by
        rcases e.sign_eq with h | h | h <;> rw [h] <;> rfl
      simp [Json.exponentChars, Json.Exponent.chars, hmark, hsign, all_isWordChar_digits]

theorem isWord_numeral (n : Json.Numeral) : IsWord n.chars := by
  obtain ⟨c, cs, hcs⟩ := List.exists_cons_of_ne_nil n.whole.ne_nil
  have hc := n.whole.digit c (hcs ▸ List.mem_cons_self)
  have hwhole := all_isWordChar_digits n.whole
  rw [hcs, List.all_cons, Bool.and_eq_true] at hwhole
  refine ⟨if n.negative then ['-'] else [], c, cs ++ n.tail, ?_, ?_, ?_, ?_⟩
  · simp [Json.Numeral.chars, hcs]
  · cases n.negative
    · exact .inl rfl
    · exact .inr rfl
  · simp [Char.isAlphanum, hc]
  · rw [List.all_append, hwhole.2, all_isWordChar_tail]
    rfl

/-- What may follow a value in a flow. -/
def isClosing (c : Char) : Bool :=
  c == ',' || c == ']' || c == '\x7d'

theorem ne_of_isWordChar {c x : Char} (hc : isWordChar c = true) (hx : isWordChar x = false) :
    c ≠ x := by
  rintro rfl
  rw [hx] at hc
  cases hc

theorem isBlank_of_isWordChar {c : Char} (hc : isWordChar c = true) : isBlank c = false := by
  have hne : ∀ x, isWordChar x = false → c ≠ x := fun x => ne_of_isWordChar hc
  simp (disch := decide) [isBlank, hne]

theorem isBreak_of_isWordChar {c : Char} (hc : isWordChar c = true) : isBreak c = false := by
  have hne : ∀ x, isWordChar x = false → c ≠ x := fun x => ne_of_isWordChar hc
  simp (disch := decide) [isBreak, lineSeparator, paragraphSeparator, hne]

section

variable {indent : Int} {spot : Spot} {acc r : List Char}

theorem plain_char {c : Char} (hc : isWordChar c = true)
    (hmark : spot.column ≠ 0 ∨ isDocumentMark (c :: r) = false) :
    plain true indent spot acc .none (c :: r) =
      plain true indent (spot.move 1) (c :: acc) .none r := by
  have hne : ∀ x, isWordChar x = false → c ≠ x := fun x => ne_of_isWordChar hc
  have hflow : isFlowMark c = false := by
    simp (disch := decide) [isFlowMark, hne]
  have hdocument : (spot.column == 0 && isDocumentMark (c :: r)) = false := by
    rcases hmark with h | h <;> simp [h]
  have hcolon : (c == ':') = false := by
    simp (disch := decide) [hne]
  rw [plain.eq_3 true indent spot acc .none c r fun _ h _ => hne '\r' rfl h]
  simp only [isBlank_of_isWordChar hc, isBreak_of_isWordChar hc, hflow, hdocument, hcolon]
  rfl

theorem plain_chars (indent : Int) : ∀ {cs : List Char}, cs.all isWordChar = true → ∀ {spot : Spot},
    spot.column ≠ 0 → ∀ acc r : List Char, ∃ spot', plain true indent spot acc .none (cs ++ r) =
      plain true indent spot' (cs.reverse ++ acc) .none r
  | [], _, spot, _, acc, r => ⟨spot, rfl⟩
  | c :: cs, h, spot, hspot, acc, r => by
    rw [List.all_cons, Bool.and_eq_true] at h
    have hnext : (spot.move 1).column ≠ 0 := Nat.succ_ne_zero _
    obtain ⟨spot', hread⟩ := plain_chars indent h.2 hnext (c :: acc) r
    exact ⟨spot', by rw [List.cons_append, plain_char h.1 (.inl hspot), hread]; simp⟩

/-- A word is taken neither for a mark of the document nor for the mark of an item. -/
theorem IsWord.exists_cons {w : List Char} (h : IsWord w) : ∃ c cs, w = c :: cs ∧
    isWordChar c = true ∧ cs.all isWordChar = true ∧
    (∀ r, isDocumentMark (c :: (cs ++ r)) = false) ∧
    ∀ r, c = '-' → endsWord (cs ++ r) = false := by
  obtain ⟨sign, c, cs, rfl, hsign, hc, hcs⟩ := h
  have hne : c ≠ '-' ∧ c ≠ '.' := by
    constructor <;> rintro rfl <;> cases hc
  have hword : isWordChar c = true := by
    simp [isWordChar, hc]
  rcases hsign with rfl | rfl
  · exact ⟨c, cs, rfl, hword, hcs, fun r => by simp [isDocumentMark, hne],
      fun r h => absurd h hne.1⟩
  · refine ⟨'-', c :: cs, rfl, rfl, by simp [hword, hcs],
      fun r => by simp [isDocumentMark, hne], fun r _ => ?_⟩
    rw [List.cons_append, endsWord, isBlank_of_isWordChar hword, isBreak_of_isWordChar hword]
    rfl

theorem plain_word (indent : Int) {w : List Char} (h : IsWord w) (spot : Spot) (r : List Char) :
    ∃ spot', plain true indent spot [] .none (w ++ r) =
      plain true indent spot' w.reverse .none r := by
  obtain ⟨c, cs, rfl, hc, hcs, hmark, -⟩ := h.exists_cons
  have hnext : (spot.move 1).column ≠ 0 := Nat.succ_ne_zero _
  obtain ⟨spot', hread⟩ := plain_chars indent hcs hnext [c] r
  exact ⟨spot', by
    rw [List.cons_append, plain_char hc (.inr (hmark r)), hread, List.reverse_cons]⟩

/-- The blanks behind a word are no part of it. -/
theorem plain_space (acc r : List Char) {c : Char} (hc : isClosing c = true)
    (hindent : indent ≤ 0) : ∀ {s : List Char}, s.all isSpace = true → ∀ (spot : Spot) (gap : Gap),
      ∃ p, plain true indent spot acc gap (s ++ c :: r) = some p ∧ p.text = textOf acc ∧
        p.cursor.rest = c :: r
  | [], _, spot, gap => by
    refine ⟨plainEnd spot acc gap (c :: r), ?_, rfl, rfl⟩
    simp only [isClosing, Bool.or_eq_true, beq_iff_eq] at hc
    rcases hc with (rfl | rfl) | rfl
    all_goals
      rw [List.nil_append, plain.eq_3 _ _ _ _ _ _ _ fun _ h _ => by cases h]
      simp [isBlank, isBreak, lineSeparator, paragraphSeparator, isDocumentMark, isFlowMark]
  | x :: s, hs, spot, gap => by
    rw [List.all_cons, Bool.and_eq_true] at hs
    -- a carriage return and a line feed make one break
    by_cases hreturn : x = '\r' ∧ s.head? = some '\n'
    · obtain ⟨rfl, hfeed⟩ := hreturn
      obtain ⟨s, rfl⟩ := List.head?_eq_some_iff.1 hfeed
      rw [List.cons_append, List.cons_append, plain]
      rw [List.all_cons, Bool.and_eq_true] at hs
      exact plain_space acc r hc hindent hs.2.2 _ _
    · have hfeed : ∀ r', x = '\r' → s ++ c :: r = '\n' :: r' → False := fun r' hx hr => by
        cases s with
        | nil =>
          obtain rfl : c = '\n' := (List.cons.inj hr).1
          cases hc
        | cons y s =>
          obtain rfl : y = '\n' := (List.cons.inj hr).1
          exact hreturn ⟨hx, rfl⟩
      have hspace := hs.1
      simp only [isSpace, Bool.or_eq_true, beq_iff_eq] at hspace
      obtain ⟨p, hp, hread⟩ : ∃ p, plain true indent spot acc gap (x :: (s ++ c :: r)) = some p ∧
          p.text = textOf acc ∧ p.cursor.rest = c :: r := by
        rw [plain.eq_3 _ _ _ _ _ _ _ hfeed]
        split_ifs with hblank htab hbreak
        · simp only [Bool.and_eq_true, decide_eq_true_eq] at htab
          omega
        · exact plain_space acc r hc hindent hs.2 _ _
        · exact plain_space acc r hc hindent hs.2 _ _
        all_goals
          rcases hspace with ((rfl | rfl) | rfl) | rfl
          all_goals first | exact absurd rfl hblank | exact absurd rfl hbreak
      exact ⟨p, hp, hread⟩
  termination_by s => s.length

/-- A word with the blanks behind it, on as many lines as there are. -/
theorem plain_eq {w s : List Char} {c : Char} (hw : IsWord w) (hs : s.all isSpace = true)
    (hc : isClosing c = true) (hindent : indent ≤ 0) (spot : Spot) (r : List Char) :
    ∃ p, plain true indent spot [] .none (w ++ (s ++ c :: r)) = some p ∧
      p.text = String.ofList w ∧ p.cursor.rest = c :: r := by
  obtain ⟨spot', hword⟩ := plain_word indent hw spot (s ++ c :: r)
  obtain ⟨p, hp, htext, hrest⟩ := plain_space w.reverse r hc hindent hs spot' .none
  exact ⟨p, hword.trans hp, by rw [htext, textOf, List.reverse_reverse], hrest⟩

end

end Steading.Yaml
