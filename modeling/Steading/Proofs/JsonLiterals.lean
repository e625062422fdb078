import Mathlib.Data.List.DropRight
import Steading.Proofs.JsonText

/-!
# How strings, numbers and blanks are written in JSON

The parts of a text of JSON that are no values of their own: blanks, the elements of a string, each
spelled in one of three ways, and the digits of a number. Each reader takes what is written here for
its value, and what it takes is always written so.
-/

namespace Steading.Json

/-! ## Blanks, strings and numbers -/

/-- Blanks between two parts of a text. -/
structure Space where
  chars : List Char
  blank : ∀ c ∈ chars, isSpace c = true

namespace Space

def none : Space :=
  ⟨[], by simp⟩

theorem skipSpace_append (s : Space) (cs : List Char) : skipSpace (s.chars ++ cs) = skipSpace cs :=
  List.dropWhile_append_of_pos s.blank

end Space

/-- What is skipped before a text goes on. -/
theorem exists_space (cs : List Char) : ∃ s : Space, cs = s.chars ++ skipSpace cs :=
  ⟨⟨cs.takeWhile isSpace, fun _ => List.mem_takeWhile_imp⟩, List.takeWhile_append_dropWhile.symm⟩

structure HexDigit where
  char : Char
  value : Nat
  eq : hexValue? char = some value

/-- How an element of a string is spelled. -/
inductive Mark
  | plain (c : Char) (h : 0x20 ≤ c.toNat ∧ c ≠ '"' ∧ c ≠ '\\')
  | short (c x : Char) (h : shortEscape? c = some x)
  | unicode (a b c d : HexDigit)

namespace Mark

def chars : Mark → List Char
  | plain c _ => [c]
  | short c _ _ => ['\\', c]
  | unicode a b c d => ['\\', 'u', a.char, b.char, c.char, d.char]

def unit (a b c d : HexDigit) : Nat :=
  ((a.value * 16 + b.value) * 16 + c.value) * 16 + d.value

def piece : Mark → Piece
  | plain c _ => .char c
  | short _ x _ => .char x
  | unicode a b c d => pieceOfUnit (unit a b c d)

theorem readPieces_chars (m : Mark) (r : List Char) :
    readPieces (m.chars ++ r) = (readPieces r).map fun p => (m.piece :: p.1, p.2) := by
  cases m with
  | plain c h => exact readPieces_plain h.2.1 h.2.2 h.1 r
  | short c x h => exact readPieces_short h r
  | unicode a b c d =>
    simp only [chars, List.cons_append, List.nil_append, readPieces, a.eq, b.eq, c.eq, d.eq,
      Option.bind_eq_bind, Option.bind_some, Option.pure_def]
    cases readPieces r <;> rfl

end Mark

/-- A string between its quotes. -/
def literal (ms : List Mark) : List Char :=
  '"' :: (ms.flatMap Mark.chars ++ ['"'])

/-- What a string says, if it spells no half of a pair. -/
def literalText (ms : List Mark) : Option String :=
  (joinPieces (ms.map Mark.piece)).map String.ofList

theorem readPieces_marks (r : List Char) : ∀ ms : List Mark,
    readPieces (ms.flatMap Mark.chars ++ '"' :: r) = some (ms.map Mark.piece, r)
  | [] => by rw [List.flatMap_nil, List.nil_append, readPieces]; rfl
  | m :: ms => by
    rw [List.flatMap_cons, List.append_assoc, m.readPieces_chars, readPieces_marks r ms]
    rfl

theorem readText_marks (ms : List Mark) (r : List Char) :
    readText (ms.flatMap Mark.chars ++ '"' :: r) = some (literalText ms, r) := by
  rw [readText, readPieces_marks]
  rfl

theorem literal_append (ms : List Mark) (r : List Char) :
    literal ms ++ r = '"' :: (ms.flatMap Mark.chars ++ '"' :: r) := by
  simp [literal]

theorem exists_marks {cs r : List Char} {ps : List Piece} (h : readPieces cs = some (ps, r)) :
    ∃ ms : List Mark, cs = ms.flatMap Mark.chars ++ '"' :: r ∧ ms.map Mark.piece = ps := by
  induction cs using readPieces.induct generalizing ps with
  | case1 => cases h
  | case2 cs =>
    rw [readPieces] at h
    obtain ⟨rfl, rfl⟩ := Prod.mk.inj (Option.some.inj h)
    exact ⟨[], rfl, rfl⟩
  | case3 a b c d cs ih =>
    simp only [readPieces, Option.bind_eq_bind, Option.bind_eq_some_iff, Option.pure_def,
      Option.some.injEq, Prod.mk.injEq] at h
    obtain ⟨av, ha, bv, hb, cv, hc, dv, hd, ⟨ps, r⟩, hread, rfl, rfl⟩ := h
    obtain ⟨ms, rfl, rfl⟩ := ih hread
    exact ⟨.unicode ⟨a, av, ha⟩ ⟨b, bv, hb⟩ ⟨c, cv, hc⟩ ⟨d, dv, hd⟩ :: ms, rfl, rfl⟩
  | case4 c cs hu ih =>
    rw [readPieces.eq_4 _ _ hu] at h
    simp only [Option.bind_eq_bind, Option.bind_eq_some_iff, Option.pure_def,
      Option.some.injEq, Prod.mk.injEq] at h
    obtain ⟨x, hx, ⟨ps, r⟩, hread, rfl, rfl⟩ := h
    obtain ⟨ms, rfl, rfl⟩ := ih hread
    exact ⟨.short c x hx :: ms, rfl, rfl⟩
  | case5 c cs hquote hunicode hshort hbad => simp [readPieces, hbad] at h
  | case6 c cs hquote hunicode hshort hbad ih =>
    simp only [readPieces, hbad, Option.bind_eq_bind, Option.bind_eq_some_iff, Option.pure_def,
      Bool.false_eq_true, if_false, Option.some.injEq, Prod.mk.injEq] at h
    obtain ⟨⟨ps, r⟩, hread, rfl, rfl⟩ := h
    obtain ⟨ms, rfl, rfl⟩ := ih hread
    have hplain : 0x20 ≤ c.toNat ∧ c ≠ '"' ∧ c ≠ '\\' := by
      simp only [Bool.or_eq_true, decide_eq_true_eq, beq_iff_eq, not_or, Nat.not_lt] at hbad
      exact ⟨hbad.1, hquote, hbad.2⟩
    exact ⟨.plain c hplain :: ms, rfl, rfl⟩

/-- At least one digit. -/
structure Digits where
  chars : List Char
  ne_nil : chars ≠ []
  digit : ∀ c ∈ chars, c.isDigit = true

structure Exponent where
  mark : Char
  sign : List Char
  digits : Digits
  mark_eq : mark = 'e' ∨ mark = 'E'
  sign_eq : sign = ['+'] ∨ sign = ['-'] ∨ sign = []

def Exponent.chars (e : Exponent) : List Char :=
  e.mark :: e.sign ++ e.digits.chars

/-- A number as it is written; the whole part has no needless zero in front. -/
structure Numeral where
  negative : Bool
  whole : Digits
  fraction : Option Digits
  exponent : Option Exponent
  eq_zero : whole.chars.head? = some '0' → whole.chars = ['0']

/-- What is left of a text cannot go on with digits. -/
def EndsDigits (r : List Char) : Prop :=
  ∀ c ∈ r.head?, c.isDigit = false

theorem Ends.digits {r : List Char} (h : Ends r) : EndsDigits r :=
  fun c hc => (h c hc).1

namespace Digits

variable (d : Digits) {r : List Char}

theorem takeWhile_append (hr : EndsDigits r) :
    (d.chars ++ r).takeWhile Char.isDigit = d.chars := by
  rw [List.takeWhile_append_of_pos d.digit]
  cases r with
  | nil => simp
  | cons c r => simp [hr c rfl]

theorem dropWhile_append (hr : EndsDigits r) : (d.chars ++ r).dropWhile Char.isDigit = r := by
  rw [List.dropWhile_append_of_pos d.digit]
  cases r with
  | nil => rfl
  | cons c r => simp [hr c rfl]

theorem readWhole_append (hzero : d.chars.head? = some '0' → d.chars = ['0'])
    (hr : EndsDigits r) : readWhole (d.chars ++ r) = some (d.chars, r) := by
  rw [readWhole, d.takeWhile_append hr, d.dropWhile_append hr]
  split
  · next h => exact absurd h d.ne_nil
  · next h => rw [h]
  · next ds h hnot =>
    rw [hzero (by rw [hnot]; rfl)] at hnot
    simp_all
  · rfl

end Digits

def fractionChars : Option Digits → List Char
  | some d => '.' :: d.chars
  | none => []

def exponentChars : Option Exponent → List Char
  | some e => e.chars
  | none => []

namespace Numeral

def tail (n : Numeral) : List Char :=
  fractionChars n.fraction ++ exponentChars n.exponent

def chars (n : Numeral) : List Char :=
  (if n.negative then ['-'] else []) ++ n.whole.chars ++ n.tail

def value (n : Numeral) : Json :=
  ofLiteral n.negative n.whole.chars n.tail

end Numeral

section

variable {r : List Char}

/-- Neither an exponent nor what ends a number goes on with digits or a fraction. -/
theorem head?_exponentChars (hr : Ends r) (e : Option Exponent) :
    ∀ c ∈ (exponentChars e ++ r).head?, c.isDigit = false ∧ c ≠ '.' := by
  cases e with
  | none => exact fun c hc => ⟨(hr c hc).1, (hr c hc).2.1⟩
  | some e =>
    rintro c ⟨⟩
    rcases e.mark_eq with h | h <;> rw [h] <;> decide

theorem endsDigits_tail (hr : Ends r) (f : Option Digits) (e : Option Exponent) :
    EndsDigits (fractionChars f ++ (exponentChars e ++ r)) := by
  cases f with
  | none => exact fun c hc => (head?_exponentChars hr e c hc).1
  | some d =>
    rintro c ⟨⟩
    rfl

theorem readFraction_append (hr : ∀ c ∈ r.head?, c.isDigit = false ∧ c ≠ '.') (f : Option Digits) :
    readFraction (fractionChars f ++ r) = some (fractionChars f, r) := by
  cases f with
  | none =>
    rw [fractionChars, List.nil_append, readFraction.eq_def]
    split
    · exact absurd rfl (hr '.' rfl).2
    · rfl
  | some d =>
    have hdigits : EndsDigits r := fun c hc => (hr c hc).1
    rw [fractionChars, List.cons_append, readFraction, d.takeWhile_append hdigits,
      d.dropWhile_append hdigits]
    split
    · next h => exact absurd h d.ne_nil
    · rfl

theorem exponentSign_append (e : Exponent) (r : List Char) :
    exponentSign (e.sign ++ (e.digits.chars ++ r)) = (e.sign, e.digits.chars ++ r) := by
  rcases e.sign_eq with h | h | h <;> rw [h]
  · rfl
  · rfl
  · obtain ⟨c, cs, hcs⟩ := List.exists_cons_of_ne_nil e.digits.ne_nil
    have hc := e.digits.digit c (hcs ▸ List.mem_cons_self)
    rw [List.nil_append, hcs, List.cons_append, exponentSign.eq_def]
    split
    · next h => cases h; cases hc
    · next h => cases h; cases hc
    · rfl

theorem readExponent_append (hr : Ends r) (e : Option Exponent) :
    readExponent (exponentChars e ++ r) = some (exponentChars e, r) := by
  cases e with
  | none => exact readExponent_of_ends hr
  | some e =>
    have hmark : (e.mark == 'e' || e.mark == 'E') = true := by
      rcases e.mark_eq with h | h <;> rw [h] <;> rfl
    simp only [exponentChars, Exponent.chars, List.cons_append, List.append_assoc, readExponent,
      hmark, if_true, exponentSign_append, e.digits.takeWhile_append hr.digits,
      e.digits.dropWhile_append hr.digits]
    split
    · next h => exact absurd h e.digits.ne_nil
    · rfl

theorem readUnsigned_append (n : Numeral) (hr : Ends r) :
    readUnsigned n.negative (n.whole.chars ++ (n.tail ++ r)) = some (n.value, r) := by
  rw [Numeral.tail, List.append_assoc]
  simp only [readUnsigned, n.whole.readWhole_append n.eq_zero (endsDigits_tail hr _ _),
    readFraction_append (head?_exponentChars hr _), readExponent_append hr, Option.bind_eq_bind,
    Option.bind_some]
  rfl

theorem head?_whole (n : Numeral) (r : List Char) : (n.whole.chars ++ r).head? ≠ some '-' := by
  obtain ⟨c, cs, hcs⟩ := List.exists_cons_of_ne_nil n.whole.ne_nil
  have hc := n.whole.digit c (hcs ▸ List.mem_cons_self)
  rw [hcs]
  rintro ⟨⟩
  cases hc

theorem readNumber_append (n : Numeral) (hr : Ends r) :
    readNumber (n.chars ++ r) = some (n.value, r) := by
  rw [← readUnsigned_append n hr, Numeral.chars, List.append_assoc, List.append_assoc]
  cases n.negative with
  | false => exact readNumber_of_ne (head?_whole n _)
  | true => rfl

end

/-! What the readers of a number take is a number as it is written. -/

section

variable {cs r ds : List Char}

theorem exists_digits (h : cs.takeWhile Char.isDigit ≠ []) :
    ∃ d : Digits, d.chars = cs.takeWhile Char.isDigit :=
  ⟨⟨_, h, fun _ => List.mem_takeWhile_imp⟩, rfl⟩

theorem exists_whole (h : readWhole cs = some (ds, r)) :
    cs = ds ++ r ∧ ∃ d : Digits, d.chars = ds ∧ (d.chars.head? = some '0' → d.chars = ['0']) := by
  have hcs := List.takeWhile_append_dropWhile (p := Char.isDigit) (l := cs)
  rw [readWhole] at h
  split at h
  · cases h
  · next hzero =>
    obtain ⟨rfl, rfl⟩ := Prod.mk.inj (Option.some.inj h)
    have hne : cs.takeWhile Char.isDigit ≠ [] := hzero ▸ List.cons_ne_nil _ _
    obtain ⟨d, hd⟩ := exists_digits hne
    exact ⟨by rw [← hzero, hcs], d, by rw [hd, hzero], fun _ => by rw [hd, hzero]⟩
  · cases h
  · next hnil _ hhead =>
    obtain ⟨rfl, rfl⟩ := Prod.mk.inj (Option.some.inj h)
    obtain ⟨d, hd⟩ := exists_digits hnil
    refine ⟨hcs.symm, d, hd, fun h => ?_⟩
    obtain ⟨ds, hds⟩ := List.head?_eq_some_iff.1 h
    exact absurd (hd ▸ hds) (hhead ds)

theorem exists_fraction (h : readFraction cs = some (ds, r)) :
    cs = ds ++ r ∧ ∃ f, fractionChars f = ds := by
  rw [readFraction.eq_def] at h
  split at h
  · next cs =>
    split at h
    · cases h
    · next hnil =>
      obtain ⟨rfl, rfl⟩ := Prod.mk.inj (Option.some.inj h)
      obtain ⟨d, hd⟩ := exists_digits hnil
      refine ⟨?_, some d, by rw [fractionChars, hd]⟩
      rw [List.cons_append, List.takeWhile_append_dropWhile]
  · obtain ⟨rfl, rfl⟩ := Prod.mk.inj (Option.some.inj h)
    exact ⟨rfl, none, rfl⟩

theorem exponentSign_eq (cs : List Char) :
    cs = (exponentSign cs).1 ++ (exponentSign cs).2 ∧
      ((exponentSign cs).1 = ['+'] ∨ (exponentSign cs).1 = ['-'] ∨ (exponentSign cs).1 = []) := by
  rw [exponentSign.eq_def]
  split
  · exact ⟨rfl, .inl rfl⟩
  · exact ⟨rfl, .inr (.inl rfl)⟩
  · exact ⟨rfl, .inr (.inr rfl)⟩

theorem exists_exponent (h : readExponent cs = some (ds, r)) :
    cs = ds ++ r ∧ ∃ e, exponentChars e = ds := by
  cases cs with
  | nil =>
    obtain ⟨rfl, rfl⟩ := Prod.mk.inj (Option.some.inj h)
    exact ⟨rfl, none, rfl⟩
  | cons c cs =>
    rw [readExponent] at h
    split at h
    · next hmark =>
      obtain ⟨hcs, hsign⟩ := exponentSign_eq cs
      simp only at h
      split at h
      · cases h
      · next hnil =>
        obtain ⟨rfl, rfl⟩ := Prod.mk.inj (Option.some.inj h)
        obtain ⟨d, hd⟩ := exists_digits hnil
        have hmark : c = 'e' ∨ c = 'E' := by simpa using hmark
        refine ⟨?_, some ⟨c, _, d, hmark, hsign⟩, by rw [exponentChars, Exponent.chars, hd]⟩
        rw [List.cons_append, List.cons_append, List.append_assoc,
          List.takeWhile_append_dropWhile, ← hcs]
    · obtain ⟨rfl, rfl⟩ := Prod.mk.inj (Option.some.inj h)
      exact ⟨rfl, none, rfl⟩

theorem exists_unsigned {negative : Bool} {j : Json} (h : readUnsigned negative cs = some (j, r)) :
    ∃ n : Numeral, n.negative = negative ∧ cs = n.whole.chars ++ (n.tail ++ r) ∧ n.value = j := by
  simp only [readUnsigned, Option.bind_eq_bind, Option.bind_eq_some_iff, Option.pure_def,
    Option.some.injEq, Prod.mk.injEq] at h
  obtain ⟨⟨ds, cs₁⟩, hwhole, ⟨fs, cs₂⟩, hfraction, ⟨es, cs₃⟩, hexponent, rfl, rfl⟩ := h
  obtain ⟨rfl, d, rfl, hzero⟩ := exists_whole hwhole
  obtain ⟨rfl, f, rfl⟩ := exists_fraction hfraction
  obtain ⟨rfl, e, rfl⟩ := exists_exponent hexponent
  exact ⟨⟨negative, d, f, e, hzero⟩, rfl, by simp [Numeral.tail], rfl⟩

theorem exists_numeral {j : Json} (h : readNumber cs = some (j, r)) :
    ∃ n : Numeral, cs = n.chars ++ r ∧ n.value = j := by
  by_cases hminus : cs.head? = some '-'
  · obtain ⟨cs, rfl⟩ := List.head?_eq_some_iff.1 hminus
    rw [readNumber_minus] at h
    obtain ⟨n, hn, rfl, hvalue⟩ := exists_unsigned h
    exact ⟨n, by simp [Numeral.chars, hn], hvalue⟩
  · rw [readNumber_of_ne hminus] at h
    obtain ⟨n, hn, rfl, hvalue⟩ := exists_unsigned h
    exact ⟨n, by simp [Numeral.chars, hn], hvalue⟩

end

end Steading.Json
