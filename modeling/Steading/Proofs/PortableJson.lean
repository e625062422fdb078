import Steading.Proofs.JsonSyntax
import Steading.Yaml.Scalar

/-!
# JSON texts that mean the same in YAML

Not every text of JSON is one of YAML: some characters are not allowed there, an escape cannot spell
half of a surrogate pair, the colon has to stand close behind its name, and a tab may not begin a
line outside of the root. `Json.Document.portable` leaves these texts out, and those with a wide
line break in a string, which is read as a break. In what is left every string spells one character
by each of its elements.
-/

namespace Steading.Json

open Yaml (isAllowed isBlank isBreak)

/-! ## What is left out -/

/-- No character that ends a line. -/
def Mark.unbroken : Mark → Bool
  | .plain c _ => !isBreak c
  | .short _ _ _ | .unicode _ _ _ _ => true

/-- A character that may stand for itself, or an escape. -/
def Mark.legible : Mark → Bool
  | .plain c _ => isAllowed c && !isBreak c
  | .short _ _ _ | .unicode _ _ _ _ => true

/-- An escape of half of a surrogate pair. -/
def Mark.isHalf : Mark → Bool
  | .unicode a b c d => 0xD800 ≤ unit a b c d && unit a b c d < 0xE000
  | .plain _ _ | .short _ _ _ => false

def Mark.portable (m : Mark) : Bool :=
  m.legible && !m.isHalf

/-- The colon stands on the line of its name, not too far from where the name starts. -/
def Name.isNear (n : Name) : Bool :=
  n.after.chars.all isBlank && (literal n.marks).length + n.after.chars.length ≤ 1024

mutual

/-- Whether the elements of all strings are of a kind. -/
def Source.all (p : Mark → Bool) : Source → Bool
  | .string ms => ms.all p
  | .array is => is.all p
  | .object ms => ms.all p
  | .null | .bool _ | .number _ | .emptyArray _ | .emptyObject _ => true

def Items.all (p : Mark → Bool) : Items → Bool
  | .last _ i _ => i.all p
  | .more _ i _ is => i.all p && is.all p

def Members.all (p : Mark → Bool) : Members → Bool
  | .last n _ v _ => n.marks.all p && v.all p
  | .more n _ v _ ms => n.marks.all p && (v.all p && ms.all p)

end

mutual

/-- Whether every colon stands close enough behind its name. -/
def Source.isNear : Source → Bool
  | .array is => is.isNear
  | .object ms => ms.isNear
  | .null | .bool _ | .number _ | .string _ | .emptyArray _ | .emptyObject _ => true

def Items.isNear : Items → Bool
  | .last _ i _ => i.isNear
  | .more _ i _ is => i.isNear && is.isNear

def Members.isNear : Members → Bool
  | .last n _ v _ => n.isNear && v.isNear
  | .more n _ v _ ms => n.isNear && (v.isNear && ms.isNear)

end

namespace Document

/-- No string holds a character that ends a line. -/
def unbroken (d : Document) : Bool :=
  d.root.all Mark.unbroken

/-- Outside of the root, tabs only stand between the root and the end of its line. -/
def untabbed (d : Document) : Bool :=
  !d.before.chars.contains '\t' && !(d.after.chars.dropWhile isBlank).contains '\t'

def portable (d : Document) : Bool :=
  d.root.all Mark.portable && (d.root.isNear && d.untabbed)

end Document

theorem Mark.legible_of_portable {m : Mark} (h : m.portable = true) : m.legible = true :=
  (Bool.and_eq_true_iff.1 h).1

section

variable {p q : Mark → Bool}

theorem all_mono (hpq : ∀ {m}, p m = true → q m = true) {ms : List Mark} (h : ms.all p = true) :
    ms.all q = true :=
  List.all_eq_true.2 fun m hm => hpq (List.all_eq_true.1 h m hm)

mutual

theorem Source.all_mono (hpq : ∀ {m}, p m = true → q m = true) :
    ∀ {s : Source}, s.all p = true → s.all q = true
  | .null, _ | .bool _, _ | .number _, _ | .emptyArray _, _ | .emptyObject _, _ => rfl
  | .string _, h => Json.all_mono hpq h
  | .array is, h => is.all_mono hpq h
  | .object ms, h => ms.all_mono hpq h

theorem Items.all_mono (hpq : ∀ {m}, p m = true → q m = true) :
    ∀ {is : Items}, is.all p = true → is.all q = true
  | .last _ i _, h => i.all_mono hpq h
  | .more _ i _ is, h => by
    rw [Items.all, Bool.and_eq_true] at h ⊢
    exact ⟨i.all_mono hpq h.1, is.all_mono hpq h.2⟩

theorem Members.all_mono (hpq : ∀ {m}, p m = true → q m = true) :
    ∀ {ms : Members}, ms.all p = true → ms.all q = true
  | .last n _ v _, h => by
    rw [Members.all, Bool.and_eq_true] at h ⊢
    exact ⟨Json.all_mono hpq h.1, v.all_mono hpq h.2⟩
  | .more n _ v _ ms, h => by
    rw [Members.all, Bool.and_eq_true, Bool.and_eq_true] at h ⊢
    exact ⟨Json.all_mono hpq h.1, v.all_mono hpq h.2.1, ms.all_mono hpq h.2.2⟩

end

end

/-! ## What a portable string says -/

/-- The character of an element that is no half of a pair. -/
def Mark.char : Mark → Char
  | .plain c _ => c
  | .short _ x _ => x
  | .unicode a b c d => Char.ofNat (unit a b c d)

def spelled (ms : List Mark) : String :=
  String.ofList (ms.map Mark.char)

theorem Mark.piece_eq {m : Mark} (h : m.portable = true) : m.piece = .char m.char := by
  cases m with
  | plain c _ => rfl
  | short _ x _ => rfl
  | unicode a b c d =>
    have hunit : ¬ (0xD800 ≤ unit a b c d ∧ unit a b c d < 0xE000) := by
      simp [portable, legible, isHalf] at h
      omega
    simp [piece, pieceOfUnit, hunit, char]

theorem literalText_eq {ms : List Mark} (h : ms.all Mark.portable = true) :
    literalText ms = some (spelled ms) := by
  have hpieces : ms.map Mark.piece = (ms.map Mark.char).map .char := by
    rw [List.map_map]
    exact List.map_congr_left fun m hm => m.piece_eq (List.all_eq_true.1 h m hm)
  rw [literalText, hpieces, joinPieces_char]
  rfl

/-! ## The characters of a portable document -/

theorem Space.allowed (s : Space) : s.chars.all isAllowed = true :=
  List.all_eq_true.2 fun c hc => by
    have hspace := s.blank c hc
    simp only [isSpace, Bool.or_eq_true, beq_iff_eq] at hspace
    rcases hspace with ((rfl | rfl) | rfl) | rfl <;> rfl

theorem isAllowed_of_between {c low high : Char} (hc : low ≤ c ∧ c ≤ high)
    (hlow : 0x20 ≤ low.toNat) (hhigh : high.toNat ≤ 0x7E) : isAllowed c = true := by
  have h₁ : low.toNat ≤ c.toNat := hc.1
  have h₂ : c.toNat ≤ high.toNat := hc.2
  have hrange : 0x20 ≤ c.toNat ∧ c.toNat ≤ 0x7E := by omega
  simp [isAllowed, hrange]

theorem isAllowed_of_digit {c : Char} (h : c.isDigit = true) : isAllowed c = true := by
  have hc : '0' ≤ c ∧ c ≤ '9' := by
    simpa [Char.isDigit, Char.le_def] using h
  exact isAllowed_of_between hc (by decide) (by decide)

theorem HexDigit.allowed (d : HexDigit) : isAllowed d.char = true := by
  have h := d.eq
  unfold hexValue? at h
  simp only [Bool.and_eq_true, decide_eq_true_eq] at h
  split_ifs at h with h₁ h₂ h₃
  · exact isAllowed_of_between h₁ (by decide) (by decide)
  · exact isAllowed_of_between h₂ (by decide) (by decide)
  · exact isAllowed_of_between h₃ (by decide) (by decide)

theorem isAllowed_of_short {c x : Char} (h : shortEscape? c = some x) : isAllowed c = true := by
  unfold shortEscape? at h
  split at h <;> first | rfl | cases h

theorem Mark.allowed_eq {m : Mark} (h : m.unbroken = true) :
    m.chars.all isAllowed = m.legible := by
  cases m with
  | plain c _ =>
    rw [unbroken] at h
    simp [chars, legible, h]
  | short c x hx =>
    simp [chars, legible, isAllowed_of_short hx, show isAllowed '\\' = true from rfl]
  | unicode a b c d =>
    simp [chars, legible, a.allowed, b.allowed, c.allowed, d.allowed,
      show isAllowed '\\' = true from rfl, show isAllowed 'u' = true from rfl]

theorem marks_allowed_eq : ∀ {ms : List Mark}, ms.all Mark.unbroken = true →
    (ms.flatMap Mark.chars).all isAllowed = ms.all Mark.legible
  | [], _ => rfl
  | m :: ms, h => by
    rw [List.all_cons, Bool.and_eq_true] at h
    rw [List.flatMap_cons, List.all_append, m.allowed_eq h.1, marks_allowed_eq h.2, List.all_cons]

theorem literal_allowed_eq {ms : List Mark} (h : ms.all Mark.unbroken = true) :
    (literal ms).all isAllowed = ms.all Mark.legible := by
  simp [literal, ← marks_allowed_eq h, show isAllowed '"' = true from rfl]

theorem Digits.allowed (d : Digits) : d.chars.all isAllowed = true :=
  List.all_eq_true.2 fun c hc => isAllowed_of_digit (d.digit c hc)

theorem Exponent.allowed (e : Exponent) : e.chars.all isAllowed = true := by
  have hmark : isAllowed e.mark = true := by
    rcases e.mark_eq with h | h <;> rw [h] <;> rfl
  have hsign : e.sign.all isAllowed = true := by
    rcases e.sign_eq with h | h | h <;> rw [h] <;> rfl
  simp [chars, hmark, hsign, e.digits.allowed]

theorem Numeral.allowed (n : Numeral) : n.chars.all isAllowed = true := by
  have hsign : (if n.negative then ['-'] else []).all isAllowed = true := by
    cases n.negative <;> rfl
  have hfraction : (fractionChars n.fraction).all isAllowed = true := by
    cases n.fraction with
    | none => rfl
    | some d => rw [fractionChars, List.all_cons, d.allowed]; rfl
  have hexponent : (exponentChars n.exponent).all isAllowed = true := by
    cases n.exponent with
    | none => rfl
    | some e => exact e.allowed
  simp only [chars, tail, List.all_append, hsign, n.whole.allowed, hfraction, hexponent]
  rfl

mutual

/-- Where no string holds a break, a tree is legible if all of its characters are allowed. -/
theorem Source.allowed_eq : ∀ {s : Source}, s.all Mark.unbroken = true →
    s.chars.all isAllowed = s.all Mark.legible
  | .null, _ | .bool true, _ | .bool false, _ => rfl
  | .number n, _ => n.allowed
  | .string ms, h => literal_allowed_eq h
  | .emptyArray s, _ | .emptyObject s, _ => by
    simp only [Source.chars, List.all_cons, List.all_append, s.allowed]
    rfl
  | .array is, h => by
    simp only [Source.chars, List.all_cons, is.allowed_eq h]
    rfl
  | .object ms, h => by
    simp only [Source.chars, List.all_cons, ms.allowed_eq h]
    rfl

theorem Items.allowed_eq : ∀ {is : Items}, is.all Mark.unbroken = true →
    is.chars.all isAllowed = is.all Mark.legible
  | .last b i a, h => by
    simp only [Items.chars, List.all_append, b.allowed, i.allowed_eq h, a.allowed, Bool.true_and]
    exact Bool.and_true _
  | .more b i a is, h => by
    simp only [Items.all, Bool.and_eq_true] at h
    simp only [Items.chars, List.all_cons, List.all_append, b.allowed, i.allowed_eq h.1, a.allowed,
      is.allowed_eq h.2, Bool.true_and]
    rfl

theorem Members.allowed_eq : ∀ {ms : Members}, ms.all Mark.unbroken = true →
    ms.chars.all isAllowed = ms.all Mark.legible
  | .last n b v a, h => by
    simp only [Members.all, Bool.and_eq_true] at h
    simp only [Members.chars, Name.chars, List.all_cons, List.all_append, n.before.allowed,
      literal_allowed_eq h.1, n.after.allowed, b.allowed, v.allowed_eq h.2, a.allowed,
      Bool.true_and, Bool.and_true]
    exact congrArg (_ && ·) (Bool.and_true _)
  | .more n b v a ms, h => by
    simp only [Members.all, Bool.and_eq_true] at h
    simp only [Members.chars, Name.chars, List.all_cons, List.all_append, n.before.allowed,
      literal_allowed_eq h.1, n.after.allowed, b.allowed, v.allowed_eq h.2.1, a.allowed,
      ms.allowed_eq h.2.2, Bool.true_and, Bool.and_true]
    rfl

end

theorem Document.allowed_eq {d : Document} (h : d.unbroken = true) :
    d.text.toList.all isAllowed = d.root.all Mark.legible := by
  simp [text, chars, List.all_append, d.before.allowed, d.root.allowed_eq h, d.after.allowed]

end Steading.Json
