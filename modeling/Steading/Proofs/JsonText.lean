import Mathlib.Data.List.Basic
import Mathlib.Tactic.SplitIfs
import Steading.Json.Decode
import Steading.Json.Reader
import Steading.Json.Writer

/-!
# Reading what was written

A value that holds texts, and numbers that are kept as integers, is read from its compact text as it
was (`Json.parse_compact`). What may come behind a value in a text, a comma or a closing bracket,
does not belong to any value, so each reader stops where the writer did.
-/

namespace Steading.Json

/-! ## Numbers -/

/-- What is left of a text cannot go on with a number. -/
def Ends (r : List Char) : Prop :=
  ∀ c ∈ r.head?, c.isDigit = false ∧ c ≠ '.' ∧ c ≠ 'e' ∧ c ≠ 'E'

theorem head?_toDigits {n : Nat} (h : n ≠ 0) : (Nat.toDigits 10 n).head? ≠ some '0' := by
  induction n using Nat.strongRecOn with
  | ind n ih =>
    rw [Nat.toDigits_eq_if (by decide)]
    split_ifs with hn
    · have hdigit : ∀ n < 10, n ≠ 0 → n.digitChar ≠ '0' := by decide
      simpa using hdigit n hn h
    · rw [List.head?_append_of_ne_nil _ Nat.toDigits_ne_nil]
      exact ih (n / 10) (by omega) (by omega)

theorem exists_head?_toDigits (n : Nat) :
    ∃ c, (Nat.toDigits 10 n).head? = some c ∧ c.isDigit = true := by
  obtain ⟨c, cs, h⟩ := List.exists_cons_of_ne_nil (Nat.toDigits_ne_nil (n := n) (b := 10))
  have hc : c ∈ Nat.toDigits 10 n := h ▸ List.mem_cons_self
  exact ⟨c, by rw [h]; rfl, Nat.isDigit_of_mem_toDigits (by decide) (by decide) hc⟩

theorem digitsValue_toDigits (n : Nat) : digitsValue (Nat.toDigits 10 n) = n := by
  have h : digitsValue (Nat.toDigits 10 n) = Nat.ofDigitChars 10 (Nat.toDigits 10 n) 0 := by
    simp only [digitsValue, Nat.ofDigitChars, Nat.mul_comm]
  rw [h, Nat.ofDigitChars_ten_toDigits]

theorem span_toDigits (n : Nat) {r : List Char} (hr : Ends r) :
    (Nat.toDigits 10 n ++ r).takeWhile Char.isDigit = Nat.toDigits 10 n ∧
      (Nat.toDigits 10 n ++ r).dropWhile Char.isDigit = r := by
  have hdigits : ∀ c ∈ Nat.toDigits 10 n, c.isDigit = true := fun c hc =>
    Nat.isDigit_of_mem_toDigits (by decide) (by decide) hc
  rw [List.takeWhile_append_of_pos hdigits, List.dropWhile_append_of_pos hdigits]
  cases r with
  | nil => simp
  | cons c r =>
    have hc := (hr c rfl).1
    simp [hc]

theorem readWhole_toDigits (n : Nat) {r : List Char} (hr : Ends r) :
    readWhole (Nat.toDigits 10 n ++ r) = some (Nat.toDigits 10 n, r) := by
  obtain ⟨htake, hdrop⟩ := span_toDigits n hr
  rw [readWhole, htake, hdrop]
  by_cases hn : n = 0
  · subst hn
    rfl
  · have hhead := head?_toDigits hn
    split
    · next h => exact absurd h Nat.toDigits_ne_nil
    · next h => rw [h] at hhead; simp at hhead
    · next h => rw [h] at hhead; simp at hhead
    · rfl

theorem readFraction_of_ends {r : List Char} (hr : Ends r) : readFraction r = some ([], r) := by
  rw [readFraction.eq_def]
  split
  · next cs => exact absurd rfl (hr '.' rfl).2.1
  · rfl

theorem readExponent_of_ends {r : List Char} (hr : Ends r) : readExponent r = some ([], r) := by
  cases r with
  | nil => rfl
  | cons c r =>
    obtain ⟨-, -, he, hE⟩ := hr c rfl
    simp [readExponent, he, hE]

/-- A number behind its sign. -/
def readUnsigned (negative : Bool) (cs : List Char) : Option (Json × List Char) := do
  let (whole, cs) ← readWhole cs
  let (fraction, cs) ← readFraction cs
  let (exponent, cs) ← readExponent cs
  return (ofLiteral negative whole (fraction ++ exponent), cs)

theorem readNumber_minus (cs : List Char) : readNumber ('-' :: cs) = readUnsigned true cs :=
  rfl

theorem readNumber_of_ne {cs : List Char} (h : cs.head? ≠ some '-') :
    readNumber cs = readUnsigned false cs := by
  unfold readNumber
  split
  next negative cs' hsign =>
    split at hsign
    · exact (h rfl).elim
    · obtain ⟨rfl, rfl⟩ := Prod.mk.inj hsign
      rfl

theorem readUnsigned_toDigits (negative : Bool) (n : Nat) {r : List Char} (hr : Ends r) :
    readUnsigned negative (Nat.toDigits 10 n ++ r) =
      some (ofLiteral negative (Nat.toDigits 10 n) [], r) := by
  simp [readUnsigned, readWhole_toDigits n hr, readFraction_of_ends hr, readExponent_of_ends hr]

theorem writeInt_ofNat (n : Nat) : writeInt (.ofNat n) = Nat.toDigits 10 n := by
  rw [writeInt, show toString (Int.ofNat n) = n.repr from rfl, Nat.repr_eq_ofList_toDigits,
    String.toList_ofList]

theorem writeInt_negSucc (n : Nat) : writeInt (.negSucc n) = '-' :: Nat.toDigits 10 (n + 1) := by
  rw [writeInt, show toString (Int.negSucc n) = "-" ++ (n + 1).repr from rfl,
    Nat.repr_eq_ofList_toDigits, String.toList_append]
  exact congrArg ('-' :: ·) (String.toList_ofList)

theorem readNumber_writeInt {n : Int} (hn : intRange n = true) {r : List Char} (hr : Ends r) :
    readNumber (writeInt n ++ r) = some (.int n, r) := by
  cases n with
  | ofNat n =>
    have hvalue : ofLiteral false (Nat.toDigits 10 n) [] = .int n := by
      simp [ofLiteral, digitsValue_toDigits, show intRange (n : Int) = true from hn]
    have hminus : (Nat.toDigits 10 n ++ r).head? ≠ some '-' := by
      obtain ⟨c, hc, hdigit⟩ := exists_head?_toDigits n
      rw [List.head?_append, hc, Option.some_or]
      rintro ⟨⟩
      cases hdigit
    rw [writeInt_ofNat, readNumber_of_ne hminus, readUnsigned_toDigits _ _ hr, hvalue]
    rfl
  | negSucc n =>
    have hvalue : ofLiteral true (Nat.toDigits 10 (n + 1)) [] = .int (.negSucc n) := by
      have hvalue : -((n + 1 : Nat) : Int) = .negSucc n := rfl
      simp only [ofLiteral, digitsValue_toDigits, ↓reduceIte, hvalue, hn]
      rfl
    rw [writeInt_negSucc, List.cons_append, readNumber_minus, readUnsigned_toDigits _ _ hr, hvalue]

/-! ## Texts -/

theorem hexValue?_digitChar : ∀ n < 0x10, hexValue? n.digitChar = some n := by
  decide

theorem pieceOfUnit_toNat {c : Char} (hc : c.toNat < 0x20) : pieceOfUnit c.toNat = .char c := by
  have hhalf : ¬ (0xD800 ≤ c.toNat ∧ c.toNat < 0xE000) := by omega
  simp [pieceOfUnit, hhalf]

/-- A character by its code, if the code has at most two digits. -/
theorem readPieces_unicode {a b : Char} {x y : Nat} (ha : hexValue? a = some x)
    (hb : hexValue? b = some y) (r : List Char) :
    readPieces ('\\' :: 'u' :: '0' :: '0' :: a :: b :: r) =
      (readPieces r).map fun p => (pieceOfUnit (x * 16 + y) :: p.1, p.2) := by
  have hzero : hexValue? '0' = some 0 := rfl
  simp only [readPieces, ha, hb, hzero, Option.bind_eq_bind, Option.bind_some, Option.pure_def]
  cases readPieces r <;> simp

theorem readPieces_short {c x : Char} (hc : shortEscape? c = some x) (r : List Char) :
    readPieces ('\\' :: c :: r) = (readPieces r).map fun p => (.char x :: p.1, p.2) := by
  have hu : c ≠ 'u' := by
    rintro rfl
    cases hc
  rw [readPieces]
  · simp only [hc, Option.bind_eq_bind, Option.bind_some, Option.pure_def]
    cases readPieces r <;> simp
  · exact fun _ _ _ _ _ h => absurd h hu

theorem readPieces_plain {c : Char} (hquote : c ≠ '"') (hslash : c ≠ '\\') (hc : 0x20 ≤ c.toNat)
    (r : List Char) :
    readPieces (c :: r) = (readPieces r).map fun p => (.char c :: p.1, p.2) := by
  rw [readPieces]
  · simp only [Option.bind_eq_bind, Option.pure_def]
    cases readPieces r <;> simp [hslash, hc]
  · exact hquote
  · exact fun _ _ _ _ _ h => absurd h hslash
  · exact fun _ _ h => absurd h hslash

theorem readPieces_escapeChar (c : Char) (r : List Char) :
    readPieces (escapeChar c ++ r) = (readPieces r).map fun p => (.char c :: p.1, p.2) := by
  rw [escapeChar.eq_def]
  split
  · exact readPieces_short rfl r
  · exact readPieces_short rfl r
  · exact readPieces_short rfl r
  · exact readPieces_short rfl r
  · exact readPieces_short rfl r
  · exact readPieces_short rfl r
  · exact readPieces_short rfl r
  · next hquote hslash _ _ _ _ _ =>
    split_ifs with h₁ h₂
    · rw [Nat.toDigits_of_lt_base h₁]
      refine (readPieces_unicode (x := 0) rfl (hexValue?_digitChar _ h₁) r).trans ?_
      rw [Nat.zero_mul, Nat.zero_add, pieceOfUnit_toNat (by omega)]
    · obtain ⟨d, hd⟩ := Nat.exists_eq_add_of_le (Nat.le_of_not_lt h₁)
      rw [hd, ← Nat.toDigits_append_toDigits (b := 16) (n := 1) (by decide) (by decide) (by omega),
        Nat.toDigits_of_lt_base (n := d) (by omega)]
      refine (readPieces_unicode (x := 1) rfl (hexValue?_digitChar d (by omega)) r).trans ?_
      rw [Nat.one_mul, ← hd, pieceOfUnit_toNat h₂]
    · exact readPieces_plain hquote hslash (by omega) r

theorem joinPieces_char : ∀ cs : List Char, joinPieces (cs.map .char) = some cs
  | [] => rfl
  | c :: cs => by rw [List.map_cons, joinPieces, joinPieces_char cs, Option.map_some]

theorem readPieces_escaped (r : List Char) : ∀ cs : List Char,
    readPieces (cs.flatMap escapeChar ++ '"' :: r) = some (cs.map .char, r)
  | [] => by rw [List.flatMap_nil, List.nil_append, readPieces]; rfl
  | c :: cs => by
    rw [List.flatMap_cons, List.append_assoc, readPieces_escapeChar, readPieces_escaped r cs]
    rfl

theorem readText_escaped (s : String) (r : List Char) :
    readText (s.toList.flatMap escapeChar ++ '"' :: r) = some (some s, r) := by
  rw [readText, readPieces_escaped]
  simp [joinPieces_char]

/-! ## Values -/

mutual

/-- Only texts, and numbers that are kept as integers. -/
def Plain : Json → Prop
  | .int n => intRange n = true
  | .real _ | .unreadable => False
  | .arr js => PlainItems js
  | .obj ms => PlainMembers ms
  | .null | .bool _ | .str _ => True

def PlainItems : List Json → Prop
  | [] => True
  | j :: js => Plain j ∧ PlainItems js

def PlainMembers : List (String × Json) → Prop
  | [] => True
  | m :: ms => PlainMember m ∧ PlainMembers ms

def PlainMember : String × Json → Prop
  | (_, j) => Plain j

end

@[simp]
theorem plain_uint16 (n : UInt16) : Plain (uint16 n) := by
  have hn := n.toNat_lt
  simp only [uint16, Plain, intRange, Bool.and_eq_true, decide_eq_true_eq]
  omega

@[simp]
theorem plain_uint32 (n : UInt32) : Plain (uint32 n) := by
  have hn := n.toNat_lt
  simp only [uint32, Plain, intRange, Bool.and_eq_true, decide_eq_true_eq]
  omega

@[simp]
theorem plain_int64 (n : Int64) : Plain (int64 n) := by
  have hlow := n.le_toInt
  have hhigh := n.toInt_lt
  simp only [int64, Plain, intRange, Bool.and_eq_true, decide_eq_true_eq]
  omega

theorem plainItems_map {α : Type} {f : α → Json} (h : ∀ a, Plain (f a)) :
    ∀ as : List α, PlainItems (as.map f)
  | [] => trivial
  | a :: as => ⟨h a, plainItems_map h as⟩

/-- What a written number begins with. -/
theorem head?_writeInt (n : Int) :
    ∃ c, (writeInt n).head? = some c ∧ (c = '-' ∨ c.isDigit = true) := by
  cases n with
  | ofNat n =>
    obtain ⟨c, hc, hdigit⟩ := exists_head?_toDigits n
    exact ⟨c, by rw [writeInt_ofNat, hc], .inr hdigit⟩
  | negSucc n =>
    rw [writeInt_negSucc]
    exact ⟨'-', rfl, .inl rfl⟩

theorem skipSpace_of_head? {cs : List Char} {c : Char} (h : cs.head? = some c)
    (hc : isSpace c = false) : skipSpace cs = cs := by
  cases cs with
  | nil => rfl
  | cons c' cs =>
    obtain rfl := Option.some.inj h
    rw [skipSpace, List.dropWhile_cons_of_neg (by simp [hc])]

/-- A written value begins with no blank and with no bracket that closes. -/
theorem head?_write : ∀ {j : Json}, Plain j →
    ∃ c, (write j).head? = some c ∧ isSpace c = false ∧ c ≠ ']'
  | .null, _ => ⟨'n', rfl, by decide, by decide⟩
  | .bool true, _ => ⟨'t', rfl, by decide, by decide⟩
  | .bool false, _ => ⟨'f', rfl, by decide, by decide⟩
  | .int n, _ => by
    obtain ⟨c, hc, hnumber⟩ := head?_writeInt n
    refine ⟨c, hc, ?_⟩
    rcases hnumber with rfl | hdigit
    · decide
    · have hne : ∀ x, x.isDigit = false → c ≠ x := fun x hx h => by
        rw [h, hx] at hdigit
        cases hdigit
      exact ⟨by simp [isSpace, hne], hne _ rfl⟩
  | .str s, _ => ⟨'"', rfl, by decide, by decide⟩
  | .arr [], _ | .arr (_ :: _), _ => ⟨'[', rfl, by decide, by decide⟩
  | .obj [], _ | .obj (_ :: _), _ => ⟨'\x7b', rfl, by decide, by decide⟩

/-- A value that begins like a number is one. -/
theorem readValue_number {cs : List Char} {c : Char} (h : cs.head? = some c)
    (hc : c = '-' ∨ c.isDigit = true) (fuel : Nat) : readValue (fuel + 1) cs = readNumber cs := by
  have hne : ∀ x, x ≠ '-' → x.isDigit = false → c ≠ x := fun x hminus hx hcx => by
    rcases hc with rfl | hdigit
    · exact hminus hcx.symm
    · rw [hcx, hx] at hdigit
      cases hdigit
  have hspace : isSpace c = false := by
    simp [isSpace, hne]
  rw [readValue, skipSpace_of_head? h hspace]
  split
  · exact absurd (Option.some.inj h).symm (hne 'n' (by decide) rfl)
  · exact absurd (Option.some.inj h).symm (hne 't' (by decide) rfl)
  · exact absurd (Option.some.inj h).symm (hne 'f' (by decide) rfl)
  · exact absurd (Option.some.inj h).symm (hne '"' (by decide) rfl)
  · exact absurd (Option.some.inj h).symm (hne '[' (by decide) rfl)
  · exact absurd (Option.some.inj h).symm (hne '\x7b' (by decide) rfl)
  · rfl

theorem skipSpace_cons {c : Char} (hc : isSpace c = false) (cs : List Char) :
    skipSpace (c :: cs) = c :: cs :=
  skipSpace_of_head? rfl hc

theorem writeText_append (s : String) (r : List Char) :
    writeText s ++ r = '"' :: (s.toList.flatMap escapeChar ++ '"' :: r) := by
  simp [writeText]

theorem readValue_str (s : String) (fuel : Nat) (r : List Char) :
    readValue (fuel + 1) (writeText s ++ r) = some (.str s, r) := by
  have hread : ∀ cs, readValue (fuel + 1) ('"' :: cs) =
      (readText cs).bind fun p => some (p.1.elim .unreadable .str, p.2) := fun _ => rfl
  rw [writeText_append, hread, readText_escaped]
  rfl

/-- An array that does not close at once has items. -/
theorem readValue_items {cs : List Char} {c : Char} (h : cs.head? = some c)
    (hspace : isSpace c = false) (hc : c ≠ ']') (fuel : Nat) :
    readValue (fuel + 1) ('[' :: cs) =
      (readItems fuel cs).bind fun p => some (.arr p.1, p.2) := by
  rw [readValue, skipSpace_cons (by decide)]
  simp only [skipSpace_of_head? h hspace]
  split
  · exact absurd (Option.some.inj h).symm hc
  · rfl

/-- An object that does not close at once has members. -/
theorem readValue_members (cs : List Char) (fuel : Nat) :
    readValue (fuel + 1) ('\x7b' :: '"' :: cs) =
      (readMembers fuel ('"' :: cs)).bind fun p => some (ofMembers p.1, p.2) :=
  rfl

theorem ofMembers_named (ms : List (String × Json)) :
    ofMembers (ms.map fun m => (some m.1, m.2)) = .obj ms := by
  have hnames : ∀ ms : List (String × Json),
      (ms.map fun m => (some m.1, m.2)).mapM (fun m => m.1.map fun name => (name, m.2)) = some ms := by
    intro ms
    induction ms with
    | nil => rfl
    | cons m ms ih => rw [List.map_cons, List.mapM_cons, ih]; rfl
  rw [ofMembers, hnames]

section

variable {fuel : Nat} {cs r r' : List Char} {j : Json}

theorem readItems_last (h : readValue fuel cs = some (j, ']' :: r)) :
    readItems (fuel + 1) cs = some ([j], r) := by
  rw [readItems, h]
  rfl

theorem readItems_more {js : List Json} (h : readValue fuel cs = some (j, ',' :: r))
    (hrest : readItems fuel r = some (js, r')) : readItems (fuel + 1) cs = some (j :: js, r') := by
  have hmore : readItems (fuel + 1) cs =
      (readItems fuel r).bind fun p => some (j :: p.1, p.2) := by
    rw [readItems, h]
    rfl
  rw [hmore, hrest]
  rfl

variable {name : String}

theorem skipSpace_colon (cs : List Char) : skipSpace (':' :: cs) = ':' :: cs :=
  skipSpace_cons (by decide) cs

theorem readMembers_last (h : readValue fuel cs = some (j, '\x7d' :: r)) :
    readMembers (fuel + 1) (writeText name ++ ':' :: cs) = some ([(some name, j)], r) := by
  rw [writeText_append, readMembers, skipSpace_cons (by decide)]
  simp only [readText_escaped, Option.bind_eq_bind, Option.bind_some, skipSpace_colon, h]
  rfl

theorem readMembers_more {ms : List (Option String × Json)}
    (h : readValue fuel cs = some (j, ',' :: r)) (hrest : readMembers fuel r = some (ms, r')) :
    readMembers (fuel + 1) (writeText name ++ ':' :: cs) = some ((some name, j) :: ms, r') := by
  have hmore : readMembers (fuel + 1) (writeText name ++ ':' :: cs) =
      (readMembers fuel r).bind fun p => some ((some name, j) :: p.1, p.2) := by
    rw [writeText_append, readMembers, skipSpace_cons (by decide)]
    simp only [readText_escaped, Option.bind_eq_bind, Option.bind_some, skipSpace_colon, h]
    rfl
  rw [hmore, hrest]
  rfl

end

theorem ends_cons {c : Char} (hc : c = ',' ∨ c = ']' ∨ c = '\x7d') (r : List Char) :
    Ends (c :: r) := by
  intro c' hc'
  obtain rfl := Option.some.inj hc'
  rcases hc with rfl | rfl | rfl <;> decide

theorem length_write_pos {j : Json} (h : Plain j) : 0 < (write j).length := by
  obtain ⟨c, hc, -⟩ := head?_write h
  exact List.length_pos_of_mem (List.mem_of_mem_head? hc)

mutual

theorem readValue_write : ∀ (j : Json) (fuel : Nat) (r : List Char), Plain j →
    (write j).length ≤ fuel + 1 → Ends r → readValue (fuel + 1) (write j ++ r) = some (j, r)
  | .null, _, _, _, _, _ => rfl
  | .bool true, _, _, _, _, _ => rfl
  | .bool false, _, _, _, _, _ => rfl
  | .int n, fuel, r, h, _, hr => by
    obtain ⟨c, hc, hnumber⟩ := head?_writeInt n
    have hhead : (writeInt n ++ r).head? = some c := by rw [List.head?_append, hc, Option.some_or]
    rw [write, readValue_number hhead hnumber, readNumber_writeInt h hr]
  | .str s, fuel, r, _, _, _ => readValue_str s fuel r
  | .arr [], _, _, _, _, _ => rfl
  | .arr (j :: js), fuel, r, h, hfuel, hr => by
    obtain ⟨c, hc, hspace, hclose⟩ := head?_write h.1
    have hhead : (write j ++ writeItems js ++ r).head? = some c := by
      rw [List.append_assoc, List.head?_append, hc, Option.some_or]
    have hlength : (write j ++ writeItems js).length ≤ fuel := by
      simpa [write] using hfuel
    rw [write, List.cons_append, List.cons_append, readValue_items hhead hspace hclose,
      readItems_write j js fuel r h.1 h.2 hlength]
    rfl
  | .obj [], _, _, _, _, _ => rfl
  | .obj ((name, j) :: ms), fuel, r, h, hfuel, _ => by
    have hlength : (writeMember (name, j) ++ writeMembers ms).length ≤ fuel := by
      simpa [write] using hfuel
    have hread := readMembers_write (name, j) ms fuel r h.1 h.2 hlength
    obtain ⟨cs, hcs⟩ : ∃ cs, writeMember (name, j) ++ writeMembers ms ++ r = '"' :: cs := ⟨_, rfl⟩
    rw [hcs] at hread
    rw [write, List.cons_append, List.cons_append, hcs, readValue_members, hread, Option.bind_some,
      ofMembers_named]
  termination_by j => sizeOf j
  decreasing_by
    all_goals
      simp only [arr.sizeOf_spec, obj.sizeOf_spec, List.cons.sizeOf_spec]
      omega

theorem readItems_write : ∀ (j : Json) (js : List Json) (fuel : Nat) (r : List Char),
    Plain j → PlainItems js → (write j ++ writeItems js).length ≤ fuel →
      readItems fuel (write j ++ writeItems js ++ r) = some (j :: js, r)
  | j, [], fuel, r, hj, _, hfuel => by
    have hlength := length_write_pos hj
    simp only [writeItems, List.length_append, List.length_singleton] at hfuel
    obtain ⟨fuel, rfl⟩ : ∃ fuel', fuel = fuel' + 2 := ⟨fuel - 2, by omega⟩
    rw [writeItems, List.append_assoc]
    exact readItems_last (readValue_write j fuel _ hj (by omega) (ends_cons (.inr (.inl rfl)) r))
  | j, j' :: js, fuel, r, hj, hjs, hfuel => by
    have hlength := length_write_pos hj
    simp only [writeItems, List.length_append, List.length_cons] at hfuel
    obtain ⟨fuel, rfl⟩ : ∃ fuel', fuel = fuel' + 2 := ⟨fuel - 2, by omega⟩
    rw [writeItems, List.append_assoc, List.cons_append]
    refine readItems_more (readValue_write j fuel _ hj (by omega) (ends_cons (.inl rfl) _)) ?_
    exact readItems_write j' js _ r hjs.1 hjs.2 (by rw [List.length_append]; omega)
  termination_by j js => sizeOf j + sizeOf js
  decreasing_by
    all_goals
      simp only [List.cons.sizeOf_spec, List.nil.sizeOf_spec]
      omega

theorem readMembers_write : ∀ (m : String × Json) (ms : List (String × Json)) (fuel : Nat)
    (r : List Char), PlainMember m → PlainMembers ms →
      (writeMember m ++ writeMembers ms).length ≤ fuel →
        readMembers fuel (writeMember m ++ writeMembers ms ++ r) =
          some ((m :: ms).map fun m => (some m.1, m.2), r)
  | (name, j), [], fuel, r, hj, hms, hfuel => by
    have hlength := length_write_pos (j := j) hj
    simp only [writeMember, writeMembers, List.length_append, List.length_cons,
      List.length_nil] at hfuel
    obtain ⟨fuel, rfl⟩ : ∃ fuel', fuel = fuel' + 2 := ⟨fuel - 2, by omega⟩
    rw [writeMember, writeMembers, List.append_assoc, List.append_assoc, List.cons_append]
    exact readMembers_last
      (readValue_write j fuel _ hj (by omega) (ends_cons (.inr (.inr rfl)) r))
  | (name, j), m' :: ms, fuel, r, hj, hms, hfuel => by
    have hlength := length_write_pos (j := j) hj
    simp only [writeMember, writeMembers, List.length_append, List.length_cons] at hfuel
    obtain ⟨fuel, rfl⟩ : ∃ fuel', fuel = fuel' + 2 := ⟨fuel - 2, by omega⟩
    rw [writeMember, writeMembers, List.append_assoc, List.append_assoc, List.cons_append]
    refine readMembers_more (readValue_write j fuel _ hj (by omega) (ends_cons (.inl rfl) _)) ?_
    exact readMembers_write m' ms _ r hms.1 hms.2 (by rw [List.length_append]; omega)
  termination_by m ms => sizeOf m + sizeOf ms
  decreasing_by
    all_goals
      simp only [Prod.mk.sizeOf_spec, List.cons.sizeOf_spec, List.nil.sizeOf_spec]
      omega

end

theorem parse_compact {j : Json} (h : Plain j) : parse j.compact = some j := by
  have hread := readValue_write j (write j).length [] h (Nat.le_succ _) (fun _ hc => by cases hc)
  rw [List.append_nil] at hread
  rw [parse, compact, String.toList_ofList, parseChars, hread]
  rfl

end Steading.Json
