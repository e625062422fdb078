import Steading.Proofs.JsonLiterals

/-!
# JSON texts as trees

A text of JSON with everything that its value does not show: the blanks, how each character of a
string is spelled, and the digits of each number. The reader takes the text of a document for its
value (`Json.Document.parse_text`), and every text that it takes is the text of a document
(`Json.exists_document`).
-/

namespace Steading.Json

/-! ## Values -/

/-- A name with the blanks around it, up to the colon. -/
structure Name where
  before : Space
  marks : List Mark
  after : Space

def Name.chars (n : Name) : List Char :=
  n.before.chars ++ (literal n.marks ++ n.after.chars)

mutual

/-- A value as it is written. -/
inductive Source
  | null
  | bool (b : Bool)
  | number (n : Numeral)
  | string (marks : List Mark)
  | emptyArray (space : Space)
  | array (items : Items)
  | emptyObject (space : Space)
  | object (members : Members)

/-- The items of an array, each between its blanks. -/
inductive Items
  | last (before : Space) (item : Source) (after : Space)
  | more (before : Space) (item : Source) (after : Space) (items : Items)

/-- The members of an object, each value between its blanks. -/
inductive Members
  | last (name : Name) (before : Space) (value : Source) (after : Space)
  | more (name : Name) (before : Space) (value : Source) (after : Space) (members : Members)

end

mutual

def Source.chars : Source → List Char
  | .null => ['n', 'u', 'l', 'l']
  | .bool true => ['t', 'r', 'u', 'e']
  | .bool false => ['f', 'a', 'l', 's', 'e']
  | .number n => n.chars
  | .string ms => literal ms
  | .emptyArray s => '[' :: (s.chars ++ [']'])
  | .array is => '[' :: is.chars
  | .emptyObject s => '\x7b' :: (s.chars ++ ['\x7d'])
  | .object ms => '\x7b' :: ms.chars

/-- From behind the opening bracket to behind the closing one. -/
def Items.chars : Items → List Char
  | .last b i a => b.chars ++ (i.chars ++ (a.chars ++ [']']))
  | .more b i a is => b.chars ++ (i.chars ++ (a.chars ++ ',' :: is.chars))

/-- From behind the opening brace to behind the closing one. -/
def Members.chars : Members → List Char
  | .last n b v a => n.chars ++ ':' :: (b.chars ++ (v.chars ++ (a.chars ++ ['\x7d'])))
  | .more n b v a ms => n.chars ++ ':' :: (b.chars ++ (v.chars ++ (a.chars ++ ',' :: ms.chars)))

end

mutual

def Source.value : Source → Json
  | .null => .null
  | .bool b => .bool b
  | .number n => n.value
  | .string ms => (literalText ms).elim .unreadable .str
  | .emptyArray _ => .arr []
  | .array is => .arr is.values
  | .emptyObject _ => .obj []
  | .object ms => ofMembers ms.values

def Items.values : Items → List Json
  | .last _ i _ => [i.value]
  | .more _ i _ is => i.value :: is.values

def Members.values : Members → List (Option String × Json)
  | .last n _ v _ => [(literalText n.marks, v.value)]
  | .more n _ v _ ms => (literalText n.marks, v.value) :: ms.values

end

/-- A value with nothing but blanks around it. -/
structure Document where
  before : Space
  root : Source
  after : Space

namespace Document

def chars (d : Document) : List Char :=
  d.before.chars ++ (d.root.chars ++ d.after.chars)

def text (d : Document) : String :=
  String.ofList d.chars

def value (d : Document) : Json :=
  d.root.value

end Document

/-! ## The reader takes the text of a document -/

theorem not_space_of_number {c : Char} (h : c = '-' ∨ c.isDigit = true) :
    isSpace c = false ∧ c ≠ ']' := by
  rcases h with rfl | hdigit
  · decide
  · have hne : ∀ x, x.isDigit = false → c ≠ x := fun x hx h => by
      rw [h, hx] at hdigit
      cases hdigit
    exact ⟨by simp [isSpace, hne], hne _ rfl⟩

theorem Numeral.head?_chars (n : Numeral) :
    ∃ c, n.chars.head? = some c ∧ (c = '-' ∨ c.isDigit = true) := by
  rw [chars]
  cases n.negative with
  | true => exact ⟨'-', rfl, .inl rfl⟩
  | false =>
    obtain ⟨c, cs, hcs⟩ := List.exists_cons_of_ne_nil n.whole.ne_nil
    exact ⟨c, by simp [hcs], .inr (n.whole.digit c (hcs ▸ List.mem_cons_self))⟩

/-- A value begins with no blank and with no bracket that closes. -/
theorem Source.head?_chars : ∀ s : Source,
    ∃ c, s.chars.head? = some c ∧ isSpace c = false ∧ c ≠ ']'
  | .null => ⟨'n', rfl, by decide, by decide⟩
  | .bool true => ⟨'t', rfl, by decide, by decide⟩
  | .bool false => ⟨'f', rfl, by decide, by decide⟩
  | .number n => by
    obtain ⟨c, hc, hnumber⟩ := n.head?_chars
    exact ⟨c, hc, not_space_of_number hnumber⟩
  | .string _ => ⟨'"', rfl, by decide, by decide⟩
  | .emptyArray _ | .array _ => ⟨'[', rfl, by decide, by decide⟩
  | .emptyObject _ | .object _ => ⟨'\x7b', rfl, by decide, by decide⟩

theorem Source.length_chars_pos (s : Source) : 0 < s.chars.length := by
  obtain ⟨c, hc, -⟩ := s.head?_chars
  exact List.length_pos_of_mem (List.mem_of_mem_head? hc)

theorem Members.length_chars_pos : ∀ ms : Members, 0 < ms.chars.length
  | .last _ _ _ _ | .more _ _ _ _ _ => by
    rw [Members.chars, List.length_append, List.length_cons]
    omega

section

variable {fuel : Nat} {cs r r' : List Char} {j : Json}

theorem skipSpace_skipSpace (cs : List Char) : skipSpace (skipSpace cs) = skipSpace cs :=
  List.dropWhile_idempotent _ _

theorem readValue_skipSpace (fuel : Nat) (cs : List Char) :
    readValue fuel (skipSpace cs) = readValue fuel cs := by
  cases fuel with
  | zero => rfl
  | succ fuel => rw [readValue, readValue, skipSpace_skipSpace]

theorem readValue_space (fuel : Nat) (s : Space) (cs : List Char) :
    readValue fuel (s.chars ++ cs) = readValue fuel cs := by
  rw [← readValue_skipSpace, s.skipSpace_append, readValue_skipSpace]

theorem readItems_skipSpace (fuel : Nat) (cs : List Char) :
    readItems fuel (skipSpace cs) = readItems fuel cs := by
  cases fuel with
  | zero => rfl
  | succ fuel => rw [readItems, readItems, readValue_skipSpace]

theorem readMembers_skipSpace (fuel : Nat) (cs : List Char) :
    readMembers fuel (skipSpace cs) = readMembers fuel cs := by
  cases fuel with
  | zero => rfl
  | succ fuel => rw [readMembers, readMembers, skipSpace_skipSpace]

theorem skipSpace_source (b : Space) (s : Source) (r : List Char) :
    skipSpace (b.chars ++ (s.chars ++ r)) = s.chars ++ r := by
  obtain ⟨c, hc, hspace, -⟩ := s.head?_chars
  rw [b.skipSpace_append]
  exact skipSpace_of_head? (by rw [List.head?_append, hc, Option.some_or]) hspace

theorem Space.ends_append (s : Space) (hr : Ends r) : Ends (s.chars ++ r) := by
  intro c hc
  rw [List.head?_append, Option.mem_def, Option.or_eq_some_iff] at hc
  rcases hc with hc | ⟨-, hc⟩
  · have hspace := s.blank c (List.mem_of_mem_head? hc)
    simp only [isSpace, Bool.or_eq_true, beq_iff_eq] at hspace
    rcases hspace with ((rfl | rfl) | rfl) | rfl <;> decide
  · exact hr c hc

theorem readItems_close (h : readValue fuel cs = some (j, r)) (hr : skipSpace r = ']' :: r') :
    readItems (fuel + 1) cs = some ([j], r') := by
  simp only [readItems, h, hr, Option.bind_eq_bind, Option.bind_some]

theorem readItems_comma {js : List Json} {r'' : List Char} (h : readValue fuel cs = some (j, r))
    (hr : skipSpace r = ',' :: r') (hrest : readItems fuel r' = some (js, r'')) :
    readItems (fuel + 1) cs = some (j :: js, r'') := by
  simp only [readItems, h, hr, hrest, Option.bind_eq_bind, Option.bind_some, Option.pure_def]

theorem skipSpace_name (n : Name) (cs : List Char) : skipSpace (n.chars ++ ':' :: cs) =
    '"' :: (n.marks.flatMap Mark.chars ++ '"' :: (n.after.chars ++ ':' :: cs)) := by
  rw [Name.chars, List.append_assoc, List.append_assoc, n.before.skipSpace_append, literal_append,
    skipSpace_cons (by decide)]

theorem readMembers_close (n : Name) (h : readValue fuel cs = some (j, r))
    (hr : skipSpace r = '\x7d' :: r') :
    readMembers (fuel + 1) (n.chars ++ ':' :: cs) = some ([(literalText n.marks, j)], r') := by
  simp only [readMembers, skipSpace_name, readText_marks, n.after.skipSpace_append, skipSpace_colon,
    h, hr, Option.bind_eq_bind, Option.bind_some]

theorem readMembers_comma {ms : List (Option String × Json)} {r'' : List Char} (n : Name)
    (h : readValue fuel cs = some (j, r)) (hr : skipSpace r = ',' :: r')
    (hrest : readMembers fuel r' = some (ms, r'')) : readMembers (fuel + 1) (n.chars ++ ':' :: cs) =
      some ((literalText n.marks, j) :: ms, r'') := by
  simp only [readMembers, skipSpace_name, readText_marks, n.after.skipSpace_append, skipSpace_colon,
    h, hr, hrest, Option.bind_eq_bind, Option.bind_some, Option.pure_def]

theorem skipSpace_close (a : Space) {c : Char} (hc : isSpace c = false) (r : List Char) :
    skipSpace (a.chars ++ c :: r) = c :: r := by
  rw [a.skipSpace_append, skipSpace_cons hc]

theorem readValue_array (hcs : (skipSpace cs).head? ≠ some ']') : readValue (fuel + 1) ('[' :: cs) =
    (readItems fuel cs).bind fun p => some (.arr p.1, p.2) := by
  rw [readValue, skipSpace_cons (by decide)]
  simp only
  split
  · next h => exact absurd (by rw [h]; rfl) hcs
  · rw [readItems_skipSpace]
    rfl

theorem readValue_object (hcs : (skipSpace cs).head? = some '"') :
    readValue (fuel + 1) ('\x7b' :: cs) =
      (readMembers fuel cs).bind fun p => some (ofMembers p.1, p.2) := by
  rw [readValue, skipSpace_cons (by decide)]
  simp only
  split
  · next h => rw [h] at hcs; cases hcs
  · rw [readMembers_skipSpace]
    rfl

theorem skipSpace_items : ∀ (is : Items) (r : List Char),
    (skipSpace (is.chars ++ r)).head? ≠ some ']'
  | .last b i a, r | .more b i a _, r => by
    obtain ⟨c, hc, -, hclose⟩ := i.head?_chars
    rw [Items.chars, List.append_assoc, List.append_assoc, skipSpace_source, List.head?_append, hc,
      Option.some_or]
    simpa using hclose

theorem skipSpace_members : ∀ (ms : Members) (r : List Char),
    (skipSpace (ms.chars ++ r)).head? = some '"'
  | .last n _ _ _, r | .more n _ _ _ _, r => by
    rw [Members.chars, List.append_assoc, List.cons_append, skipSpace_name]
    rfl

end

mutual

theorem readValue_source : ∀ (s : Source) (fuel : Nat) (r : List Char),
    s.chars.length ≤ fuel → Ends r → readValue fuel (s.chars ++ r) = some (s.value, r)
  | s, 0, r, hfuel, hr => by
    have hlength := s.length_chars_pos
    omega
  | .null, _ + 1, _, _, _ => rfl
  | .bool true, _ + 1, _, _, _ => rfl
  | .bool false, _ + 1, _, _, _ => rfl
  | .number n, fuel + 1, r, _, hr => by
    obtain ⟨c, hc, hnumber⟩ := n.head?_chars
    have hhead : (n.chars ++ r).head? = some c := by rw [List.head?_append, hc, Option.some_or]
    rw [Source.chars, readValue_number hhead hnumber, readNumber_append n hr]
    rfl
  | .string ms, fuel + 1, r, _, _ => by
    have hread : ∀ cs, readValue (fuel + 1) ('"' :: cs) =
        (readText cs).bind fun p => some (p.1.elim .unreadable .str, p.2) := fun _ => rfl
    rw [Source.chars, literal_append, hread, readText_marks]
    rfl
  | .emptyArray s, fuel + 1, r, _, _ => by
    rw [Source.chars, List.cons_append, List.append_assoc, readValue, skipSpace_cons (by decide)]
    simp only [List.singleton_append, skipSpace_close s (show isSpace ']' = false by decide)]
    rfl
  | .array is, fuel + 1, r, hfuel, _ => by
    simp only [Source.chars, List.length_cons] at hfuel
    rw [Source.chars, List.cons_append, readValue_array (skipSpace_items is r),
      readItems_source is fuel r (by omega)]
    rfl
  | .emptyObject s, fuel + 1, r, _, _ => by
    rw [Source.chars, List.cons_append, List.append_assoc, readValue, skipSpace_cons (by decide)]
    simp only [List.singleton_append, skipSpace_close s (show isSpace '\x7d' = false by decide)]
    rfl
  | .object ms, fuel + 1, r, hfuel, _ => by
    simp only [Source.chars, List.length_cons] at hfuel
    rw [Source.chars, List.cons_append, readValue_object (skipSpace_members ms r),
      readMembers_source ms fuel r (by omega)]
    rfl

theorem readItems_source : ∀ (is : Items) (fuel : Nat) (r : List Char),
    is.chars.length ≤ fuel → readItems fuel (is.chars ++ r) = some (is.values, r)
  | .last b i a, fuel, r, hfuel => by
    simp only [Items.chars, List.length_append, List.length_singleton] at hfuel
    obtain ⟨fuel, rfl⟩ : ∃ fuel', fuel = fuel' + 1 := ⟨fuel - 1, by omega⟩
    have hends := a.ends_append (ends_cons (.inr (.inl rfl)) r)
    have hread := readValue_source i fuel _ (by omega) hends
    simp only [Items.chars, List.append_assoc, List.singleton_append]
    exact readItems_close ((readValue_space _ _ _).trans hread) (skipSpace_close a (by decide) r)
  | .more b i a is, fuel, r, hfuel => by
    simp only [Items.chars, List.length_append, List.length_cons] at hfuel
    obtain ⟨fuel, rfl⟩ : ∃ fuel', fuel = fuel' + 1 := ⟨fuel - 1, by omega⟩
    have hends := a.ends_append (ends_cons (.inl rfl) (is.chars ++ r))
    have hread := readValue_source i fuel _ (by omega) hends
    simp only [Items.chars, List.append_assoc, List.cons_append]
    exact readItems_comma ((readValue_space _ _ _).trans hread) (skipSpace_close a (by decide) _)
      (readItems_source is fuel r (by omega))

theorem readMembers_source : ∀ (ms : Members) (fuel : Nat) (r : List Char),
    ms.chars.length ≤ fuel → readMembers fuel (ms.chars ++ r) = some (ms.values, r)
  | .last n b v a, fuel, r, hfuel => by
    simp only [Members.chars, List.length_append, List.length_cons] at hfuel
    obtain ⟨fuel, rfl⟩ : ∃ fuel', fuel = fuel' + 1 := ⟨fuel - 1, by omega⟩
    have hends := a.ends_append (ends_cons (.inr (.inr rfl)) r)
    have hread := readValue_source v fuel _ (by omega) hends
    simp only [Members.chars, List.append_assoc, List.cons_append, List.nil_append]
    exact readMembers_close n ((readValue_space _ _ _).trans hread)
      (skipSpace_close a (by decide) r)
  | .more n b v a ms, fuel, r, hfuel => by
    simp only [Members.chars, List.length_append, List.length_cons] at hfuel
    obtain ⟨fuel, rfl⟩ : ∃ fuel', fuel = fuel' + 1 := ⟨fuel - 1, by omega⟩
    have hends := a.ends_append (ends_cons (.inl rfl) (ms.chars ++ r))
    have hread := readValue_source v fuel _ (by omega) hends
    simp only [Members.chars, List.append_assoc, List.cons_append]
    exact readMembers_comma n ((readValue_space _ _ _).trans hread)
      (skipSpace_close a (by decide) _) (readMembers_source ms fuel r (by omega))

end

theorem Document.parse_text (d : Document) : parse d.text = some d.value := by
  have hends : Ends d.after.chars := by
    rw [← List.append_nil d.after.chars]
    exact d.after.ends_append fun _ hc => by cases hc
  have hread : readValue (d.chars.length + 1) d.chars = some (d.root.value, d.after.chars) := by
    rw [chars, readValue_space]
    exact readValue_source d.root _ _ (by simp only [List.length_append]; omega) hends
  have hrest : skipSpace d.after.chars = [] := by
    rw [← List.append_nil d.after.chars, d.after.skipSpace_append]
    rfl
  rw [parse, text, String.toList_ofList, parseChars, hread]
  simp only [hrest]
  rfl

/-! ## Every text that the reader takes is the text of a document -/

mutual

theorem exists_source : ∀ {fuel : Nat} {cs r : List Char} {j : Json},
    readValue fuel cs = some (j, r) →
      ∃ (b : Space) (s : Source), cs = b.chars ++ (s.chars ++ r) ∧ s.value = j
  | 0, _, _, _, h => by cases h
  | fuel + 1, cs, r, j, h => by
    obtain ⟨b, hb⟩ := exists_space cs
    refine ⟨b, ?_⟩
    rw [readValue] at h
    split at h
    · next cs' hcs =>
      obtain ⟨rfl, rfl⟩ := Prod.mk.inj (Option.some.inj h)
      exact ⟨.null, by rw [hb, hcs]; rfl, rfl⟩
    · next cs' hcs =>
      obtain ⟨rfl, rfl⟩ := Prod.mk.inj (Option.some.inj h)
      exact ⟨.bool true, by rw [hb, hcs]; rfl, rfl⟩
    · next cs' hcs =>
      obtain ⟨rfl, rfl⟩ := Prod.mk.inj (Option.some.inj h)
      exact ⟨.bool false, by rw [hb, hcs]; rfl, rfl⟩
    · next cs' hcs =>
      simp only [readText, Option.bind_eq_bind, Option.bind_eq_some_iff, Option.pure_def,
        Option.some.injEq, Prod.mk.injEq] at h
      obtain ⟨⟨t, r⟩, ⟨⟨ps, r⟩, hread, rfl, rfl⟩, rfl, rfl⟩ := h
      obtain ⟨ms, rfl, rfl⟩ := exists_marks hread
      exact ⟨.string ms, by rw [hb, hcs, Source.chars, literal_append], rfl⟩
    · next cs' hcs =>
      obtain ⟨s, hs⟩ := exists_space cs'
      split at h
      · next hclose =>
        obtain ⟨rfl, rfl⟩ := Prod.mk.inj (Option.some.inj h)
        exact ⟨.emptyArray s, by rw [hb, hcs, hs, hclose]; simp [Source.chars], rfl⟩
      · simp only [readItems_skipSpace, Option.bind_eq_bind, Option.bind_eq_some_iff,
          Option.pure_def, Option.some.injEq, Prod.mk.injEq] at h
        obtain ⟨⟨js, r⟩, hread, rfl, rfl⟩ := h
        obtain ⟨is, rfl, rfl⟩ := exists_items hread
        exact ⟨.array is, by rw [hb, hcs]; rfl, rfl⟩
    · next cs' hcs =>
      obtain ⟨s, hs⟩ := exists_space cs'
      split at h
      · next hclose =>
        obtain ⟨rfl, rfl⟩ := Prod.mk.inj (Option.some.inj h)
        exact ⟨.emptyObject s, by rw [hb, hcs, hs, hclose]; simp [Source.chars], rfl⟩
      · simp only [readMembers_skipSpace, Option.bind_eq_bind, Option.bind_eq_some_iff,
          Option.pure_def, Option.some.injEq, Prod.mk.injEq] at h
        obtain ⟨⟨ms, r⟩, hread, rfl, rfl⟩ := h
        obtain ⟨ms, rfl, rfl⟩ := exists_members hread
        exact ⟨.object ms, by rw [hb, hcs]; rfl, rfl⟩
    · obtain ⟨n, hn, rfl⟩ := exists_numeral h
      exact ⟨.number n, by rw [hb, hn]; rfl, rfl⟩

theorem exists_items : ∀ {fuel : Nat} {cs r : List Char} {js : List Json},
    readItems fuel cs = some (js, r) → ∃ is : Items, cs = is.chars ++ r ∧ is.values = js
  | 0, _, _, _, h => by cases h
  | fuel + 1, cs, r, js, h => by
    simp only [readItems, Option.bind_eq_bind, Option.bind_eq_some_iff] at h
    obtain ⟨⟨j, r₁⟩, hread, h⟩ := h
    obtain ⟨b, i, rfl, rfl⟩ := exists_source hread
    obtain ⟨a, ha⟩ := exists_space r₁
    simp only at h
    split at h
    · next cs' hcs =>
      simp only [Option.bind_eq_some_iff, Option.pure_def, Option.some.injEq, Prod.mk.injEq] at h
      obtain ⟨⟨js, r⟩, hread, rfl, rfl⟩ := h
      obtain ⟨is, rfl, rfl⟩ := exists_items hread
      exact ⟨.more b i a is, by rw [ha, hcs]; simp [Items.chars], rfl⟩
    · next cs' hcs =>
      obtain ⟨rfl, rfl⟩ := Prod.mk.inj (Option.some.inj h)
      exact ⟨.last b i a, by rw [ha, hcs]; simp [Items.chars], rfl⟩
    · cases h

theorem exists_members : ∀ {fuel : Nat} {cs r : List Char} {js : List (Option String × Json)},
    readMembers fuel cs = some (js, r) → ∃ ms : Members, cs = ms.chars ++ r ∧ ms.values = js
  | 0, _, _, _, h => by cases h
  | fuel + 1, cs, r, js, h => by
    obtain ⟨before, hbefore⟩ := exists_space cs
    rw [readMembers] at h
    split at h
    · next cs' hcs =>
      simp only [readText, Option.bind_eq_bind, Option.bind_eq_some_iff, Option.pure_def,
        Option.some.injEq] at h
      obtain ⟨⟨t, r₁⟩, ⟨⟨ps, r₁⟩, hname, ht⟩, h⟩ := h
      obtain ⟨rfl, rfl⟩ := Prod.mk.inj ht
      obtain ⟨marks, rfl, rfl⟩ := exists_marks hname
      obtain ⟨after, hafter⟩ := exists_space r₁
      simp only at h
      split at h
      · next cs₁ hcs₁ =>
        simp only [Option.bind_eq_some_iff] at h
        obtain ⟨⟨j, r₂⟩, hread, h⟩ := h
        obtain ⟨b, v, rfl, rfl⟩ := exists_source hread
        obtain ⟨a, ha⟩ := exists_space r₂
        simp only at h
        split at h
        · next cs₂ hcs₂ =>
          simp only [Option.bind_eq_some_iff, Option.some.injEq, Prod.mk.injEq] at h
          obtain ⟨⟨js, r⟩, hread, rfl, rfl⟩ := h
          obtain ⟨ms, rfl, rfl⟩ := exists_members hread
          refine ⟨.more ⟨before, marks, after⟩ b v a ms, ?_, rfl⟩
          rw [hbefore, hcs, hafter, hcs₁, ha, hcs₂]
          simp [Members.chars, Name.chars, literal]
        · next cs₂ hcs₂ =>
          obtain ⟨rfl, rfl⟩ := Prod.mk.inj (Option.some.inj h)
          refine ⟨.last ⟨before, marks, after⟩ b v a, ?_, rfl⟩
          rw [hbefore, hcs, hafter, hcs₁, ha, hcs₂]
          simp [Members.chars, Name.chars, literal]
        · cases h
      · cases h
    · cases h

end

theorem exists_document {text : String} {j : Json} (h : parse text = some j) :
    ∃ d : Document, d.text = text ∧ d.value = j := by
  rw [parse, parseChars] at h
  split at h
  · next j' r hread =>
    obtain ⟨b, s, hcs, rfl⟩ := exists_source hread
    split at h
    · next hrest =>
      obtain rfl := Option.some.inj h
      obtain ⟨a, ha⟩ := exists_space r
      rw [List.isEmpty_iff.1 hrest, List.append_nil] at ha
      refine ⟨⟨b, s, a⟩, ?_, rfl⟩
      rw [Document.text, Document.chars, ← ha, ← hcs, String.ofList_toList]
    · cases h
  · cases h

end Steading.Json
