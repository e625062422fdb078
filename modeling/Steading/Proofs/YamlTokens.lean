import Steading.Proofs.YamlFlow

/-!
# The tokens of a JSON text in YAML

A document in brackets is in flows throughout: the lexer finds one token for each mark and scalar,
and the token of a key in front of each name that is near enough. It finds none if a string or a tab
is not portable, and those of the tree otherwise (`Token.ofText?_text`).
-/

namespace Steading.Json

open Yaml (Token ScalarStyle)

/-! ## The tokens of a tree -/

mutual

def Source.tokens : Source → List Token
  | .string ms => [.scalar (spelled ms) .doubleQuoted]
  | .emptyArray _ => [.flowSequenceStart, .flowSequenceEnd]
  | .array is => .flowSequenceStart :: is.tokens
  | .emptyObject _ => [.flowMappingStart, .flowMappingEnd]
  | .object ms => .flowMappingStart :: ms.tokens
  | s => [.scalar (String.ofList s.chars) .plain]

def Items.tokens : Items → List Token
  | .last _ i _ => i.tokens ++ [.flowSequenceEnd]
  | .more _ i _ is => i.tokens ++ .flowEntry :: is.tokens

def Members.tokens : Members → List Token
  | .last n _ v _ => n.tokens ++ (v.tokens ++ [.flowMappingEnd])
  | .more n _ v _ ms => n.tokens ++ (v.tokens ++ .flowEntry :: ms.tokens)

end

end Steading.Json

namespace Steading.Yaml.Lexer

open Json (Mark Space Name Source Items Members)

/-! ## What is found behind a tree -/

mutual

/-- The tokens of a value, of which there are at most as many as characters. -/
theorem reads_source : ∀ (s : Source), s.all Mark.portable = true →
    ∀ {tokens : List Token} {flow : Nat} {allowed : Bool} {cs r : List Char} {l : Lexer},
      Found tokens (flow + 1) allowed cs l → Json.skipSpace cs = s.chars ++ r → Followed r →
        ∃ n l' allowed' r', n ≤ s.chars.length ∧ Reads n l l' ∧
          Json.skipSpace r' = Json.skipSpace r ∧
          Found (s.tokens.reverse ++ tokens) (flow + 1) allowed' r' l'
  | .null, _, _, _, _, _, _, _, h, hcs, hr => by
    obtain ⟨l', allowed', r', hread, hrest, hfound⟩ := reads_word isWord_null h hcs hr
    exact ⟨1, l', allowed', r', Nat.succ_pos _, hread, hrest, hfound⟩
  | .bool b, _, _, _, _, _, _, _, h, hcs, hr => by
    obtain ⟨l', allowed', r', hread, hrest, hfound⟩ := reads_word (isWord_bool b) h hcs hr
    exact ⟨1, l', allowed', r', (Source.bool b).length_chars_pos, hread, hrest, hfound⟩
  | .number n, _, _, _, _, _, _, _, h, hcs, hr => by
    obtain ⟨l', allowed', r', hread, hrest, hfound⟩ := reads_word (isWord_numeral n) h hcs hr
    exact ⟨1, l', allowed', r', (Source.number n).length_chars_pos, hread, hrest, hfound⟩
  | .string ms, hs, _, _, _, _, r, _, h, hcs, _ => by
    obtain ⟨l', hread, hfound⟩ := reads_string hs h hcs
    exact ⟨1, l', false, r, Nat.succ_pos _, hread, rfl, hfound⟩
  | .emptyArray s, _, _, _, _, _, r, _, h, hcs, _ => by
    obtain ⟨l₁, hopen, h₁⟩ := reads_open (.inl ⟨rfl, rfl⟩) h hcs
    have hclose : Json.skipSpace (s.chars ++ [']'] ++ r) = ']' :: r := by
      rw [List.append_assoc]
      exact Json.skipSpace_close s (by decide) r
    obtain ⟨l₂, hread, h₂⟩ := reads_close (.inl ⟨rfl, rfl⟩) h₁ hclose
    refine ⟨1 + 1, l₂, false, r, ?_, hopen.trans hread, rfl, h₂⟩
    simp [Source.chars]
  | .array is, hs, _, _, _, _, r, _, h, hcs, _ => by
    obtain ⟨l₁, hopen, h₁⟩ := reads_open (.inl ⟨rfl, rfl⟩) h hcs
    obtain ⟨n, l₂, hn, hread, h₂⟩ := reads_items is hs h₁
    refine ⟨n + 1, l₂, false, r, Nat.succ_le_succ hn, hopen.trans hread, rfl, ?_⟩
    simpa [Source.tokens] using h₂
  | .emptyObject s, _, _, _, _, _, r, _, h, hcs, _ => by
    obtain ⟨l₁, hopen, h₁⟩ := reads_open (.inr ⟨rfl, rfl⟩) h hcs
    have hclose : Json.skipSpace (s.chars ++ ['\x7d'] ++ r) = '\x7d' :: r := by
      rw [List.append_assoc]
      exact Json.skipSpace_close s (by decide) r
    obtain ⟨l₂, hread, h₂⟩ := reads_close (.inr ⟨rfl, rfl⟩) h₁ hclose
    refine ⟨1 + 1, l₂, false, r, ?_, hopen.trans hread, rfl, h₂⟩
    simp [Source.chars]
  | .object ms, hs, _, _, _, _, r, _, h, hcs, _ => by
    obtain ⟨l₁, hopen, h₁⟩ := reads_open (.inr ⟨rfl, rfl⟩) h hcs
    obtain ⟨n, l₂, hn, hread, h₂⟩ := reads_members ms hs h₁
    refine ⟨n + 1, l₂, false, r, Nat.succ_le_succ hn, hopen.trans hread, rfl, ?_⟩
    simpa [Source.tokens] using h₂

theorem reads_items : ∀ (is : Items), is.all Mark.portable = true →
    ∀ {tokens : List Token} {flow : Nat} {allowed : Bool} {r : List Char} {l : Lexer},
      Found tokens (flow + 1) allowed (is.chars ++ r) l →
        ∃ n l', n ≤ is.chars.length ∧ Reads n l l' ∧
          Found (is.tokens.reverse ++ tokens) flow false r l'
  | .last b i a, hs, _, _, _, r, _, h => by
    have hcs : Json.skipSpace ((Items.last b i a).chars ++ r) =
        i.chars ++ (a.chars ++ ']' :: r) := by
      simp only [Items.chars, List.append_assoc, Json.skipSpace_source, List.singleton_append]
    obtain ⟨n, l₁, _, r₁, hn, hitem, hr₁, h₁⟩ := reads_source i hs h hcs (followed a rfl r)
    rw [Json.skipSpace_close a (by decide)] at hr₁
    obtain ⟨l₂, hclose, h₂⟩ := reads_close (.inl ⟨rfl, rfl⟩) h₁ hr₁
    refine ⟨1 + n, l₂, ?_, hitem.trans hclose, ?_⟩
    · simp only [Items.chars, List.length_append, List.length_singleton]
      omega
    · simpa [Items.tokens] using h₂
  | .more b i a is, hs, _, _, _, r, _, h => by
    simp only [Items.all, Bool.and_eq_true] at hs
    have hcs : Json.skipSpace ((Items.more b i a is).chars ++ r) =
        i.chars ++ (a.chars ++ ',' :: (is.chars ++ r)) := by
      simp only [Items.chars, List.append_assoc, Json.skipSpace_source, List.cons_append]
    obtain ⟨n, l₁, _, r₁, hn, hitem, hr₁, h₁⟩ := reads_source i hs.1 h hcs (followed a rfl _)
    rw [Json.skipSpace_close a (by decide)] at hr₁
    obtain ⟨l₂, hcomma, h₂⟩ := reads_comma h₁ hr₁
    obtain ⟨m, l₃, hm, hrest, h₃⟩ := reads_items is hs.2 h₂
    refine ⟨m + (1 + n), l₃, ?_, (hitem.trans hcomma).trans hrest, ?_⟩
    · simp only [Items.chars, List.length_append, List.length_cons]
      omega
    · simpa [Items.tokens] using h₃

theorem reads_members : ∀ (ms : Members), ms.all Mark.portable = true →
    ∀ {tokens : List Token} {flow : Nat} {r : List Char} {l : Lexer},
      Found tokens (flow + 1) true (ms.chars ++ r) l →
        ∃ n l', n ≤ ms.chars.length ∧ Reads n l l' ∧
          Found (ms.tokens.reverse ++ tokens) flow false r l'
  | .last n b v a, hs, _, _, r, _, h => by
    simp only [Members.all, Bool.and_eq_true] at hs
    rw [Members.chars, List.append_assoc, List.cons_append] at h
    obtain ⟨l₁, hname, h₁⟩ := reads_name hs.1 h
    have hcs : Json.skipSpace (b.chars ++ (v.chars ++ (a.chars ++ ['\x7d'])) ++ r) =
        v.chars ++ (a.chars ++ '\x7d' :: r) := by
      simp only [List.append_assoc, Json.skipSpace_source, List.singleton_append]
    obtain ⟨m, l₂, _, r₂, hm, hvalue, hr₂, h₂⟩ := reads_source v hs.2 h₁ hcs (followed a rfl r)
    rw [Json.skipSpace_close a (by decide)] at hr₂
    obtain ⟨l₃, hclose, h₃⟩ := reads_close (.inr ⟨rfl, rfl⟩) h₂ hr₂
    refine ⟨1 + (m + 2), l₃, ?_, (hname.trans hvalue).trans hclose, ?_⟩
    · simp only [Members.chars, Json.Name.chars, Json.literal, List.length_append, List.length_cons]
      omega
    · simpa [Members.tokens, Json.Name.tokens] using h₃
  | .more n b v a ms, hs, _, _, r, _, h => by
    simp only [Members.all, Bool.and_eq_true] at hs
    rw [Members.chars, List.append_assoc, List.cons_append] at h
    obtain ⟨l₁, hname, h₁⟩ := reads_name hs.1 h
    have hcs : Json.skipSpace (b.chars ++ (v.chars ++ (a.chars ++ ',' :: ms.chars)) ++ r) =
        v.chars ++ (a.chars ++ ',' :: (ms.chars ++ r)) := by
      simp only [List.append_assoc, Json.skipSpace_source, List.cons_append]
    obtain ⟨m, l₂, _, r₂, hm, hvalue, hr₂, h₂⟩ := reads_source v hs.2.1 h₁ hcs (followed a rfl _)
    rw [Json.skipSpace_close a (by decide)] at hr₂
    obtain ⟨l₃, hcomma, h₃⟩ := reads_comma h₂ hr₂
    obtain ⟨k, l₄, hk, hrest, h₄⟩ := reads_members ms hs.2.2 h₃
    refine ⟨k + (1 + (m + 2)), l₄, ?_, ((hname.trans hvalue).trans hcomma).trans hrest, ?_⟩
    · simp only [Members.chars, Json.Name.chars, Json.literal, List.length_append, List.length_cons]
      omega
    · simpa [Members.tokens, Json.Name.tokens] using h₄

end

/-! ## Halves of pairs

The lexer reads up to the first half of a pair in a string, and finds no token there.
-/

theorem fails_name {n : Name} (hlegible : n.marks.all Mark.legible = true)
    (hn : n.marks.all Mark.portable = false) {tokens : List Token} {flow : Nat} {r : List Char}
    {l : Lexer} (h : Found tokens (flow + 1) true (n.chars ++ ':' :: r) l) : Fails 1 l :=
  fails_string hlegible hn h ((Json.skipSpace_name n r).trans (Json.literal_append n.marks _).symm)

mutual

theorem fails_source : ∀ (s : Source), s.all Mark.legible = true → s.all Mark.portable = false →
    ∀ {tokens : List Token} {flow : Nat} {allowed : Bool} {cs r : List Char} {l : Lexer},
      Found tokens (flow + 1) allowed cs l → Json.skipSpace cs = s.chars ++ r →
        ∃ n, n ≤ s.chars.length ∧ Fails n l
  | .string ms, hlegible, hs, _, _, _, _, _, _, h, hcs =>
    ⟨1, Nat.succ_pos _, fails_string hlegible hs h hcs⟩
  | .array is, hlegible, hs, _, _, _, _, _, _, h, hcs => by
    obtain ⟨l₁, hopen, h₁⟩ := reads_open (.inl ⟨rfl, rfl⟩) h hcs
    obtain ⟨n, hn, hfails⟩ := fails_items is hlegible hs h₁
    exact ⟨n + 1, Nat.succ_le_succ hn, hopen.fails hfails⟩
  | .object ms, hlegible, hs, _, _, _, _, _, _, h, hcs => by
    obtain ⟨l₁, hopen, h₁⟩ := reads_open (.inr ⟨rfl, rfl⟩) h hcs
    obtain ⟨n, hn, hfails⟩ := fails_members ms hlegible hs h₁
    exact ⟨n + 1, Nat.succ_le_succ hn, hopen.fails hfails⟩
  | .null, _, hs, _, _, _, _, _, _, _, _ | .bool _, _, hs, _, _, _, _, _, _, _, _
  | .number _, _, hs, _, _, _, _, _, _, _, _ | .emptyArray _, _, hs, _, _, _, _, _, _, _, _
  | .emptyObject _, _, hs, _, _, _, _, _, _, _, _ => by cases hs

theorem fails_items : ∀ (is : Items), is.all Mark.legible = true → is.all Mark.portable = false →
    ∀ {tokens : List Token} {flow : Nat} {allowed : Bool} {r : List Char} {l : Lexer},
      Found tokens (flow + 1) allowed (is.chars ++ r) l → ∃ n, n ≤ is.chars.length ∧ Fails n l
  | .last b i a, hlegible, hs, _, _, _, r, _, h => by
    have hcs : Json.skipSpace ((Items.last b i a).chars ++ r) =
        i.chars ++ (a.chars ++ ']' :: r) := by
      simp only [Items.chars, List.append_assoc, Json.skipSpace_source, List.singleton_append]
    obtain ⟨n, hn, hfails⟩ := fails_source i hlegible hs h hcs
    refine ⟨n, ?_, hfails⟩
    simp only [Items.chars, List.length_append]
    omega
  | .more b i a is, hlegible, hs, _, _, _, r, _, h => by
    rw [Items.all, Bool.and_eq_true] at hlegible
    have hcs : Json.skipSpace ((Items.more b i a is).chars ++ r) =
        i.chars ++ (a.chars ++ ',' :: (is.chars ++ r)) := by
      simp only [Items.chars, List.append_assoc, Json.skipSpace_source, List.cons_append]
    cases hi : i.all Mark.portable with
    | false =>
      obtain ⟨n, hn, hfails⟩ := fails_source i hlegible.1 hi h hcs
      refine ⟨n, ?_, hfails⟩
      simp only [Items.chars, List.length_append]
      omega
    | true =>
      rw [Items.all, hi, Bool.true_and] at hs
      obtain ⟨n, l₁, _, r₁, hn, hitem, hr₁, h₁⟩ := reads_source i hi h hcs (followed a rfl _)
      rw [Json.skipSpace_close a (by decide)] at hr₁
      obtain ⟨l₂, hcomma, h₂⟩ := reads_comma h₁ hr₁
      obtain ⟨m, hm, hfails⟩ := fails_items is hlegible.2 hs h₂
      refine ⟨m + (1 + n), ?_, (hitem.trans hcomma).fails hfails⟩
      simp only [Items.chars, List.length_append, List.length_cons]
      omega

theorem fails_members : ∀ (ms : Members), ms.all Mark.legible = true →
    ms.all Mark.portable = false →
    ∀ {tokens : List Token} {flow : Nat} {r : List Char} {l : Lexer},
      Found tokens (flow + 1) true (ms.chars ++ r) l → ∃ n, n ≤ ms.chars.length ∧ Fails n l
  | .last n b v a, hlegible, hs, _, _, r, _, h => by
    rw [Members.all, Bool.and_eq_true] at hlegible
    rw [Members.chars, List.append_assoc, List.cons_append] at h
    cases hname : n.marks.all Mark.portable with
    | false =>
      exact ⟨1, (Members.last n b v a).length_chars_pos, fails_name hlegible.1 hname h⟩
    | true =>
      rw [Members.all, hname, Bool.true_and] at hs
      obtain ⟨l₁, hread, h₁⟩ := reads_name hname h
      have hcs : Json.skipSpace (b.chars ++ (v.chars ++ (a.chars ++ ['\x7d'])) ++ r) =
          v.chars ++ (a.chars ++ '\x7d' :: r) := by
        simp only [List.append_assoc, Json.skipSpace_source, List.singleton_append]
      obtain ⟨m, hm, hfails⟩ := fails_source v hlegible.2 hs h₁ hcs
      refine ⟨m + 2, ?_, hread.fails hfails⟩
      simp only [Members.chars, Json.Name.chars, Json.literal, List.length_append, List.length_cons]
      omega
  | .more n b v a ms, hlegible, hs, _, _, r, _, h => by
    rw [Members.all, Bool.and_eq_true, Bool.and_eq_true] at hlegible
    rw [Members.chars, List.append_assoc, List.cons_append] at h
    cases hname : n.marks.all Mark.portable with
    | false =>
      exact ⟨1, (Members.more n b v a ms).length_chars_pos, fails_name hlegible.1 hname h⟩
    | true =>
      obtain ⟨l₁, hread, h₁⟩ := reads_name hname h
      have hcs : Json.skipSpace (b.chars ++ (v.chars ++ (a.chars ++ ',' :: ms.chars)) ++ r) =
          v.chars ++ (a.chars ++ ',' :: (ms.chars ++ r)) := by
        simp only [List.append_assoc, Json.skipSpace_source, List.cons_append]
      cases hv : v.all Mark.portable with
      | false =>
        obtain ⟨m, hm, hfails⟩ := fails_source v hlegible.2.1 hv h₁ hcs
        refine ⟨m + 2, ?_, hread.fails hfails⟩
        simp only [Members.chars, Json.Name.chars, Json.literal, List.length_append,
          List.length_cons]
        omega
      | true =>
        rw [Members.all, hname, hv, Bool.true_and, Bool.true_and] at hs
        obtain ⟨m, l₂, _, r₂, hm, hvalue, hr₂, h₂⟩ := reads_source v hv h₁ hcs (followed a rfl _)
        rw [Json.skipSpace_close a (by decide)] at hr₂
        obtain ⟨l₃, hcomma, h₃⟩ := reads_comma h₂ hr₂
        obtain ⟨k, hk, hfails⟩ := fails_members ms hlegible.2.2 hs h₃
        refine ⟨k + (1 + (m + 2)), ?_, ((hread.trans hvalue).trans hcomma).fails hfails⟩
        simp only [Members.chars, Json.Name.chars, Json.literal, List.length_append,
          List.length_cons]
        omega

end

/-! ## Documents -/

/-- A tree that is in brackets: the first one as a character and as a token, and what is behind. -/
inductive Opens : Source → Char → Token → List Char → Prop
  | array (is : Items) : Opens (.array is) '[' .flowSequenceStart is.chars
  | object (ms : Members) : Opens (.object ms) '\x7b' .flowMappingStart ms.chars

section

variable {s : Source} {c : Char} {t : Token} {cs r : List Char} {l : Lexer}

theorem Opens.chars_eq (h : Opens s c t cs) : s.chars = c :: cs := by
  cases h <;> rfl

theorem Opens.isSolid (h : Opens s c t cs) : isSolid c = true := by
  cases h <;> rfl

theorem reads_inner (ho : Opens s c t cs) (hs : s.all Mark.portable = true)
    (h : Found [t] 1 true (cs ++ r) l) :
    ∃ n l', n ≤ cs.length ∧ Reads n l l' ∧ Found s.tokens.reverse 0 false r l' := by
  cases ho with
  | array is =>
    obtain ⟨n, l', hn, hread, hfound⟩ := reads_items is hs h
    exact ⟨n, l', hn, hread, by simpa [Source.tokens] using hfound⟩
  | object ms =>
    obtain ⟨n, l', hn, hread, hfound⟩ := reads_members ms hs h
    exact ⟨n, l', hn, hread, by simpa [Source.tokens] using hfound⟩

theorem fails_inner (ho : Opens s c t cs) (hlegible : s.all Mark.legible = true)
    (hs : s.all Mark.portable = false) (h : Found [t] 1 true (cs ++ r) l) :
    ∃ n, n ≤ cs.length ∧ Fails n l := by
  cases ho with
  | array is => exact fails_items is hlegible hs h
  | object ms => exact fails_members ms hlegible hs h

theorem optional_none : Optional [none] := fun k hk p hp => by
  rw [List.mem_singleton.1 hk] at hp
  cases hp

/-- The bracket of a document, outside of all flows. -/
theorem reads_root (ho : Opens s c t cs) (b : Space) (hb : TabsFit 0 true b.chars) (r : List Char)
    (spot : Spot) : ∃ l', Reads 1 (noBlock [] 0 [none] true ⟨b.chars ++ c :: r, spot⟩) l' ∧
      Found [t] 1 true r l' := by
  obtain ⟨allowed', spot', -, -, -, hrun⟩ :=
    run_cons optional_none [] (List.all_eq_true.2 b.blank) ho.isSolid hb spot r
  obtain ⟨l', hl', hfound⟩ := openFlow_noBlock [] 0 allowed' spot' r c (optional_none.fresh spot') t
  refine ⟨l', fun fuel => ?_, hfound⟩
  rw [hrun, ← Option.bind_some l' (run fuel), ← hl']
  cases ho <;> simp [lexToken, isDocumentMark]

end

end Steading.Yaml.Lexer

namespace Steading.Yaml

open Json (Document Mark)
open Lexer

namespace Token

variable {d : Document} {c : Char} {t : Token} {cs : List Char}

theorem start_eq (ho : Opens d.root c t cs) : Lexer.ofText d.text =
    noBlock [] 0 [none] true ⟨d.before.chars ++ c :: (cs ++ d.after.chars), ⟨0, 0, 0⟩⟩ := by
  simp [Lexer.ofText, Cursor.ofText, Document.text, Document.chars, ho.chars_eq, noBlock]

/-- A document with allowed characters is read from behind its first bracket on. -/
theorem exists_ofText? (ho : Opens d.root c t cs) (hallowed : d.text.toList.all isAllowed = true)
    (hbefore : TabsFit 0 true d.before.chars) : ∃ l, Found [t] 1 true (cs ++ d.after.chars) l ∧
      ofText? d.text = l.run (d.before.chars.length + cs.length + d.after.chars.length + 1) := by
  obtain ⟨l, hopen, hfound⟩ :=
    reads_root ho d.before hbefore (cs ++ d.after.chars) ⟨0, 0, 0⟩
  refine ⟨l, hfound, ?_⟩
  have hlength : d.text.length =
      d.before.chars.length + cs.length + d.after.chars.length + 1 := by
    rw [Document.text, String.length_ofList, Document.chars, ho.chars_eq]
    simp only [List.length_append, List.length_cons]
    omega
  rw [ofText?, if_pos hallowed, start_eq ho, hlength, hopen]

theorem ofText?_half (ho : Opens d.root c t cs) (hallowed : d.text.toList.all isAllowed = true)
    (hbefore : TabsFit 0 true d.before.chars) (hlegible : d.root.all Mark.legible = true)
    (hhalf : d.root.all Mark.portable = false) : ofText? d.text = none := by
  obtain ⟨l, h, hread⟩ := exists_ofText? ho hallowed hbefore
  obtain ⟨n, hn, hfails⟩ := fails_inner ho hlegible hhalf h
  have hfuel : d.before.chars.length + cs.length + d.after.chars.length + 1 =
      (d.before.chars.length + (cs.length - n) + d.after.chars.length + 1) + n := by omega
  rw [hread, hfuel, hfails]

theorem ofText?_tab (ho : Opens d.root c t cs) (hbefore : ¬ TabsFit 0 true d.before.chars) :
    ofText? d.text = none := by
  have hfails := fails_tab optional_none [] (List.all_eq_true.2 d.before.blank) hbefore
    (stops_cons ho.isSolid (cs ++ d.after.chars))
  rw [ofText?, start_eq ho, hfails, ite_self]

/-- Behind the root there is only the end of the text, or a tab that is not skipped. -/
theorem ofText?_flow (ho : Opens d.root c t cs) (hallowed : d.text.toList.all isAllowed = true)
    (hbefore : TabsFit 0 true d.before.chars) (hportable : d.root.all Mark.portable = true) :
    (TabsFit 0 false d.after.chars → ofText? d.text = some d.root.tokens) ∧
      (¬ TabsFit 0 false d.after.chars → ofText? d.text = none) := by
  obtain ⟨l, h, hread⟩ := exists_ofText? ho hallowed hbefore
  obtain ⟨n, l', hn, hinner, keys, ⟨rest, spot⟩, hk, rfl, rfl⟩ := reads_inner ho hportable h
  have hfuel : d.before.chars.length + cs.length + d.after.chars.length + 1 =
      (d.before.chars.length + (cs.length - n) + d.after.chars.length + 1) + n := by omega
  have hblank : d.after.chars.all Json.isSpace = true := List.all_eq_true.2 d.after.blank
  rw [hread, hfuel, hinner]
  constructor
  · intro hafter
    rw [run_nil hk hblank hafter, List.reverse_reverse]
  · intro hafter
    have hfails := fails_tab hk d.root.tokens.reverse hblank hafter stops_nil spot
    rw [List.append_nil] at hfails
    exact hfails _

theorem untabbed_iff :
    d.untabbed = true ↔ TabsFit 0 true d.before.chars ∧ TabsFit 0 false d.after.chars := by
  simp [Document.untabbed, TabsFit]

/-- A document in brackets has the tokens of its tree, if all elements of its strings are portable
and its tabs stand where they may, and none otherwise. -/
theorem ofText?_text (ho : Opens d.root c t cs) (hd : d.unbroken = true) : ofText? d.text =
    if d.root.all Mark.portable && d.untabbed then some d.root.tokens else none := by
  have hallowed := Document.allowed_eq hd
  by_cases hbefore : TabsFit 0 true d.before.chars
  · cases hlegible : d.root.all Mark.legible with
    | false =>
      rw [hlegible] at hallowed
      have hportable : d.root.all Mark.portable = false := by
        rw [Bool.eq_false_iff]
        intro h
        rw [d.root.all_mono Mark.legible_of_portable h] at hlegible
        cases hlegible
      rw [ofText?, hallowed, hportable]
      rfl
    | true =>
      rw [hlegible] at hallowed
      cases hportable : d.root.all Mark.portable with
      | false => exact ofText?_half ho hallowed hbefore hlegible hportable
      | true =>
        obtain ⟨hends, hfails⟩ := ofText?_flow ho hallowed hbefore hportable
        cases huntabbed : d.untabbed with
        | true => exact hends (untabbed_iff.1 huntabbed).2
        | false =>
          refine hfails fun hafter => ?_
          rw [untabbed_iff.2 ⟨hbefore, hafter⟩] at huntabbed
          cases huntabbed
  · have huntabbed : d.untabbed = false :=
      Bool.eq_false_iff.2 fun h => hbefore (untabbed_iff.1 h).1
    rw [ofText?_tab ho hbefore, huntabbed, Bool.and_false]
    rfl

end Token

end Steading.Yaml
