import Mathlib.Data.List.DropRight
import Steading.Proofs.Modifiers

/-!
# How modifiers are spelled

What is left of a text between the blanks at its ends is told without saying how it is cut out
(`Text.Trims`), and so is which word a text spells. An entry of a request means a modifier if it
spells the name of the key and a value of the key's domain; that is when it is read, and the two
ways in which an entry can be wrong are when it is refused (`Modifier.parse_eq_error_iff`).
-/

namespace Steading

namespace Text

/-- Around `t` there are only blanks in `s`, and `t` has none at its ends. -/
structure Trims (s t : String) : Prop where
  around : ∃ front back, s.toList = front ++ t.toList ++ back ∧
    (∀ c ∈ front, isBlank c = true) ∧ ∀ c ∈ back, isBlank c = true
  head : ∀ c ∈ t.toList.head?, isBlank c = false
  last : ∀ c ∈ t.toList.getLast?, isBlank c = false

theorem trimBlanks_append {front cs back : List Char} (hfront : ∀ c ∈ front, isBlank c = true)
    (hback : ∀ c ∈ back, isBlank c = true) (hhead : ∀ c ∈ cs.head?, isBlank c = false)
    (hlast : ∀ c ∈ cs.getLast?, isBlank c = false) : trimBlanks (front ++ cs ++ back) = cs := by
  rw [trimBlanks, List.append_assoc, List.dropWhile_append_of_pos hfront]
  cases cs with
  | nil =>
    have hnil : back.dropWhile isBlank = [] := List.dropWhile_eq_nil_iff.2 hback
    rw [List.nil_append, hnil]
    rfl
  | cons c cs =>
    have hkept : (c :: cs).rdropWhile isBlank = c :: cs :=
      List.rdropWhile_eq_self_iff.2 fun hne =>
        Bool.eq_false_iff.1 (hlast _ (List.getLast?_eq_some_getLast hne))
    rw [List.cons_append, List.dropWhile_cons_of_neg (Bool.eq_false_iff.1 (hhead c rfl)),
      ← List.cons_append, List.reverse_append, List.dropWhile_append_of_pos fun b hb =>
        hback b (List.mem_reverse.1 hb)]
    exact hkept

theorem trims_trim (s : String) : Trims s (trim s) := by
  set rest := s.toList.dropWhile isBlank with hrest
  have htrim : (trim s).toList = rest.rdropWhile isBlank := String.toList_ofList
  refine ⟨⟨s.toList.takeWhile isBlank, rest.rtakeWhile isBlank, ?_, ?_, ?_⟩, ?_, ?_⟩
  · rw [htrim, List.append_assoc, List.rdropWhile_append_rtakeWhile, hrest,
      List.takeWhile_append_dropWhile]
  · exact fun c hc => List.mem_takeWhile_imp hc
  · exact fun c hc => List.mem_rtakeWhile_imp hc
  · intro c hc
    obtain ⟨back, hback⟩ := List.rdropWhile_prefix isBlank rest
    have hfirst : c ∈ rest.head? := by
      rw [htrim] at hc
      rw [← hback, List.head?_append, hc]
      rfl
    have hnot := List.head?_dropWhile_not isBlank s.toList
    rw [← hrest, hfirst] at hnot
    exact hnot
  · intro c hc
    rw [htrim] at hc
    obtain ⟨hne, rfl⟩ := List.mem_getLast?_eq_getLast hc
    exact Bool.eq_false_iff.2 (List.rdropWhile_last_not isBlank rest hne)

theorem Trims.eq_trim {s t : String} (h : Trims s t) : t = trim s := by
  obtain ⟨⟨front, back, hs, hfront, hback⟩, hhead, hlast⟩ := h
  rw [trim, hs, trimBlanks_append hfront hback hhead hlast, String.ofList_toList]

theorem trims_iff {s t : String} : Trims s t ↔ trim s = t :=
  ⟨fun h => h.eq_trim.symm, fun h => h ▸ trims_trim s⟩

/-- What is left between the blanks at both ends has none at its ends. -/
theorem trim_trim (s : String) : trim (trim s) = trim s := by
  obtain ⟨-, hhead, hlast⟩ := trims_trim s
  exact trims_iff.1 ⟨⟨[], [], by simp, by simp, by simp⟩, hhead, hlast⟩

/-- But for blanks around it and capital letters in it, `s` is the word `w`. -/
def Spells (s w : String) : Prop :=
  ∃ t, Trims s t ∧ lower t = w

theorem spells_iff {s w : String} : Spells s w ↔ modifierWord s = w := by
  constructor
  · rintro ⟨t, ht, rfl⟩
    rw [modifierWord, trims_iff.1 ht]
  · rintro rfl
    exact ⟨trim s, trims_trim s, rfl⟩

end Text

namespace ModifierInput

/-- The modifier that an entry of a request stands for. -/
structure Means (i : ModifierInput) (m : Modifier) : Prop where
  key : Text.Spells i.key m.key.name
  value : Text.Spells i.value m.value
  allowed : m.value ∈ m.key.allowed

/-- An entry that stands for no modifier, and what is said of it. -/
inductive Senseless (i : ModifierInput) : ValidationError → Prop
  | unknownKey (h : ∀ k : ModifierKey, ¬ Text.Spells i.key k.name) :
      Senseless i (.unknownModifier i.key)
  | foreignValue {k : ModifierKey} (hk : Text.Spells i.key k.name)
      (h : ∀ v ∈ k.allowed, ¬ Text.Spells i.value v) : Senseless i (.modifierValue k i.value)

end ModifierInput

theorem ModifierKey.ofName?_eq_some_iff {s : String} {k : ModifierKey} :
    ofName? s = some k ↔ s = k.name := by
  constructor
  · intro h
    rw [ofName?] at h
    have hname := List.find?_some h
    exact (beq_iff_eq.1 hname).symm
  · rintro rfl
    exact ofName?_name k

theorem ModifierKey.parse_iff_spells {s : String} {k : ModifierKey} :
    parse s = .ok k ↔ Text.Spells s k.name := by
  rw [parse_eq_ok_iff, ofName?_eq_some_iff, Text.spells_iff]

namespace Modifier

theorem parse_eq_ok_iff_means {i : ModifierInput} {m : Modifier} :
    parse i.key i.value = .ok m ↔ i.Means m := by
  rw [parse_eq_ok_iff, ModifierKey.parse_iff_spells, ← Text.spells_iff]
  exact ⟨fun ⟨hkey, hvalue, hallowed⟩ => ⟨hkey, hvalue, hallowed⟩,
    fun ⟨hkey, hvalue, hallowed⟩ => ⟨hkey, hvalue, hallowed⟩⟩

theorem parse_eq_error_iff {i : ModifierInput} {e : ValidationError} :
    parse i.key i.value = .error e ↔ i.Senseless e := by
  have hread : ∀ {k}, ModifierKey.ofName? (modifierWord i.key) = some k ↔
      Text.Spells i.key k.name := by
    intro k
    rw [ModifierKey.ofName?_eq_some_iff, Text.spells_iff]
  constructor
  · intro h
    rw [parse, ModifierKey.parse] at h
    cases hkey : ModifierKey.ofName? (modifierWord i.key) with
    | none =>
      rw [hkey] at h
      cases h
      refine .unknownKey fun k hk => ?_
      rw [hread.2 hk] at hkey
      cases hkey
    | some k =>
      rw [hkey] at h
      dsimp only at h
      split_ifs at h with hallowed
      cases h
      refine .foreignValue (hread.1 hkey) fun v hv hvalue => ?_
      rw [Text.spells_iff.1 hvalue] at hallowed
      exact hallowed hv
  · intro h
    rw [parse, ModifierKey.parse]
    cases h with
    | unknownKey h =>
      have hnone : ModifierKey.ofName? (modifierWord i.key) = none :=
        Option.eq_none_iff_forall_ne_some.2 fun k hk => h k (hread.1 hk)
      rw [hnone]
    | foreignValue hk h =>
      rw [hread.2 hk]
      exact if_neg fun hallowed => h _ hallowed (Text.spells_iff.2 rfl)

end Modifier

namespace ModifierInput

variable {i : ModifierInput} {m m' : Modifier} {e e' : ValidationError}

theorem Means.unique (h : i.Means m) (h' : i.Means m') : m = m' := by
  rw [← Modifier.parse_eq_ok_iff_means] at h h'
  exact Except.ok.inj (h.symm.trans h')

theorem Senseless.unique (h : i.Senseless e) (h' : i.Senseless e') : e = e' := by
  rw [← Modifier.parse_eq_error_iff] at h h'
  exact Except.error.inj (h.symm.trans h')

theorem Means.not_senseless (h : i.Means m) : ¬ i.Senseless e := by
  intro h'
  rw [← Modifier.parse_eq_ok_iff_means] at h
  rw [← Modifier.parse_eq_error_iff] at h'
  cases h.symm.trans h'

theorem means_or_senseless (i : ModifierInput) : (∃ m, i.Means m) ∨ ∃ e, i.Senseless e := by
  cases h : Modifier.parse i.key i.value with
  | ok m => exact .inl ⟨m, Modifier.parse_eq_ok_iff_means.1 h⟩
  | error e => exact .inr ⟨e, Modifier.parse_eq_error_iff.1 h⟩

end ModifierInput

end Steading
