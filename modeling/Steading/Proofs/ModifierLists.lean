import Mathlib.Data.List.FinRange
import Mathlib.Data.List.Forall2
import Mathlib.Data.List.Perm.Subperm
import Steading.Proofs.Spelling

/-!
# Lists of modifiers

A list of entries is read entry by entry, and what has been read so far only says which keys are
taken: either an entry means a modifier of another key and the rest of the list decides, or it is
faulty and the list is refused for it (`Modifier.parseAfter_cons`). So a list is accepted if its
entries mean modifiers of different keys, and else refused for its first faulty entry
(`Modifier.reads_lists`).
-/

namespace Steading

/-- An entry that stands for no modifier or for one whose key an entry `before` it has given, and
what is said of it. -/
inductive ModifierFault (before : List ModifierInput) (i : ModifierInput) : ValidationError → Prop
  | senseless {e : ValidationError} (h : i.Senseless e) : ModifierFault before i e
  | repeated {j : ModifierInput} {m m' : Modifier} (h : i.Means m) (hj : j ∈ before)
      (h' : j.Means m') (hkey : m'.key = m.key) :
      ModifierFault before i (.duplicateModifier m.key)

/-- Behind the entries `before`, the entry at place `n` is faulty, and none ahead of it is. -/
structure FirstFault (before inputs : List ModifierInput) (n : ℕ) (e : ValidationError) : Prop where
  faulty : ∃ i, inputs[n]? = some i ∧ ModifierFault (before ++ inputs.take n) i e
  first : ∀ k < n, ∀ i, inputs[k]? = some i →
    ∀ e', ¬ ModifierFault (before ++ inputs.take k) i e'

/-- Two entries that do not stand for modifiers of one key. -/
def ModifierInput.Apart (i j : ModifierInput) : Prop :=
  ∀ m m', i.Means m → j.Means m' → m.key ≠ m'.key

theorem ModifierInput.Apart.symm {i j : ModifierInput} (h : i.Apart j) : j.Apart i :=
  fun m m' hm hm' hkey => h m' m hm' hm hkey.symm

section

variable {before inputs : List ModifierInput} {i : ModifierInput} {e e' : ValidationError} {n : ℕ}

theorem firstFault_zero_iff : FirstFault before (i :: inputs) 0 e ↔ ModifierFault before i e := by
  constructor
  · rintro ⟨⟨j, hj, hfault⟩, -⟩
    obtain rfl := Option.some.inj hj
    simpa using hfault
  · intro h
    exact ⟨⟨i, rfl, by simpa using h⟩, nofun⟩

theorem firstFault_succ_iff :
    FirstFault before (i :: inputs) (n + 1) e ↔
      (∀ e', ¬ ModifierFault before i e') ∧ FirstFault (before ++ [i]) inputs n e := by
  constructor
  · rintro ⟨⟨j, hj, hfault⟩, hfirst⟩
    refine ⟨fun e' h => hfirst 0 n.succ_pos i rfl e' (by simpa using h), ⟨j, hj, ?_⟩, ?_⟩
    · simpa using hfault
    · intro k hk j hj e' h
      exact hfirst (k + 1) (Nat.succ_lt_succ hk) j hj e' (by simpa using h)
  · rintro ⟨hhead, ⟨j, hj, hfault⟩, hfirst⟩
    refine ⟨⟨j, hj, by simpa using hfault⟩, fun k hk j hj e' h => ?_⟩
    cases k with
    | zero =>
      obtain rfl := Option.some.inj hj
      exact hhead e' (by simpa using h)
    | succ k => exact hfirst k (Nat.lt_of_succ_lt_succ hk) j hj e' (by simpa using h)

end

namespace Modifier

/-- The entry that gives a modifier as it is. -/
def input (m : Modifier) : ModifierInput :=
  ⟨m.key.name, m.value⟩

theorem means_input {m : Modifier} (h : m.value ∈ m.key.allowed) : m.input.Means m :=
  parse_eq_ok_iff_means.1 (isCanonical_of_allowed h)

theorem exists_key_iff {before : List ModifierInput} {done : List Modifier} {k : ModifierKey}
    (h : List.Forall₂ ModifierInput.Means before done) :
    (∃ d ∈ done, d.key = k) ↔ ∃ i ∈ before, ∃ m, i.Means m ∧ m.key = k := by
  induction h with
  | nil => simp
  | cons hm _ ih =>
    rw [List.exists_mem_cons_iff, List.exists_mem_cons_iff, ih]
    exact or_congr_left ⟨fun h => ⟨_, hm, h⟩, fun ⟨m, h, hkey⟩ => hm.unique h ▸ hkey⟩

section

variable {before inputs : List ModifierInput} {done ms : List Modifier} {e : ValidationError}

/-- Either the entry at the head means a modifier whose key is free, and the rest of the list
decides, or the list is refused for this entry. -/
theorem parseAfter_cons (hdone : List.Forall₂ ModifierInput.Means before done) (i : ModifierInput)
    (inputs : List ModifierInput) :
    (∃ m, i.Means m ∧ (∀ d ∈ done, d.key ≠ m.key) ∧ (∀ e, ¬ ModifierFault before i e) ∧
        parseAfter done (i :: inputs) = (parseAfter (done ++ [m]) inputs).map (m :: ·)) ∨
      ∃ e, (∀ e', ModifierFault before i e' ↔ e' = e) ∧
        (∀ m, i.Means m → ∃ d ∈ done, d.key = m.key) ∧
        parseAfter done (i :: inputs) = .error e := by
  rcases i.means_or_senseless with ⟨m, hm⟩ | ⟨e, he⟩
  · have hparse := parse_eq_ok_iff_means.2 hm
    by_cases htaken : ∃ d ∈ done, d.key = m.key
    · refine .inr ⟨.duplicateModifier m.key, fun e' => ⟨?_, ?_⟩, fun m' hm' => ?_, ?_⟩
      · rintro (h | ⟨h, -, -, -⟩)
        · exact absurd h hm.not_senseless
        · rw [h.unique hm]
      · rintro rfl
        obtain ⟨j, hj, m', hm', hkey⟩ := (exists_key_iff hdone).1 htaken
        exact .repeated hm hj hm' hkey
      · rwa [hm'.unique hm]
      · have hany : done.any (·.key == m.key) = true := by simpa using htaken
        simp only [parseAfter, hparse, hany, ↓reduceIte]
    · refine .inl ⟨m, hm, fun d hd hkey => htaken ⟨d, hd, hkey⟩, ?_, ?_⟩
      · rintro _ (h | ⟨h, hj, hm', hkey⟩)
        · exact hm.not_senseless h
        · rw [h.unique hm] at hkey
          exact htaken ((exists_key_iff hdone).2 ⟨_, hj, _, hm', hkey⟩)
      · have hany : done.any (·.key == m.key) = false := by simpa using htaken
        simp only [parseAfter, hparse, hany]
        cases parseAfter (done ++ [m]) inputs <;> rfl
  · refine .inr ⟨e, fun e' => ⟨?_, ?_⟩, fun m hm => absurd he hm.not_senseless, ?_⟩
    · rintro (h | ⟨h, -, -, -⟩)
      · exact h.unique he
      · exact absurd he h.not_senseless
    · rintro rfl
      exact .senseless he
    · simp only [parseAfter, parse_eq_error_iff.2 he]

theorem forall₂_concat (hdone : List.Forall₂ ModifierInput.Means before done) {i : ModifierInput}
    {m : Modifier} (hm : i.Means m) :
    List.Forall₂ ModifierInput.Means (before ++ [i]) (done ++ [m]) :=
  List.rel_append hdone (.cons hm .nil)

theorem map_cons_eq_ok_iff {result : Except ValidationError (List Modifier)} {m : Modifier} :
    result.map (m :: ·) = .ok ms ↔ ∃ ps, result = .ok ps ∧ ms = m :: ps := by
  cases result <;> simp [Except.map, eq_comm]

theorem map_cons_eq_error_iff {result : Except ValidationError (List Modifier)} {m : Modifier} :
    result.map (m :: ·) = .error e ↔ result = .error e := by
  cases result <;> simp [Except.map]

theorem parseAfter_eq_ok_iff (hdone : List.Forall₂ ModifierInput.Means before done) :
    parseAfter done inputs = .ok ms ↔
      List.Forall₂ ModifierInput.Means inputs ms ∧ (ms.map (·.key)).Nodup ∧
        ∀ m ∈ ms, ∀ d ∈ done, d.key ≠ m.key := by
  induction inputs generalizing before done ms with
  | nil =>
    rw [parseAfter, List.forall₂_nil_left_iff]
    constructor
    · rintro ⟨⟩
      simp
    · rintro ⟨rfl, -⟩
      rfl
  | cons i inputs ih =>
    rcases parseAfter_cons hdone i inputs with ⟨m, hm, hfree, -, hparse⟩ | ⟨e, -, htaken, hparse⟩
    · have hrest := fun ps => @ih _ _ ps (forall₂_concat hdone hm)
      simp only [List.forall_mem_append, List.forall_mem_singleton] at hrest
      rw [hparse, map_cons_eq_ok_iff]
      constructor
      · rintro ⟨ps, hps, rfl⟩
        obtain ⟨hmeans, hnodup, hkeys⟩ := (hrest ps).1 hps
        refine ⟨.cons hm hmeans, List.nodup_cons.2 ⟨?_, hnodup⟩,
          List.forall_mem_cons.2 ⟨hfree, fun p hp => (hkeys p hp).1⟩⟩
        intro hmem
        obtain ⟨p, hp, hkey⟩ := List.mem_map.1 hmem
        exact (hkeys p hp).2 hkey.symm
      · rintro ⟨_ | ⟨hm', hmeans⟩, hnodup, hkeys⟩
        rename_i ps
        obtain rfl := hm.unique hm'
        obtain ⟨hnew, hnodup⟩ := List.nodup_cons.1 hnodup
        refine ⟨ps, (hrest ps).2 ⟨hmeans, hnodup, fun p hp => ⟨?_, ?_⟩⟩, rfl⟩
        · exact (List.forall_mem_cons.1 hkeys).2 p hp
        · exact fun hkey => hnew (List.mem_map.2 ⟨p, hp, hkey.symm⟩)
    · rw [hparse]
      refine ⟨nofun, ?_⟩
      rintro ⟨_ | ⟨hm, -⟩, -, hfree⟩
      obtain ⟨d, hd, hkey⟩ := htaken _ hm
      exact absurd hkey (hfree _ List.mem_cons_self d hd)

theorem parseAfter_eq_error_iff (hdone : List.Forall₂ ModifierInput.Means before done) :
    parseAfter done inputs = .error e ↔ ∃ n, FirstFault before inputs n e := by
  induction inputs generalizing before done with
  | nil =>
    rw [parseAfter]
    refine ⟨nofun, ?_⟩
    rintro ⟨n, ⟨i, hi, -⟩, -⟩
    cases hi
  | cons i inputs ih =>
    rcases parseAfter_cons hdone i inputs with ⟨m, hm, -, hsound, hparse⟩ | ⟨e', hfault, -, hparse⟩
    · rw [hparse, map_cons_eq_error_iff, ih (forall₂_concat hdone hm)]
      constructor
      · rintro ⟨n, h⟩
        exact ⟨n + 1, firstFault_succ_iff.2 ⟨hsound, h⟩⟩
      · rintro ⟨n, h⟩
        cases n with
        | zero => exact absurd (firstFault_zero_iff.1 h) (hsound e)
        | succ n => exact ⟨n, (firstFault_succ_iff.1 h).2⟩
    · rw [hparse]
      constructor
      · rintro ⟨⟩
        exact ⟨0, firstFault_zero_iff.2 ((hfault _).2 rfl)⟩
      · rintro ⟨n, h⟩
        cases n with
        | zero => rw [(hfault _).1 (firstFault_zero_iff.1 h)]
        | succ n => exact absurd ((hfault _).2 rfl) ((firstFault_succ_iff.1 h).1 e')

end

section

variable {inputs inputs' : List ModifierInput} {ms : List Modifier}

theorem parseAll_eq_ok_iff :
    parseAll inputs = .ok ms ↔
      List.Forall₂ ModifierInput.Means inputs ms ∧ (ms.map (·.key)).Nodup := by
  rw [parseAll, parseAfter_eq_ok_iff .nil]
  simp

theorem exists_of_mem (h : List.Forall₂ ModifierInput.Means inputs ms) {m : Modifier}
    (hm : m ∈ ms) : ∃ i ∈ inputs, i.Means m := by
  induction h with
  | nil => cases hm
  | cons hhead _ ih =>
    cases hm with
    | head => exact ⟨_, List.mem_cons_self, hhead⟩
    | tail _ hm =>
      obtain ⟨i, hi, hmeans⟩ := ih hm
      exact ⟨i, List.mem_cons_of_mem _ hi, hmeans⟩

theorem of_parseAll (h : parseAll inputs = .ok ms) :
    (ms.map (·.key)).Nodup ∧ ∀ m ∈ ms, m.value ∈ m.key.allowed := by
  obtain ⟨hmeans, hnodup⟩ := parseAll_eq_ok_iff.1 h
  refine ⟨hnodup, fun m hm => ?_⟩
  obtain ⟨i, -, hi⟩ := exists_of_mem hmeans hm
  exact hi.allowed

theorem length_le_of_nodup_keys (h : (ms.map (·.key)).Nodup) : ms.length ≤ 5 := by
  have hsub : ms.map (·.key) ⊆ ModifierKey.all := fun k _ => by cases k <;> decide
  calc ms.length = (ms.map (·.key)).length := by rw [List.length_map]
    _ ≤ ModifierKey.all.length := (h.subperm hsub).length_le

theorem parseAll_map_input (h : parseAll inputs = .ok ms) : parseAll (ms.map input) = .ok ms := by
  obtain ⟨hnodup, hallowed⟩ := of_parseAll h
  refine parseAll_eq_ok_iff.2 ⟨List.forall₂_map_left_iff.2 (List.forall₂_same.2 ?_), hnodup⟩
  exact fun m hm => means_input (hallowed m hm)

theorem exists_forall₂_iff :
    (∃ ms, List.Forall₂ ModifierInput.Means inputs ms) ↔ ∀ i ∈ inputs, ∃ m, i.Means m := by
  induction inputs with
  | nil => simp
  | cons i inputs ih =>
    rw [List.forall_mem_cons, ← ih]
    constructor
    · rintro ⟨_, _ | ⟨hm, hms⟩⟩
      exact ⟨⟨_, hm⟩, ⟨_, hms⟩⟩
    · rintro ⟨⟨m, hm⟩, ms, hms⟩
      exact ⟨m :: ms, .cons hm hms⟩

theorem nodup_keys_iff (h : List.Forall₂ ModifierInput.Means inputs ms) :
    (ms.map (·.key)).Nodup ↔ inputs.Pairwise ModifierInput.Apart := by
  induction h with
  | nil => simp
  | @cons i m inputs ms hm hms ih =>
    have hhead : m.key ∉ ms.map (·.key) ↔ ∀ j ∈ inputs, i.Apart j := by
      rw [List.mem_map, exists_key_iff hms]
      constructor
      · intro hfree j hj m₁ m₂ hm₁ hm₂ hkey
        rw [hm.unique hm₁] at hfree
        exact hfree ⟨j, hj, m₂, hm₂, hkey.symm⟩
      · rintro hapart ⟨j, hj, m', hm', hkey⟩
        exact hapart j hj m m' hm hm' hkey.symm
    rw [List.map_cons, List.nodup_cons, List.pairwise_cons, hhead, ih]

theorem exists_parseAll_iff :
    (∃ ms, parseAll inputs = .ok ms) ↔
      (∀ i ∈ inputs, ∃ m, i.Means m) ∧ inputs.Pairwise ModifierInput.Apart := by
  simp only [parseAll_eq_ok_iff]
  rw [← exists_forall₂_iff]
  constructor
  · rintro ⟨ms, hmeans, hnodup⟩
    exact ⟨⟨ms, hmeans⟩, (nodup_keys_iff hmeans).1 hnodup⟩
  · rintro ⟨⟨ms, hmeans⟩, hapart⟩
    exact ⟨ms, hmeans, (nodup_keys_iff hmeans).2 hapart⟩

theorem exists_parseAll_of_perm (h : inputs.Perm inputs') :
    (∃ ms, parseAll inputs = .ok ms) ↔ ∃ ms, parseAll inputs' = .ok ms := by
  rw [exists_parseAll_iff, exists_parseAll_iff, h.pairwise_iff ModifierInput.Apart.symm]
  exact and_congr_left' ⟨fun hall i hi => hall i (h.mem_iff.2 hi),
    fun hall i hi => hall i (h.mem_iff.1 hi)⟩

theorem parseAll_ofFn_iff {n : ℕ} {i : Fin n → ModifierInput} {m : Fin n → Modifier} :
    parseAll (List.ofFn i) = .ok (List.ofFn m) ↔
      (∀ k, (i k).Means (m k)) ∧ Function.Injective fun k => (m k).key := by
  have hmeans : List.Forall₂ ModifierInput.Means (List.ofFn i) (List.ofFn m) ↔
      ∀ k, (i k).Means (m k) := by
    rw [List.forall₂_iff_get]
    simp [Fin.forall_iff]
  rw [parseAll_eq_ok_iff, hmeans, List.map_ofFn, List.nodup_ofFn]
  rfl

/-- Of a list that is accepted the modifiers come in the order of the entries. -/
theorem parseAll_permuted_iff {n : ℕ} (i : Fin n → ModifierInput) (m : Fin n → Modifier)
    (σ : Equiv.Perm (Fin n)) :
    parseAll (List.ofFn (i ∘ σ)) = .ok (List.ofFn (m ∘ σ)) ↔
      parseAll (List.ofFn i) = .ok (List.ofFn m) := by
  rw [parseAll_ofFn_iff, parseAll_ofFn_iff]
  exact and_congr (σ.forall_congr_right (q := fun k => (i k).Means (m k)))
    (σ.injective_comp fun k => (m k).key)

end

/-- A list is accepted if its entries mean modifiers, and no two of them the same key. What it comes
to are these modifiers in their order, at most five, and written as entries they are read as
themselves. Otherwise what is said of the first faulty entry is said of the list. Another order of
the entries does not make a list acceptable, and puts the modifiers into that order. -/
theorem reads_lists (inputs : List ModifierInput) :
    ((∃ ms, parseAll inputs = .ok ms) ↔
        (∀ i ∈ inputs, ∃ m, i.Means m) ∧ inputs.Pairwise ModifierInput.Apart) ∧
      (∀ ms, parseAll inputs = .ok ms →
        List.Forall₂ ModifierInput.Means inputs ms ∧ ms.length = inputs.length ∧ ms.length ≤ 5 ∧
          (ms.map (·.key)).Nodup ∧ parseAll (ms.map input) = .ok ms) ∧
      (∀ e, parseAll inputs = .error e ↔ ∃ n, FirstFault [] inputs n e) ∧
      (∀ inputs', inputs.Perm inputs' →
        ((∃ ms, parseAll inputs = .ok ms) ↔ ∃ ms, parseAll inputs' = .ok ms)) ∧
      ∀ (m : Fin inputs.length → Modifier) (σ : Equiv.Perm (Fin inputs.length)),
        parseAll (List.ofFn fun k => inputs[σ k]) = .ok (List.ofFn (m ∘ σ)) ↔
          parseAll inputs = .ok (List.ofFn m) := by
  refine ⟨exists_parseAll_iff, fun ms h => ?_, fun e => parseAfter_eq_error_iff .nil,
    fun inputs' h => exists_parseAll_of_perm h, fun m σ => ?_⟩
  · obtain ⟨hmeans, hnodup⟩ := parseAll_eq_ok_iff.1 h
    exact ⟨hmeans, hmeans.length_eq.symm, length_le_of_nodup_keys hnodup, hnodup,
      parseAll_map_input h⟩
  · have hpermuted := parseAll_permuted_iff inputs.get m σ
    rwa [List.ofFn_get] at hpermuted

/-- Capitals, and blanks of any kind around a word, do not matter. -/
theorem reads_lists_of_capitals :
    let inputs : List ModifierInput := [⟨" Raids\t", "NONE"⟩, ⟨"combat", "\u2003Hard\u00a0"⟩]
    let ms : List Modifier := [⟨.raids, "none"⟩, ⟨.combat, "hard"⟩]
    parseAll inputs = .ok ms ∧ inputs.Perm inputs.reverse ∧ (ms.map (·.key)).Nodup ∧
      parseAll (ms.map input) = .ok ms ∧ ∃ ms', parseAll inputs.reverse = .ok ms' := by
  intro inputs ms
  have h : parseAll inputs = .ok ms := by decide +kernel
  have hperm : inputs.Perm inputs.reverse := inputs.reverse_perm.symm
  obtain ⟨-, haccepted, -, hreordered, -⟩ := reads_lists inputs
  obtain ⟨-, -, -, hnodup, hagain⟩ := haccepted ms h
  exact ⟨h, hperm, hnodup, hagain, (hreordered _ hperm).1 ⟨ms, h⟩⟩

end Modifier

end Steading
