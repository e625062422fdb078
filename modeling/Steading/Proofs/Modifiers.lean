import Mathlib.Tactic.SplitIfs
import Steading.Proofs.Rows

/-!
# Modifiers that are accepted

An entry is accepted if its key has a name and its value is of the key's domain
(`Modifier.parse_eq_ok_iff`). The names of the keys and the values of the domains are written the
way they are compared, so an accepted modifier is read again as it is written
(`Modifier.isCanonical_of_allowed`).
-/

namespace Steading

theorem modifierWord_name (k : ModifierKey) : modifierWord k.name = k.name := by
  cases k <;> decide

theorem modifierWord_of_allowed {k : ModifierKey} {v : String} (h : v ∈ k.allowed) :
    modifierWord v = v := by
  revert v
  cases k <;> decide

theorem ModifierKey.parse_eq_ok_iff {text : String} {k : ModifierKey} :
    parse text = .ok k ↔ ofName? (modifierWord text) = some k := by
  rw [parse]
  split <;> simp [*]

namespace Modifier

theorem parse_eq_ok_iff {key value : String} {m : Modifier} :
    parse key value = .ok m ↔
      ModifierKey.parse key = .ok m.key ∧ modifierWord value = m.value ∧
        m.value ∈ m.key.allowed := by
  obtain ⟨k, v⟩ := m
  rw [parse]
  rcases ModifierKey.parse key with e | k'
  · simp
  · dsimp only
    constructor
    · intro h
      split_ifs at h with hallowed
      cases h
      exact ⟨rfl, rfl, hallowed⟩
    · rintro ⟨hk, rfl, hallowed⟩
      obtain rfl := Except.ok.inj hk
      rw [if_pos hallowed]

theorem isCanonical_of_allowed {m : Modifier} (h : m.value ∈ m.key.allowed) : m.IsCanonical := by
  refine parse_eq_ok_iff.2 ⟨ModifierKey.parse_eq_ok_iff.2 ?_, modifierWord_of_allowed h, h⟩
  rw [modifierWord_name, ModifierKey.ofName?_name]

end Modifier

end Steading
