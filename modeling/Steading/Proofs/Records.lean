import Mathlib.Tactic.SplitIfs
import Steading.Cluster.Simulated
import Steading.Store.Memory

/-!
# Records by tenant

What a store keeps, whatever it keeps it in: at most one record a tenant. `Records.answer` says what
every call answers and changes, and answers nothing where a store has to refuse the call.

The store in memory does exactly that (`MemoryStore.records_answer`).
-/

namespace Steading

abbrev Records : Type :=
  TenantId → Option ServerRecord

namespace Records

def empty : Records :=
  fun _ => none

def answer (f : Records) : (c : StoreCall) → Option c.Reply × Records
  | .find t => (some (f t), f)
  | .save r =>
    match f r.server.tenant with
    | some _ => (none, f)
    | none => (some (), setAt f r.server.tenant (some r))
  | .update server =>
    match f server.tenant with
    | none => (none, f)
    | some r =>
      (some (), setAt f server.tenant
        (some { r with server := { server with createdAt := r.server.createdAt } }))
  | .updateWorld t world name details =>
    match f t with
    | some r =>
      if r.world.world = world ∧ r.world.name = name then
        (some true, setAt f t (some { r with world := details }))
      else (some false, f)
    | none => (some false, f)
  | .delete t => (some (f t).isSome, setAt f t none)

theorem answer_save {f : Records} {r : ServerRecord} (h : f r.server.tenant = none) :
    f.answer (.save r) = (some (), setAt f r.server.tenant (some r)) := by
  rw [answer, h]

theorem answer_update {f : Records} {old r : ServerRecord} (h : f r.server.tenant = some old)
    (hworld : r.world = old.world) (hcreated : r.server.createdAt = old.server.createdAt) :
    f.answer (.update r.server) = (some (), setAt f r.server.tenant (some r)) := by
  simp only [answer, h]
  rw [← hcreated, ← hworld]

theorem answer_updateWorld {f : Records} {t : TenantId} {r : ServerRecord} (h : f t = some r)
    (details : WorldDetails) :
    f.answer (.updateWorld t r.world.world r.world.name details) =
      (some true, setAt f t (some { r with world := details })) := by
  simp [answer, h]

/-- The records that calls one after the other leave. -/
def after (f : Records) (cs : List StoreCall) : Records :=
  cs.foldl (fun f c => (f.answer c).2) f

/-- Every record stays with its own tenant. -/
theorem keyed_answer {f : Records} (hf : ∀ t r, f t = some r → r.server.tenant = t)
    {c : StoreCall} : ∀ t r, (f.answer c).2 t = some r → r.server.tenant = t := by
  cases c with
  | find t => exact hf
  | save new =>
    simp only [answer]
    split
    · exact hf
    · exact forall_setAt hf fun r hr => by rw [← Option.some.inj hr]
  | update server =>
    simp only [answer]
    split
    · exact hf
    · exact forall_setAt hf fun r hr => by rw [← Option.some.inj hr]
  | updateWorld t world name details =>
    simp only [answer]
    split
    · rename_i old hold
      split_ifs
      · refine forall_setAt hf fun r hr => ?_
        rw [← Option.some.inj hr]
        exact hf t old hold
      · exact hf
    · exact hf
  | delete t => exact forall_setAt hf fun r hr => by cases hr

/-- A record that is not deleted keeps the time it was created. -/
theorem createdAt_answer {f : Records} {c : StoreCall} {t : TenantId} {r : ServerRecord}
    (hr : f t = some r) (hc : c ≠ .delete t) :
    ∃ r', (f.answer c).2 t = some r' ∧ r'.server.createdAt = r.server.createdAt := by
  cases c with
  | find t' => exact ⟨r, hr, rfl⟩
  | save new =>
    simp only [answer]
    split
    · exact ⟨r, hr, rfl⟩
    · rename_i hnew
      have ht : t ≠ new.server.tenant := by
        rintro rfl
        simp [hr] at hnew
      exact ⟨r, (setAt_of_ne ht).trans hr, rfl⟩
  | update server =>
    simp only [answer]
    split
    · exact ⟨r, hr, rfl⟩
    · rename_i old hold
      by_cases ht : t = server.tenant
      · subst ht
        rw [hr] at hold
        cases hold
        exact ⟨_, setAt_same _ _ _, rfl⟩
      · exact ⟨r, (setAt_of_ne ht).trans hr, rfl⟩
  | updateWorld t' world name details =>
    simp only [answer]
    split
    · rename_i old hold
      split_ifs
      · by_cases ht : t = t'
        · subst ht
          rw [hr] at hold
          cases hold
          exact ⟨_, setAt_same _ _ _, rfl⟩
        · exact ⟨r, (setAt_of_ne ht).trans hr, rfl⟩
      · exact ⟨r, hr, rfl⟩
    · exact ⟨r, hr, rfl⟩
  | delete t' =>
    have ht : t ≠ t' := by
      rintro rfl
      exact hc rfl
    exact ⟨r, (setAt_of_ne ht).trans hr, rfl⟩

theorem createdAt_after {t : TenantId} :
    ∀ {cs : List StoreCall} {f : Records} {r : ServerRecord}, f t = some r →
      (∀ c ∈ cs, c ≠ .delete t) →
        ∃ r', f.after cs t = some r' ∧ r'.server.createdAt = r.server.createdAt
  | [], f, r, hr, _ => ⟨r, hr, rfl⟩
  | c :: cs, f, r, hr, hcs => by
    obtain ⟨hc, hcs⟩ := List.forall_mem_cons.1 hcs
    obtain ⟨r₁, hr₁, h₁⟩ := createdAt_answer hr hc
    obtain ⟨r₂, hr₂, h₂⟩ := createdAt_after hr₁ hcs
    exact ⟨r₂, hr₂, h₂.trans h₁⟩

end Records

namespace MemoryStore

theorem find?_cons (t : TenantId) (row : TenantId × ServerRecord)
    (rows : List (TenantId × ServerRecord)) :
    find? ⟨row :: rows⟩ t = if t = row.1 then some row.2 else find? ⟨rows⟩ t := by
  unfold find?
  rw [List.lookup_cons]
  by_cases h : t = row.1
  · rw [h, beq_self_eq_true, if_pos rfl]
  · rw [beq_eq_false_iff_ne.2 h, if_neg h]

theorem find?_eq_none_iff (s : MemoryStore) (t : TenantId) :
    s.find? t = none ↔ ∀ row ∈ s.rows, row.1 ≠ t := by
  simp only [find?, List.lookup_eq_none_iff, bne_iff_ne, ne_comm]

theorem find?_erase (t : TenantId) : ∀ s : MemoryStore, (s.erase t).find? = setAt s.find? t none
  | ⟨[]⟩ => by
    funext t'
    by_cases h : t' = t <;> simp [find?, erase, setAt, h]
  | ⟨row :: rows⟩ => by
    funext t'
    have ih := congrFun (find?_erase t ⟨rows⟩) t'
    unfold erase at ih ⊢
    rw [List.filter_cons]
    by_cases hrow : row.1 = t
    · simp only [hrow, ne_eq, not_true_eq_false, decide_false, Bool.false_eq_true, ↓reduceIte]
      rw [ih]
      by_cases h : t' = t
      · simp [h]
      · rw [setAt_of_ne h, setAt_of_ne h, find?_cons, hrow, if_neg h]
    · simp only [hrow, ne_eq, not_false_eq_true, decide_true, ↓reduceIte]
      rw [find?_cons, ih]
      by_cases h : t' = t
      · rw [h, setAt_same, setAt_same, if_neg (Ne.symm hrow)]
      · rw [setAt_of_ne h, setAt_of_ne h, find?_cons]

theorem find?_modify (t : TenantId) (g : ServerRecord → ServerRecord) :
    ∀ s : MemoryStore, (s.modify t g).find? = setAt s.find? t ((s.find? t).map g)
  | ⟨[]⟩ => by
    funext t'
    by_cases h : t' = t <;> simp [find?, modify, setAt, h]
  | ⟨row :: rows⟩ => by
    funext t'
    have ih := congrFun (find?_modify t g ⟨rows⟩) t'
    unfold modify at ih ⊢
    rw [List.map_cons, find?_cons, ih]
    by_cases hrow : row.1 = t
    · rw [if_pos hrow]
      by_cases h : t' = t
      · simp [h, hrow, find?_cons]
      · rw [setAt_of_ne h, setAt_of_ne h, find?_cons, hrow, if_neg h, if_neg h]
    · rw [if_neg hrow]
      by_cases h : t' = t
      · rw [h, setAt_same, setAt_same, find?_cons, if_neg (Ne.symm hrow), if_neg (Ne.symm hrow)]
      · rw [setAt_of_ne h, setAt_of_ne h, find?_cons]

theorem find?_append {t : TenantId} (r : ServerRecord) :
    ∀ {s : MemoryStore}, s.find? t = none →
      find? ⟨s.rows ++ [(t, r)]⟩ = setAt s.find? t (some r)
  | ⟨[]⟩, _ => by
    funext t'
    by_cases h : t' = t <;> simp [find?, setAt, h]
  | ⟨row :: rows⟩, hs => by
    funext t'
    rw [find?_cons] at hs
    split_ifs at hs with hrow
    rw [List.cons_append, find?_cons, find?_append r (s := ⟨rows⟩) hs]
    by_cases h : t' = t
    · rw [h, setAt_same, setAt_same, if_neg hrow]
    · rw [setAt_of_ne h, setAt_of_ne h, find?_cons]

theorem erase_of_find? {s : MemoryStore} {t : TenantId} (h : s.find? t = none) : s.erase t = s := by
  unfold erase
  rw [List.filter_eq_self.2 fun row hrow => decide_eq_true ((s.find?_eq_none_iff t).1 h row hrow)]

theorem records_answer (s : MemoryStore) (c : StoreCall) :
    (((s.answer c).1.toOption, (s.answer c).2.find?) : Option c.Reply × Records) =
      Records.answer s.find? c := by
  cases c with
  | find t => rfl
  | save r =>
    rcases h : s.find? r.server.tenant with _ | old <;> simp only [answer, Records.answer, h]
    · exact Prod.ext rfl (find?_append r h)
    · rfl
  | update server =>
    rcases h : s.find? server.tenant with _ | old <;> simp only [answer, Records.answer, h]
    · rfl
    · exact Prod.ext rfl ((find?_modify _ _ s).trans (by rw [h]; rfl))
  | updateWorld t world name details =>
    rcases h : s.find? t with _ | old <;> simp only [answer, Records.answer, h]
    · rfl
    · split_ifs
      · exact Prod.ext rfl ((find?_modify _ _ s).trans (by rw [h]; rfl))
      · rfl
  | delete t => exact Prod.ext rfl (find?_erase t s)

end MemoryStore

end Steading
