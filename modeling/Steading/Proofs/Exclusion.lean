import Mathlib.Data.List.Dedup
import Mathlib.Data.List.Forall2
import Steading.Lock

/-!
# Access to a tenant is exclusive

Parties ask for access, take it, give it back, let go of their slots and stop waiting in any order.
A slot is thrown out of the table only when nobody refers to it, so all that refer to a slot for a
tenant refer to the one in the table (`TenantLocks.Kept`), and one of them at a time has access.

Giving back is two steps: between them the party no longer has access but still refers to its slot,
and the tenant still counts as one that somebody is busy with (`TenantLocks.exists_let_go_later`).
-/

namespace Steading

/-- The same party, which may have been given access in between. -/
def LockParty.Given {η : Type} (p q : LockParty η) : Prop :=
  q = p ∨ p.phase = .waiting ∧ q = { p with phase := .holding }

namespace LockParty.Given

variable {η : Type} {p q : LockParty η}

theorem who_eq (h : p.Given q) : q.who = p.who := by
  rcases h with rfl | ⟨-, rfl⟩ <;> rfl

theorem tenant_eq (h : p.Given q) : q.tenant = p.tenant := by
  rcases h with rfl | ⟨-, rfl⟩ <;> rfl

/-- Only a party that waits is changed. -/
theorem eq_of_ne (h : p.Given q) (hp : p.phase ≠ .waiting) : q = p :=
  h.resolve_right fun hq => hp hq.1

end LockParty.Given

namespace TenantLocks

variable {η : Type} {l l' : TenantLocks η} {t : TenantId} {who : η}

/-- A party that waits for a slot that is not taken is given access, whoever else is waiting. -/
def Gives (l l' : TenantLocks η) : Prop :=
  ∃ ps p qs, l.parties = ps ++ p :: qs ∧ p.phase = .waiting ∧ l.isTaken p.slot = false ∧
    l' = { l with parties := ps ++ { p with phase := .holding } :: qs }

/-- What may happen at a time. To let go without having had access is to stop waiting. That access
is given back before is up to whoever lets go. -/
inductive Step [DecidableEq η] (l : TenantLocks η) : TenantLocks η → Prop
  | enter (who : η) (t : TenantId) : l.Step (l.enter who t)
  | take {l' : TenantLocks η} (h : l.Gives l') : l.Step l'
  | unlock (who : η) : l.Step (l.unlock who)
  | leave (who : η) : l.Step (l.leave who)

inductive Reachable [DecidableEq η] : TenantLocks η → Prop
  | empty : Reachable .empty
  | step {l l' : TenantLocks η} (h : l.Reachable) (hstep : l.Step l') : l'.Reachable

def holders (l : TenantLocks η) (t : TenantId) : List (LockParty η) :=
  l.parties.filter fun p => p.tenant = t ∧ p.phase = .holding

/-- What `who` refers to. -/
def partiesOf [DecidableEq η] (l : TenantLocks η) (who : η) : List (LockParty η) :=
  l.parties.filter (·.who = who)

def tenantsOf (parties : List (LockParty η)) : List TenantId :=
  (parties.map (·.tenant)).dedup

/-- The tenants that somebody waits for, has access to, or has not let go of yet. -/
def tenants (l : TenantLocks η) : List TenantId :=
  tenantsOf l.parties

/-- The tenants that somebody waits for or has access to. -/
def sought (l : TenantLocks η) : List TenantId :=
  tenantsOf (l.parties.filter (·.phase ≠ .released))

/-- How many have access to a slot. -/
def taken (l : TenantLocks η) (slot : Nat) : Nat :=
  l.parties.countP fun p => p.slot == slot && p.phase == .holding

/-- Every tenant has one slot and every slot one tenant, whoever refers to a slot does so for its
tenant, and one party at most has access to it. -/
structure Kept (l : TenantLocks η) : Prop where
  tenants_nodup : (l.table.map (·.1)).Nodup
  slots_nodup : (l.table.map (·.2)).Nodup
  slots_lt : ∀ e ∈ l.table, e.2 < l.nextSlot
  referred : ∀ p ∈ l.parties, (p.tenant, p.slot) ∈ l.table
  taken_le : ∀ slot, l.taken slot ≤ 1

theorem lookup_eq_of_mem {table : List (TenantId × Nat)} (h : (table.map (·.1)).Nodup)
    {t : TenantId} {slot : Nat} (hmem : (t, slot) ∈ table) : table.lookup t = some slot := by
  obtain ⟨before, after, rfl⟩ := List.append_of_mem hmem
  rw [List.map_append, List.map_cons, List.nodup_middle] at h
  refine List.lookup_eq_some_iff.2 ⟨before, after, rfl, fun e he => ?_⟩
  have hne : t ≠ e.1 := by
    rintro rfl
    exact (List.nodup_cons.1 h).1 (List.mem_append_left _ (List.mem_map.2 ⟨e, he, rfl⟩))
  exact bne_iff_ne.2 hne

theorem mem_of_lookup_eq {table : List (TenantId × Nat)} {t : TenantId} {slot : Nat}
    (h : table.lookup t = some slot) : (t, slot) ∈ table := by
  obtain ⟨before, after, rfl, -⟩ := List.lookup_eq_some_iff.1 h
  simp

theorem isTaken_eq_false_iff {slot : Nat} : l.isTaken slot = false ↔ l.taken slot = 0 := by
  rw [isTaken, taken, List.any_eq_false, List.countP_eq_zero]

theorem taken_append_waiting (table : List (TenantId × Nat)) (parties : List (LockParty η))
    (next : Nat) (who : η) (t : TenantId) (slot slot' : Nat) :
    taken ⟨table, parties ++ [⟨who, t, slot, .waiting⟩], next⟩ slot' =
      taken ⟨table, parties, next⟩ slot' := by
  simp [taken, List.countP_append]

theorem isReferred_of_mem {p : LockParty η} (hp : p ∈ l.parties) : l.isReferred p.slot = true :=
  List.any_eq_true.2 ⟨p, hp, beq_self_eq_true _⟩

namespace Kept

theorem empty : (empty : TenantLocks η).Kept where
  tenants_nodup := List.nodup_nil
  slots_nodup := List.nodup_nil
  slots_lt _ he := by cases he
  referred _ hp := by cases hp
  taken_le _ := Nat.zero_le _

theorem lookup (h : l.Kept) {p : LockParty η} (hp : p ∈ l.parties) :
    l.table.lookup p.tenant = some p.slot :=
  lookup_eq_of_mem h.tenants_nodup (h.referred p hp)

theorem slot_eq (h : l.Kept) {p q : LockParty η} (hp : p ∈ l.parties) (hq : q ∈ l.parties)
    (ht : p.tenant = q.tenant) : p.slot = q.slot := by
  have hlookup := h.lookup hp
  rw [ht, h.lookup hq] at hlookup
  exact (Option.some.inj hlookup).symm

theorem prune (h : l.Kept) : l.prune.Kept where
  tenants_nodup := h.tenants_nodup.sublist (List.filter_sublist.map _)
  slots_nodup := h.slots_nodup.sublist (List.filter_sublist.map _)
  slots_lt e he := h.slots_lt e (List.mem_of_mem_filter he)
  referred p hp := List.mem_filter.2 ⟨h.referred p hp, isReferred_of_mem hp⟩
  taken_le := h.taken_le

theorem enter (h : l.Kept) (who : η) (t : TenantId) : (l.enter who t).Kept := by
  have hp := h.prune
  simp only [TenantLocks.enter]
  split
  · rename_i slot hslot
    exact { hp with
      referred := List.forall_mem_append.2 ⟨hp.referred, by simpa using mem_of_lookup_eq hslot⟩
      taken_le := fun slot' => by
        rw [taken_append_waiting]
        exact hp.taken_le slot' }
  · rename_i hnone
    have htenant : t ∉ l.prune.table.map (·.1) := by
      intro hmem
      obtain ⟨e, he, rfl⟩ := List.mem_map.1 hmem
      rw [lookup_eq_of_mem hp.tenants_nodup he] at hnone
      cases hnone
    have hslot : l.prune.nextSlot ∉ l.prune.table.map (·.2) := by
      intro hmem
      obtain ⟨e, he, heq⟩ := List.mem_map.1 hmem
      have hlt := hp.slots_lt e he
      omega
    refine ⟨?_, ?_, ?_, ?_, fun slot' => ?_⟩
    · rw [List.map_append]
      exact hp.tenants_nodup.append (List.nodup_singleton _) (by simpa using htenant)
    · rw [List.map_append]
      exact hp.slots_nodup.append (List.nodup_singleton _) (by simpa using hslot)
    · exact List.forall_mem_append.2
        ⟨fun e he => Nat.lt_succ_of_lt (hp.slots_lt e he), by simp⟩
    · refine List.forall_mem_append.2 ⟨fun p hmem => ?_, by simp⟩
      exact List.mem_append_left _ (hp.referred p hmem)
    · rw [taken_append_waiting]
      exact hp.taken_le slot'

theorem gives (h : l.Kept) (hgives : l.Gives l') : l'.Kept := by
  obtain ⟨ps, p, qs, hparties, hwaiting, hfree, rfl⟩ := hgives
  have hreferred := h.referred
  rw [hparties, List.forall_mem_append, List.forall_mem_cons] at hreferred
  refine { h with referred := ?_, taken_le := fun slot => ?_ }
  · exact List.forall_mem_append.2
      ⟨hreferred.1, List.forall_mem_cons.2 ⟨hreferred.2.1, hreferred.2.2⟩⟩
  · have hle := h.taken_le slot
    rw [isTaken_eq_false_iff] at hfree
    simp only [taken, hparties, List.countP_append, List.countP_cons] at hle hfree ⊢
    by_cases hslot : p.slot = slot
    · -- Nobody had access to this slot.
      subst hslot
      rw [if_pos (by simp)]
      omega
    · simp only [beq_eq_false_iff_ne.2 hslot, Bool.false_and] at hle ⊢
      exact hle

theorem unlock [DecidableEq η] (h : l.Kept) (who : η) : (l.unlock who).Kept := by
  refine { h with referred := ?_, taken_le := fun slot => ?_ }
  · refine List.forall_mem_map.2 fun p hp => ?_
    split_ifs <;> exact h.referred p hp
  · refine Nat.le_trans ?_ (h.taken_le slot)
    rw [taken, TenantLocks.unlock, List.countP_map]
    refine List.countP_mono_left fun p _ hp => ?_
    simp only [Function.comp_apply] at hp
    split_ifs at hp
    · simp at hp
    · exact hp

theorem leave [DecidableEq η] (h : l.Kept) (who : η) : (l.leave who).Kept :=
  { h with
    referred := fun p hp => h.referred p (List.mem_of_mem_filter hp)
    taken_le := fun slot => Nat.le_trans List.filter_sublist.countP_le (h.taken_le slot) }

theorem step [DecidableEq η] (h : l.Kept) (hstep : l.Step l') : l'.Kept := by
  cases hstep with
  | enter who t => exact h.enter who t
  | take hgives => exact h.gives hgives
  | unlock who => exact h.unlock who
  | leave who => exact h.leave who

theorem length_holders_le (h : l.Kept) (t : TenantId) : (l.holders t).length ≤ 1 := by
  rcases hholders : l.holders t with _ | ⟨p, rest⟩
  · exact Nat.zero_le _
  · have hp : p ∈ l.holders t := hholders ▸ List.mem_cons_self
    obtain ⟨hmem, hpt⟩ := List.mem_filter.1 hp
    simp only [decide_eq_true_eq] at hpt
    have hle : (l.holders t).length ≤ l.taken p.slot := by
      rw [holders, ← List.countP_eq_length_filter]
      refine List.countP_mono_left fun q hq hqt => ?_
      simp only [decide_eq_true_eq] at hqt
      rw [h.slot_eq hq hmem (hqt.1.trans hpt.1.symm), hqt.2]
      simp
    rw [← hholders]
    exact Nat.le_trans hle (h.taken_le _)

theorem eq_of_mem_holders (h : l.Kept) {p q : LockParty η}
    (hp : p ∈ l.holders t) (hq : q ∈ l.holders t) : p = q := by
  have hle := h.length_holders_le t
  rcases hholders : l.holders t with _ | ⟨x, rest⟩
  · rw [hholders] at hp
    cases hp
  · rw [hholders, List.length_cons] at hle
    obtain rfl := List.length_eq_zero_iff.1 (show rest.length = 0 by omega)
    rw [hholders, List.mem_singleton] at hp hq
    rw [hp, hq]

theorem mem_table_prune (h : l.Kept) {e : TenantId × Nat} :
    e ∈ l.prune.table ↔ ∃ p ∈ l.parties, (p.tenant, p.slot) = e := by
  constructor
  · intro he
    obtain ⟨hmem, hreferred⟩ := List.mem_filter.1 he
    obtain ⟨p, hp, hslot⟩ := List.any_eq_true.1 hreferred
    exact ⟨p, hp, List.inj_on_of_nodup_map h.slots_nodup (h.referred p hp) hmem (beq_iff_eq.1 hslot)⟩
  · rintro ⟨p, hp, rfl⟩
    exact h.prune.referred p hp

/-- The tenants that are left in the table when it is pruned are those that somebody is busy
with. -/
theorem perm_table_prune (h : l.Kept) : (l.prune.table.map (·.1)).Perm l.tenants := by
  refine (List.perm_ext_iff_of_nodup h.prune.tenants_nodup (List.nodup_dedup _)).2 fun t => ?_
  rw [List.mem_dedup, List.mem_map, List.mem_map]
  constructor
  · rintro ⟨e, he, rfl⟩
    obtain ⟨p, hp, rfl⟩ := h.mem_table_prune.1 he
    exact ⟨p, hp, rfl⟩
  · rintro ⟨p, hp, rfl⟩
    exact ⟨_, h.mem_table_prune.2 ⟨p, hp, rfl⟩, rfl⟩

theorem active_eq (h : l.Kept) : l.active = l.tenants.length := by
  rw [← h.perm_table_prune.length_eq, List.length_map]
  rfl

end Kept

/-! ## What one party refers to -/

theorem exists_parties_enter (l : TenantLocks η) (who : η) (t : TenantId) :
    ∃ slot, (l.enter who t).parties = l.parties ++ [⟨who, t, slot, .waiting⟩] := by
  rw [enter]
  split <;> exact ⟨_, rfl⟩

theorem Gives.forall₂ (h : l.Gives l') : List.Forall₂ LockParty.Given l.parties l'.parties := by
  obtain ⟨ps, p, qs, hparties, hwaiting, -, rfl⟩ := h
  have hsame : ∀ rs : List (LockParty η), List.Forall₂ LockParty.Given rs rs :=
    fun rs => List.forall₂_same.2 fun q _ => .inl rfl
  rw [hparties]
  exact List.rel_append (hsame ps) (.cons (.inr ⟨hwaiting, rfl⟩) (hsame qs))

section

variable [DecidableEq η] {i : η}

theorem holds_iff_partiesOf :
    l.holds who = true ↔ ∃ p ∈ l.partiesOf who, p.phase = .holding := by
  simp only [holds, inPhase, partiesOf, List.contains_iff_mem, List.mem_map, List.mem_filter,
    decide_eq_true_eq, and_assoc]
  exact exists_congr fun p => and_congr_right' and_comm

theorem partiesOf_enter_self (l : TenantLocks η) (who : η) (t : TenantId) :
    ∃ slot, (l.enter who t).partiesOf who = l.partiesOf who ++ [⟨who, t, slot, .waiting⟩] := by
  obtain ⟨slot, hparties⟩ := l.exists_parties_enter who t
  exact ⟨slot, by simp [partiesOf, hparties]⟩

theorem partiesOf_enter_of_ne (l : TenantLocks η) (t : TenantId) (h : i ≠ who) :
    (l.enter who t).partiesOf i = l.partiesOf i := by
  obtain ⟨slot, hparties⟩ := l.exists_parties_enter who t
  simp [partiesOf, hparties, h.symm]

theorem Gives.forall₂_partiesOf (h : l.Gives l') (i : η) :
    List.Forall₂ LockParty.Given (l.partiesOf i) (l'.partiesOf i) := by
  refine List.rel_filter (fun p q hpq => ?_) h.forall₂
  simp only [hpq.who_eq]

theorem partiesOf_unlock (l : TenantLocks η) (who i : η) :
    (l.unlock who).partiesOf i = (l.partiesOf i).map fun p =>
      if p.who = who ∧ p.phase = .holding then { p with phase := .released } else p := by
  rw [partiesOf, unlock, List.filter_map, partiesOf]
  refine congrArg (List.map _) (List.filter_congr fun p _ => ?_)
  simp only [Function.comp_apply]
  split_ifs <;> rfl

theorem partiesOf_unlock_self (l : TenantLocks η) (who : η) :
    (l.unlock who).partiesOf who = (l.partiesOf who).map fun p =>
      if p.phase = .holding then { p with phase := .released } else p := by
  rw [partiesOf_unlock]
  refine List.map_congr_left fun p hp => ?_
  simp [of_decide_eq_true (List.mem_filter.1 hp).2]

theorem partiesOf_unlock_of_ne (l : TenantLocks η) (h : i ≠ who) :
    (l.unlock who).partiesOf i = l.partiesOf i := by
  rw [partiesOf_unlock]
  refine (List.map_congr_left fun p hp => ?_).trans (List.map_id _)
  simp [of_decide_eq_true (List.mem_filter.1 hp).2, h]

theorem holds_unlock_self (l : TenantLocks η) (who : η) : (l.unlock who).holds who = false := by
  rw [Bool.eq_false_iff, ne_eq, holds_iff_partiesOf, partiesOf_unlock_self]
  rintro ⟨p, hp, hphase⟩
  obtain ⟨q, -, rfl⟩ := List.mem_map.1 hp
  split_ifs at hphase
  contradiction

theorem partiesOf_leave_self (l : TenantLocks η) (who : η) : (l.leave who).partiesOf who = [] := by
  rw [partiesOf, leave, List.filter_filter, List.filter_eq_nil_iff]
  simp

theorem partiesOf_leave_of_ne (l : TenantLocks η) (h : i ≠ who) :
    (l.leave who).partiesOf i = l.partiesOf i := by
  rw [partiesOf, leave, List.filter_filter, partiesOf]
  refine List.filter_congr fun p _ => ?_
  by_cases hp : p.who = i
  · simp [hp, h]
  · simp [hp]

end

/-! ## What every state is like -/

theorem prune_enter (l : TenantLocks η) (who : η) (t : TenantId) :
    (l.enter who t).prune = l.enter who t := by
  have hreferred : ∀ e ∈ (l.enter who t).table, (l.enter who t).isReferred e.2 = true := by
    have hold : ∀ e ∈ l.prune.table, ∀ p : LockParty η,
        ((l.parties ++ [p]).any fun q => q.slot == e.2) = true := by
      intro e he p
      have hany : (l.parties.any fun q => q.slot == e.2) = true := (List.mem_filter.1 he).2
      rw [List.any_append, hany, Bool.true_or]
    simp only [enter]
    split
    · exact fun e he => hold e he _
    · exact List.forall_mem_append.2 ⟨fun e he => hold e he _, by simp [isReferred]⟩
  have htable := List.filter_eq_self.2 hreferred
  rw [prune, htable]

/-- What every state of the locks is like. -/
structure Orderly [DecidableEq η] (l : TenantLocks η) : Prop where
  /-- Whoever waits for a tenant, has access to it or has not let go of it yet refers to the one
  slot that the table has for it. -/
  shared : ∀ p ∈ l.parties, l.table.lookup p.tenant = some p.slot
  single : ∀ t, (l.holders t).length ≤ 1
  /-- Whenever somebody asks, the table comes to have exactly the tenants that somebody waits for,
  has access to or has not let go of yet. -/
  pruned : ∀ who t, ((l.enter who t).table.map (·.1)).Perm (l.enter who t).tenants
  active_eq : l.active = l.tenants.length
  given_back : ∀ who, (l.unlock who).holds who = false
  /-- Whoever lets go, the tenants that are left are those of the others. -/
  left : ∀ who, (l.leave who).active = (tenantsOf (l.parties.filter (·.who ≠ who))).length
  /-- Unless somebody is just letting go, those are the ones somebody waits for or has access to. -/
  settled : (∀ p ∈ l.parties, p.phase ≠ .released) → l.active = l.sought.length ∧
    ∀ who t, ((l.enter who t).table.map (·.1)).Perm (l.enter who t).sought

theorem tenants_eq_sought (h : ∀ p ∈ l.parties, p.phase ≠ .released) : l.tenants = l.sought := by
  rw [tenants, sought, List.filter_eq_self.2 fun p hp => decide_eq_true (h p hp)]

theorem not_released_enter (h : ∀ p ∈ l.parties, p.phase ≠ .released) (who : η) (t : TenantId) :
    ∀ p ∈ (l.enter who t).parties, p.phase ≠ .released := by
  obtain ⟨slot, hparties⟩ := l.exists_parties_enter who t
  rw [hparties]
  exact List.forall_mem_append.2 ⟨h, by simp⟩

theorem Kept.orderly [DecidableEq η] (h : l.Kept) : l.Orderly := by
  have hpruned : ∀ who t, ((l.enter who t).table.map (·.1)).Perm (l.enter who t).tenants := by
    intro who t
    have hperm := (h.enter who t).perm_table_prune
    rwa [prune_enter] at hperm
  refine ⟨fun _ hp => h.lookup hp, h.length_holders_le, hpruned, h.active_eq,
    l.holds_unlock_self, fun who => (h.leave who).active_eq, fun hnone => ?_⟩
  refine ⟨tenants_eq_sought hnone ▸ h.active_eq, fun who t => ?_⟩
  rw [← tenants_eq_sought (not_released_enter hnone who t)]
  exact hpruned who t

theorem grantFirst_eq (slot : Nat) : ∀ parties : List (LockParty η),
    grantFirst slot parties = parties ∨ ∃ ps p qs, parties = ps ++ p :: qs ∧ p.slot = slot ∧
      p.phase = .waiting ∧ grantFirst slot parties = ps ++ { p with phase := .holding } :: qs
  | [] => .inl rfl
  | p :: rest => by
    rw [grantFirst]
    split_ifs with hp
    · exact .inr ⟨[], p, rest, rfl, hp.1, hp.2, rfl⟩
    · rcases grantFirst_eq slot rest with hrest | ⟨ps, q, qs, hrest, hslot, hphase, hgrant⟩
      · exact .inl (by rw [hrest])
      · exact .inr ⟨p :: ps, q, qs, by rw [hrest]; rfl, hslot, hphase, by rw [hgrant]; rfl⟩

theorem grant_eq (l : TenantLocks η) (slot : Nat) : l.grant slot = l ∨ l.Gives (l.grant slot) := by
  rw [grant]
  split_ifs with htaken
  · exact .inl rfl
  · rcases grantFirst_eq slot l.parties with hsame | ⟨ps, p, qs, hparties, rfl, hphase, hgrant⟩
    · exact .inl (by rw [hsame])
    · exact .inr ⟨ps, p, qs, hparties, hphase, Bool.eq_false_iff.2 htaken, by rw [hgrant]⟩

theorem Reachable.kept [DecidableEq η] (h : l.Reachable) : l.Kept := by
  induction h with
  | empty => exact .empty
  | step _ hstep ih => exact ih.step hstep

/-- Somebody has given access back and not let go yet: nobody waits for the tenant or has access to
it, but it counts as busy, and is in the table also when somebody asks for another one. -/
theorem exists_let_go_later : ∃ l : TenantLocks Bool, l.Reachable ∧ l.active = 1 ∧ l.sought = [] ∧
    ∃ who t, ¬ ((l.enter who t).table.map (·.1)).Perm (l.enter who t).sought := by
  let other : TenantId := ⟨"b", by decide, by decide⟩
  let asked : TenantLocks Bool := empty.enter false default
  let given : TenantLocks Bool := ⟨[(default, 0)], [⟨false, default, 0, .holding⟩], 1⟩
  have hasked : asked.Reachable := .step .empty (.enter false default)
  have hgiven : given.Reachable := .step hasked (.take ⟨[], _, [], rfl, rfl, rfl, rfl⟩)
  refine ⟨given.unlock false, .step hgiven (.unlock false), by decide, by decide, true, other, ?_⟩
  intro hperm
  have hlength := hperm.length_eq
  revert hlength
  decide

end TenantLocks

end Steading
