import Steading.Proofs.Records
import Steading.Proofs.Rows

/-!
# Two stores, one behaviour

A store in tables keeps certain records if every record is spread over its rows and nothing else is
there (`TableStore.Keeps`). It answers a call as these records do, and keeps what they become
(`TableStore.Keeps.answer`). So does the store in memory, so nobody can tell the two apart
(`stores_agree`).
-/

namespace Steading

theorem TenantId.text_inj {t t' : TenantId} : t.text = t'.text ↔ t = t' := by
  refine ⟨fun h => ?_, congrArg text⟩
  obtain ⟨text, _, _⟩ := t
  obtain ⟨text', _, _⟩ := t'
  obtain rfl : text = text' := h
  rfl

section

variable {ρ : Type} (key : ρ → String)

/-- A tenant's rows in a table. -/
def rowsOf (rows : List ρ) (t : TenantId) : List ρ :=
  rows.filter (key · == t.text)

variable {key} (rows : List ρ) (t : TenantId)

theorem rowsOf_filter :
    rowsOf key (rows.filter (key · != t.text)) = setAt (rowsOf key rows) t [] := by
  funext t'
  rw [rowsOf, List.filter_filter]
  by_cases ht : t' = t
  · rw [ht, setAt_same]
    simp
  · rw [setAt_of_ne ht, rowsOf]
    refine List.filter_congr fun row _ => ?_
    rw [← TenantId.text_inj] at ht
    by_cases hrow : key row = t'.text
    · simp [hrow, ht]
    · simp [hrow]

theorem filter_of_rowsOf_nil {rows : List ρ} {t : TenantId} (h : rowsOf key rows t = []) :
    rows.filter (key · != t.text) = rows := by
  refine List.filter_eq_self.2 fun row hrow => ?_
  have hne := List.filter_eq_nil_iff.1 h row hrow
  rw [bne_iff_ne]
  exact fun heq => hne (beq_iff_eq.2 heq)

theorem rowsOf_append {rows : List ρ} {t : TenantId} {new : List ρ}
    (hnew : ∀ row ∈ new, key row = t.text) (hrows : rowsOf key rows t = []) :
    rowsOf key (rows ++ new) = setAt (rowsOf key rows) t new := by
  funext t'
  rw [rowsOf, List.filter_append]
  by_cases ht : t' = t
  · subst ht
    rw [setAt_same, show rows.filter (key · == t'.text) = [] from hrows, List.nil_append]
    exact List.filter_eq_self.2 fun row hrow => beq_iff_eq.2 (hnew row hrow)
  · have hnone : new.filter (key · == t'.text) = [] := by
      refine List.filter_eq_nil_iff.2 fun row hrow => ?_
      rw [hnew row hrow, beq_iff_eq, TenantId.text_inj]
      exact Ne.symm ht
    rw [setAt_of_ne ht, rowsOf, hnone, List.append_nil]

theorem rowsOf_replace {new : List ρ} (hnew : ∀ row ∈ new, key row = t.text) :
    rowsOf key (rows.filter (key · != t.text) ++ new) = setAt (rowsOf key rows) t new := by
  have hnone : rowsOf key (rows.filter (key · != t.text)) t = [] := by
    rw [rowsOf_filter, setAt_same]
  rw [rowsOf_append hnew hnone, rowsOf_filter, setAt_setAt]

theorem rowsOf_map {g : ρ → ρ} (hg : ∀ row, key (g row) = t.text) :
    rowsOf key (rows.map fun row => if key row == t.text then g row else row) =
      setAt (rowsOf key rows) t ((rowsOf key rows t).map g) := by
  funext t'
  have hkey : ∀ row, key (if key row == t.text then g row else row) = key row := by
    intro row
    split_ifs with hrow
    · exact (hg row).trans (beq_iff_eq.1 hrow).symm
    · rfl
  rw [rowsOf, List.filter_map]
  simp only [Function.comp_def, hkey]
  by_cases ht : t' = t
  · rw [ht, setAt_same]
    refine List.map_congr_left fun row hrow => if_pos ?_
    exact (List.mem_filter.1 hrow).2
  · rw [setAt_of_ne ht, rowsOf]
    refine (List.map_congr_left fun row hrow => if_neg ?_).trans (List.map_id _)
    have hrow : key row = t'.text := beq_iff_eq.1 (List.mem_filter.1 hrow).2
    rwa [beq_iff_eq, hrow, TenantId.text_inj]

end

/-- Modifiers that go into a store are written as they would be read. -/
def StoreCall.IsCanonical : StoreCall → Prop
  | .save r => ∀ m ∈ r.world.modifiers, m.IsCanonical
  | .updateWorld _ _ _ w => ∀ m ∈ w.modifiers, m.IsCanonical
  | _ => True

/-- A record as rows of modifiers. -/
def ModifierRow.ofRecord? (t : TenantId) : Option ServerRecord → List ModifierRow
  | some r => ofList t 0 r.world.modifiers
  | none => []

namespace TableStore

/-- The tables hold these records: a server row and a world row for each, and its modifiers. -/
structure Keeps (s : TableStore) (f : Records) : Prop where
  servers : rowsOf ServerRow.tenant s.servers =
    fun t => ((f t).map fun r => ServerRow.ofServer r.server).toList
  worlds : rowsOf WorldRow.tenant s.worlds =
    fun t => ((f t).map fun r => WorldRow.ofDetails t r.world).toList
  modifiers : rowsOf ModifierRow.tenant s.modifiers = fun t => ModifierRow.ofRecord? t (f t)
  keyed : ∀ t r, f t = some r → r.server.tenant = t
  canonical : ∀ t r, f t = some r → ∀ m ∈ r.world.modifiers, m.IsCanonical

variable {s s' : TableStore} {f : Records}

theorem Keeps.empty : empty.Keeps .empty where
  servers := rfl
  worlds := rfl
  modifiers := rfl
  keyed _ _ h := by cases h
  canonical _ _ h := by cases h

theorem Keeps.servers_of (h : s.Keeps f) {t : TenantId} {r : Option ServerRecord} (hr : f t = r) :
    rowsOf ServerRow.tenant s.servers t = (r.map fun r => ServerRow.ofServer r.server).toList :=
  hr ▸ congrFun h.servers t

theorem Keeps.worlds_of (h : s.Keeps f) {t : TenantId} {r : Option ServerRecord} (hr : f t = r) :
    rowsOf WorldRow.tenant s.worlds t = (r.map fun r => WorldRow.ofDetails t r.world).toList :=
  hr ▸ congrFun h.worlds t

theorem Keeps.modifiers_of (h : s.Keeps f) {t : TenantId} {r : Option ServerRecord}
    (hr : f t = r) : rowsOf ModifierRow.tenant s.modifiers t = ModifierRow.ofRecord? t r :=
  hr ▸ congrFun h.modifiers t

theorem Keeps.serverRow?_of (h : s.Keeps f) {t : TenantId} {r : Option ServerRecord}
    (hr : f t = r) : s.serverRow? t = r.map fun r => .ofServer r.server := by
  rw [serverRow?, ← List.head?_filter]
  refine (congrArg List.head? (h.servers_of hr)).trans ?_
  cases r <;> rfl

theorem Keeps.worldRow?_of (h : s.Keeps f) {t : TenantId} {r : Option ServerRecord}
    (hr : f t = r) : s.worldRow? t = r.map fun r => .ofDetails t r.world := by
  rw [worldRow?, ← List.head?_filter]
  refine (congrArg List.head? (h.worlds_of hr)).trans ?_
  cases r <;> rfl

theorem Keeps.find (h : s.Keeps f) (t : TenantId) : s.find t = .ok (f t) := by
  rcases hr : f t with _ | r
  · rw [TableStore.find, h.serverRow?_of hr]
    rfl
  · have hserver : (ServerRow.ofServer r.server).read t = .ok r.server := by
      rw [← h.keyed t r hr, ServerRow.read_ofServer]
    have hmodifiers : (s.modifierRows t).mapM ModifierRow.read = .ok r.world.modifiers := by
      rw [modifierRows, show s.modifiers.filter (·.tenant == t.text) =
        ModifierRow.ofRecord? t (some r) from h.modifiers_of hr, ModifierRow.ofRecord?,
        ModifierRow.mergeSort_ofList, ModifierRow.mapM_read_ofList t 0 (h.canonical t r hr)]
    rw [TableStore.find, h.serverRow?_of hr, h.worldRow?_of hr]
    simp only [Option.map_some, hserver, hmodifiers, WorldRow.read_ofDetails]
    rfl

/-- One tenant's rows may be rewritten if they are what becomes of its record. -/
theorem Keeps.change (h : s.Keeps f) {t : TenantId} {r : Option ServerRecord}
    (hservers : rowsOf ServerRow.tenant s'.servers = setAt (rowsOf ServerRow.tenant s.servers) t
      (r.map fun r => ServerRow.ofServer r.server).toList)
    (hworlds : rowsOf WorldRow.tenant s'.worlds = setAt (rowsOf WorldRow.tenant s.worlds) t
      (r.map fun r => WorldRow.ofDetails t r.world).toList)
    (hmodifiers : rowsOf ModifierRow.tenant s'.modifiers =
      setAt (rowsOf ModifierRow.tenant s.modifiers) t (ModifierRow.ofRecord? t r))
    (hkeyed : ∀ r', r = some r' → r'.server.tenant = t)
    (hcanonical : ∀ r', r = some r' → ∀ m ∈ r'.world.modifiers, m.IsCanonical) :
    s'.Keeps (setAt f t r) := by
  refine ⟨?_, ?_, ?_, forall_setAt h.keyed hkeyed, forall_setAt h.canonical hcanonical⟩
  · rw [hservers, h.servers]
    exact (map_setAt (fun _ o => (o.map fun r => ServerRow.ofServer r.server).toList) f t r).symm
  · rw [hworlds, h.worlds]
    exact (map_setAt (fun t o => (o.map fun r => WorldRow.ofDetails t r.world).toList) f t r).symm
  · rw [hmodifiers, h.modifiers]
    exact (map_setAt ModifierRow.ofRecord? f t r).symm

section

variable (s : TableStore) (t : TenantId) (w : WorldDetails)

theorem rowsOf_worlds_writeWorld :
    rowsOf WorldRow.tenant (s.writeWorld t w).worlds =
      setAt (rowsOf WorldRow.tenant s.worlds) t [.ofDetails t w] :=
  rowsOf_replace s.worlds t (by simp [WorldRow.ofDetails])

theorem rowsOf_modifiers_writeWorld :
    rowsOf ModifierRow.tenant (s.writeWorld t w).modifiers =
      setAt (rowsOf ModifierRow.tenant s.modifiers) t (ModifierRow.ofList t 0 w.modifiers) :=
  rowsOf_replace s.modifiers t fun _ hrow => (ModifierRow.tenant_of_mem_ofList t hrow).1

end

theorem Keeps.answer (h : s.Keeps f) {c : StoreCall} (hc : c.IsCanonical) :
    (s.answer c).1.toOption = (f.answer c).1 ∧ (s.answer c).2.Keeps (f.answer c).2 := by
  cases c with
  | find t =>
    refine ⟨?_, h⟩
    rw [TableStore.answer, h.find]
    rfl
  | save r =>
    cases hr : f r.server.tenant with
    | none =>
      have hrow : s.serverRow? r.server.tenant = none := h.serverRow?_of hr
      simp only [TableStore.answer, Records.answer, hr, hrow]
      refine ⟨rfl, h.change ?_ (rowsOf_worlds_writeWorld _ _ _) (rowsOf_modifiers_writeWorld _ _ _)
        (fun r' hr' => ?_) fun r' hr' => ?_⟩
      · exact rowsOf_append (by simp [ServerRow.ofServer]) (h.servers_of hr)
      · rw [← Option.some.inj hr']
      · rw [← Option.some.inj hr']
        exact hc
    | some old =>
      have hrow : s.serverRow? r.server.tenant = some (.ofServer old.server) := h.serverRow?_of hr
      simp only [TableStore.answer, Records.answer, hr, hrow]
      exact ⟨rfl, h⟩
  | update server =>
    cases hr : f server.tenant with
    | none =>
      have hrow : s.serverRow? server.tenant = none := h.serverRow?_of hr
      simp only [TableStore.answer, Records.answer, hr, hrow]
      exact ⟨rfl, h⟩
    | some old =>
      have hrow : s.serverRow? server.tenant = some (.ofServer old.server) := h.serverRow?_of hr
      simp only [TableStore.answer, Records.answer, hr, hrow]
      refine ⟨rfl, h.change ?_ (setAt_self (h.worlds_of hr)).symm
        (setAt_self (h.modifiers_of hr)).symm (fun r' hr' => ?_) fun r' hr' => ?_⟩
      · refine (rowsOf_map s.servers server.tenant fun _ => rfl).trans ?_
        rw [h.servers_of hr]
        rfl
      · rw [← Option.some.inj hr']
      · rw [← Option.some.inj hr']
        exact h.canonical _ old hr
  | updateWorld t world name details =>
    cases hr : f t with
    | none =>
      have hrow : s.worldRow? t = none := h.worldRow?_of hr
      simp only [TableStore.answer, Records.answer, hr, hrow]
      exact ⟨rfl, h⟩
    | some old =>
      have hrow : s.worldRow? t = some (.ofDetails t old.world) := h.worldRow?_of hr
      simp only [TableStore.answer, Records.answer, hr, hrow, WorldRow.ofDetails]
      split_ifs
      · refine ⟨rfl, h.change (setAt_self (h.servers_of hr)).symm (rowsOf_worlds_writeWorld _ _ _)
          (rowsOf_modifiers_writeWorld _ _ _) (fun r' hr' => ?_) fun r' hr' => ?_⟩
        · rw [← Option.some.inj hr']
          exact h.keyed t old hr
        · rw [← Option.some.inj hr']
          exact hc
      · exact ⟨rfl, h⟩
  | delete t =>
    refine ⟨?_, h.change (rowsOf_filter s.servers t) (rowsOf_filter s.worlds t)
      (rowsOf_filter s.modifiers t) (fun r' hr' => by cases hr') fun r' hr' => by cases hr'⟩
    simp only [TableStore.answer, Records.answer, h.serverRow?_of (t := t) rfl, Option.isSome_map]
    rfl

/-- What calls one after the other leave. -/
def after (s : TableStore) (cs : List StoreCall) : TableStore :=
  cs.foldl (fun s c => (s.answer c).2) s

theorem Keeps.after : ∀ (cs : List StoreCall) {s : TableStore} {f : Records}, s.Keeps f →
    (∀ c ∈ cs, c.IsCanonical) → (s.after cs).Keeps (f.after cs)
  | [], _, _, h, _ => h
  | _ :: cs, _, _, h, hcs => by
    obtain ⟨hc, hcs⟩ := List.forall_mem_cons.1 hcs
    exact (h.answer hc).2.after cs hcs

end TableStore

/-- A call fails, or answers that there was nothing to do. -/
def StoreCall.Refused : (c : StoreCall) → Except StoreError c.Reply → Prop
  | _, .error _ => True
  | .updateWorld _ _ _ _, .ok found => found = false
  | .delete _, .ok found => found = false
  | _, .ok _ => False

theorem TableStore.Keeps.answer_of_refused {s : TableStore} {f : Records} (h : s.Keeps f)
    {c : StoreCall} (hc : c.Refused (s.answer c).1) : (s.answer c).2 = s := by
  cases c with
  | find t => rfl
  | save r =>
    rcases hr : s.serverRow? r.server.tenant with _ | row <;>
      simp only [TableStore.answer, hr] at hc ⊢
    exact hc.elim
  | update server =>
    rcases hr : s.serverRow? server.tenant with _ | row <;>
      simp only [TableStore.answer, hr] at hc ⊢
    exact hc.elim
  | updateWorld t world name details =>
    rcases hr : s.worldRow? t with _ | row <;> simp only [TableStore.answer, hr] at hc ⊢
    split_ifs at hc ⊢ with hmatch
    · cases hc
    · rfl
  | delete t =>
    have hnone : f t = none := by
      rcases hr : f t with _ | r
      · rfl
      · have hrow : (s.serverRow? t).isSome = false := hc
        rw [h.serverRow?_of hr] at hrow
        cases hrow
    simp only [TableStore.answer]
    rw [filter_of_rowsOf_nil (h.servers_of hnone), filter_of_rowsOf_nil (h.worlds_of hnone),
      filter_of_rowsOf_nil (h.modifiers_of hnone)]

namespace MemoryStore

def after (s : MemoryStore) (cs : List StoreCall) : MemoryStore :=
  cs.foldl (fun s c => (s.answer c).2) s

theorem find?_after : ∀ (cs : List StoreCall) (s : MemoryStore),
    (s.after cs).find? = Records.after s.find? cs
  | [], _ => rfl
  | c :: cs, s => by
    have hc := congrArg Prod.snd (s.records_answer c)
    exact (find?_after cs (s.answer c).2).trans (congrArg (Records.after · cs) hc)

theorem answer_of_refused {s : MemoryStore} {c : StoreCall} (hc : c.Refused (s.answer c).1) :
    (s.answer c).2 = s := by
  cases c with
  | find t => rfl
  | save r =>
    rcases hr : s.find? r.server.tenant with _ | old <;> simp only [answer, hr] at hc ⊢
    exact hc.elim
  | update server =>
    rcases hr : s.find? server.tenant with _ | old <;> simp only [answer, hr] at hc ⊢
    exact hc.elim
  | updateWorld t world name details =>
    rcases hr : s.find? t with _ | old <;> simp only [answer, hr] at hc ⊢
    split_ifs at hc ⊢ with hmatch
    · cases hc
    · rfl
  | delete t =>
    rcases hr : s.find? t with _ | old
    · exact erase_of_find? hr
    · have hsome : (s.find? t).isSome = false := hc
      rw [hr] at hsome
      cases hsome

end MemoryStore

/-- Whatever has been asked of a store in tables and of one in memory, and whatever is asked next,
they answer the same, and a call that is refused changes nothing. A record in them keeps the time it
was saved with until it is deleted. -/
theorem stores_agree {cs : List StoreCall} {c : StoreCall} (hcs : ∀ c ∈ cs, c.IsCanonical)
    (hc : c.IsCanonical) :
    ((TableStore.empty.after cs).answer c).1.toOption =
        ((MemoryStore.empty.after cs).answer c).1.toOption ∧
      (c.Refused ((TableStore.empty.after cs).answer c).1 →
        ((TableStore.empty.after cs).answer c).2 = TableStore.empty.after cs) ∧
      (c.Refused ((MemoryStore.empty.after cs).answer c).1 →
        ((MemoryStore.empty.after cs).answer c).2 = MemoryStore.empty.after cs) ∧
      ∀ earlier r later, cs = earlier ++ .save r :: later →
        (MemoryStore.empty.after earlier).find? r.server.tenant = none →
          (∀ c ∈ later, c ≠ .delete r.server.tenant) →
            ∃ r', (TableStore.empty.after cs).find r.server.tenant = .ok (some r') ∧
              (MemoryStore.empty.after cs).find? r.server.tenant = some r' ∧
              r'.server.createdAt = r.server.createdAt := by
  have hkeeps := TableStore.Keeps.empty.after cs hcs
  have hfind : (MemoryStore.empty.after cs).find? = Records.after .empty cs :=
    MemoryStore.find?_after cs .empty
  refine ⟨?_, hkeeps.answer_of_refused, MemoryStore.answer_of_refused, ?_⟩
  · rw [(hkeeps.answer hc).1, ← hfind]
    exact (congrArg Prod.fst (MemoryStore.records_answer _ c)).symm
  · rintro earlier r later rfl hnone hlater
    have hearlier : (MemoryStore.empty.after earlier).find? = Records.after .empty earlier :=
      MemoryStore.find?_after earlier .empty
    rw [hearlier] at hnone
    have hsaved : Records.after .empty (earlier ++ .save r :: later) =
        Records.after (setAt (Records.after .empty earlier) r.server.tenant (some r)) later := by
      rw [Records.after, List.foldl_append, List.foldl_cons]
      exact congrArg (Records.after · later) (congrArg Prod.snd (Records.answer_save hnone))
    obtain ⟨r', hr', hcreated⟩ := Records.createdAt_after (setAt_same _ _ _) hlater
    rw [← hsaved] at hr'
    exact ⟨r', by rw [hkeeps.find, hr'], by rw [hfind, hr'], hcreated⟩

/-- A server in a hard world. -/
def ServerRecord.hard : ServerRecord where
  server := default
  world := { (default : WorldDetails) with modifiers := [⟨.combat, "hard"⟩, ⟨.raids, "more"⟩] }

/-- The record of a server in a hard world is found again, with the time it was saved with. -/
theorem stores_agree_of_saved :
    let cs : List StoreCall :=
      [.save .hard, .update { ServerRecord.hard.server with createdAt := 7 }]
    ((TableStore.empty.after cs).answer (.find default)).1.toOption =
        ((MemoryStore.empty.after cs).answer (.find default)).1.toOption ∧
      ∃ r, (TableStore.empty.after cs).find default = .ok (some r) ∧
        (MemoryStore.empty.after cs).find? default = some r ∧
        r.server.createdAt = ServerRecord.hard.server.createdAt := by
  intro cs
  have hhard : ∀ m ∈ ServerRecord.hard.world.modifiers, m.IsCanonical := by
    refine List.forall_mem_cons.2 ⟨?_, List.forall_mem_singleton.2 ?_⟩ <;> rfl
  have hcs : ∀ c ∈ cs, c.IsCanonical :=
    List.forall_mem_cons.2 ⟨hhard, List.forall_mem_singleton.2 trivial⟩
  obtain ⟨hagree, -, -, hkept⟩ := stores_agree (c := .find default) hcs trivial
  refine ⟨hagree, hkept [] .hard _ rfl rfl fun c hc => ?_⟩
  obtain rfl := List.mem_singleton.1 hc
  simp

end Steading
