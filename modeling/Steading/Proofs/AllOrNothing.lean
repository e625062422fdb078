import Steading.Proofs.Undoing

/-!
# All or nothing

If a queue is applied and nothing fails, what the cluster holds afterwards is what it held and the
queued objects, each of them where there was none (`Holdings.Gains`). If something fails, nothing
is held any more that goes by the kind and name of a queued object, as long as no deletion fails
and no finalizer is in the way (`Holdings.Loses`). So a queue of new objects is created as a whole
or not at all (`ActionQueue.all_or_nothing`).

While a queue is undone the cluster only ever loses objects, so it does not matter in what order
they go, how often one is queued or which of them had been created: `Holdings.object?_foldl_remove`
says what is left.
-/

namespace Steading

namespace Holdings

/-- What goes by a name. -/
def object? (s : Holdings) : Kind → String → Option Action
  | .deployment, name => (s.deployments name).map .deployment
  | .claim, name => (s.claims name).map .claim

/-- Takes away what goes by the kind and name of an object. -/
def remove (s : Holdings) : Action → Holdings
  | .deployment d => s.putDeployment d.metadata.nameOrEmpty none
  | .claim c => s.putClaim c.metadata.nameOrEmpty none

/-- The objects of a queue have come, each where there was none, and nothing else is different. -/
structure Gains (q : List Action) (s s' : Holdings) : Prop where
  free : ∀ a ∈ q, s.object? a.kind a.name = none
  distinct : (q.map fun a => (a.kind, a.name)).Nodup
  holds : ∀ kind name a, s'.object? kind name = some a ↔
    s.object? kind name = some a ∨ a ∈ q ∧ a.kind = kind ∧ a.name = name
  terminating : s'.terminating = s.terminating

/-- Nothing is there that goes by the kind and name of a queued object, and nothing else is
different. -/
structure Loses (q : List Action) (s s' : Holdings) : Prop where
  gone : ∀ a ∈ q, s'.object? a.kind a.name = none
  others : ∀ kind name, (∀ a ∈ q, ¬ (a.kind = kind ∧ a.name = name)) →
    s'.object? kind name = s.object? kind name
  terminating : s'.terminating = s.terminating

/-- No claim that is queued or goes by the name of a queued one has finalizers. -/
structure Unguarded (q : List Action) (s : Holdings) : Prop where
  queued : ∀ c, Action.claim c ∈ q → c.hasFinalizers = false
  held : ∀ a ∈ q, ∀ c, s.object? a.kind a.name = some (.claim c) → c.hasFinalizers = false

variable {s s' : Holdings} {kind : Kind} {name : String} {a : Action} {q : List Action}

theorem object?_eq_none_iff : s.object? kind name = none ↔ s.has kind name = false := by
  cases kind <;> simp [object?, has]

theorem object?_add (s : Holdings) (a : Action) (kind : Kind) (name : String) :
    (s.add a).object? kind name =
      if a.kind = kind ∧ a.name = name then some a else s.object? kind name := by
  cases a <;> cases kind <;>
    simp only [object?, add, Action.kind, Action.name, putClaim, putDeployment, reduceCtorEq,
      false_and, true_and, if_false, setAt, eq_comm (a := name)] <;>
    split_ifs <;> rfl

theorem object?_remove (s : Holdings) (a : Action) (kind : Kind) (name : String) :
    (s.remove a).object? kind name =
      if a.kind = kind ∧ a.name = name then none else s.object? kind name := by
  cases a <;> cases kind <;>
    simp only [object?, remove, Action.kind, Action.name, putClaim, putDeployment, reduceCtorEq,
      false_and, true_and, if_false, setAt, eq_comm (a := name)] <;>
    split_ifs <;> rfl

@[simp]
theorem terminating_add (s : Holdings) (a : Action) : (s.add a).terminating = s.terminating := by
  cases a <;> rfl

@[simp]
theorem terminating_remove (s : Holdings) (a : Action) :
    (s.remove a).terminating = s.terminating := by
  cases a <;> rfl

/-- A claim without finalizers goes at once when it is deleted. -/
theorem drop_eq_remove (hs : s.Unguarded q) (ha : a ∈ q) : s.drop a = s.remove a := by
  cases a with
  | deployment d => rfl
  | claim c =>
    have hnone : (s.claims c.metadata.nameOrEmpty).any Claim.hasFinalizers = false := by
      rcases hheld : s.claims c.metadata.nameOrEmpty with _ | old
      · rfl
      · exact hs.held _ ha old (by simp [object?, Action.kind, Action.name, hheld])
    rw [drop, hnone, if_neg (by simp), remove]

theorem Unguarded.add (hs : s.Unguarded q) (ha : a ∈ q) : (s.add a).Unguarded q where
  queued := hs.queued
  held b hb c hc := by
    rw [object?_add] at hc
    split_ifs at hc
    · obtain rfl := Option.some.inj hc
      exact hs.queued c ha
    · exact hs.held b hb c hc

theorem Unguarded.remove (hs : s.Unguarded q) (a : Action) : (s.remove a).Unguarded q where
  queued := hs.queued
  held b hb c hc := by
    rw [object?_remove] at hc
    split_ifs at hc
    exact hs.held b hb c hc

theorem Adds.unguarded : ∀ {done : List Action} {s s' : Holdings}, Adds done s s' → done ⊆ q →
    s.Unguarded q → s'.Unguarded q
  | [], _, _, hadds, _, hs => by
    rw [Adds] at hadds
    rwa [hadds]
  | a :: done, s, s', hadds, hsub, hs => by
    obtain ⟨ha, hdone⟩ := List.cons_subset.1 hsub
    exact unguarded hadds.2 hdone (hs.add ha)

theorem Adds.terminating_eq : ∀ {q : List Action} {s s' : Holdings}, Adds q s s' →
    s'.terminating = s.terminating
  | [], _, _, hadds => by rw [hadds]
  | a :: q, s, s', hadds => (terminating_eq hadds.2).trans (terminating_add s a)

theorem Adds.object?_eq_some_iff : ∀ {q : List Action} {s s' : Holdings}, Adds q s s' →
    (s'.object? kind name = some a ↔
      s.object? kind name = some a ∨ a ∈ q ∧ a.kind = kind ∧ a.name = name)
  | [], s, s', hadds => by
    rw [Adds] at hadds
    simp [hadds]
  | b :: q, s, s', hadds => by
    obtain ⟨hfree, hadds⟩ := hadds
    rw [object?_eq_some_iff hadds, object?_add, List.mem_cons]
    by_cases hb : b.kind = kind ∧ b.name = name
    · obtain ⟨rfl, rfl⟩ := hb
      rw [if_pos ⟨rfl, rfl⟩, object?_eq_none_iff.2 hfree]
      constructor
      · rintro (h | ⟨hmem, hkind, hname⟩)
        · obtain rfl := Option.some.inj h
          exact .inr ⟨.inl rfl, rfl, rfl⟩
        · exact .inr ⟨.inr hmem, hkind, hname⟩
      · rintro (h | ⟨rfl | hmem, hkind, hname⟩)
        · cases h
        · exact .inl rfl
        · exact .inr ⟨hmem, hkind, hname⟩
    · rw [if_neg hb]
      constructor
      · rintro (h | ⟨hmem, hkind, hname⟩)
        · exact .inl h
        · exact .inr ⟨.inr hmem, hkind, hname⟩
      · rintro (h | ⟨rfl | hmem, hkind, hname⟩)
        · exact .inl h
        · exact absurd ⟨hkind, hname⟩ hb
        · exact .inr ⟨hmem, hkind, hname⟩

theorem Adds.nodup : ∀ {q : List Action} {s s' : Holdings}, Adds q s s' →
    (q.map fun a => (a.kind, a.name)).Nodup
  | [], _, _, _ => List.nodup_nil
  | a :: q, s, s', hadds => by
    rw [List.map_cons, List.nodup_cons]
    refine ⟨?_, nodup hadds.2⟩
    intro hmem
    obtain ⟨b, hb, heq⟩ := List.mem_map.1 hmem
    have hfree := object?_eq_none_iff.2 (hadds.2.has_eq_false_of_mem b hb)
    rw [object?_add, if_pos ⟨(congrArg Prod.fst heq).symm, (congrArg Prod.snd heq).symm⟩] at hfree
    cases hfree

theorem Adds.gains (hadds : Adds q s s') : s.Gains q s' where
  free a ha := object?_eq_none_iff.2 (hadds.has_eq_false_of_mem a ha)
  distinct := hadds.nodup
  holds _ _ _ := hadds.object?_eq_some_iff
  terminating := hadds.terminating_eq

theorem foldl_dropUnless_eq_remove {kept : Kind → String → Bool}
    (hkept : ∀ a ∈ q, kept a.kind a.name = false) :
    ∀ {rest : List Action} {s : Holdings}, rest ⊆ q → s.Unguarded q →
      rest.foldl (dropUnless kept) s = rest.foldl remove s
  | [], _, _, _ => rfl
  | a :: rest, s, hsub, hs => by
    obtain ⟨ha, hrest⟩ := List.cons_subset.1 hsub
    have hstep : s.dropUnless kept a = s.remove a := by
      rw [dropUnless, hkept a ha, if_neg (by simp), drop_eq_remove hs ha]
    rw [List.foldl_cons, List.foldl_cons, hstep]
    exact foldl_dropUnless_eq_remove hkept hrest (hs.remove a)

theorem terminating_foldl_remove : ∀ (q : List Action) (s : Holdings),
    (q.foldl remove s).terminating = s.terminating
  | [], _ => rfl
  | a :: q, s => (terminating_foldl_remove q (s.remove a)).trans (terminating_remove s a)

open scoped Classical in
theorem object?_foldl_remove : ∀ (q : List Action) (s : Holdings),
    (q.foldl remove s).object? kind name =
      if ∃ a ∈ q, a.kind = kind ∧ a.name = name then none else s.object? kind name
  | [], s => by simp
  | b :: q, s => by
    simp only [List.foldl_cons, object?_foldl_remove q, object?_remove, List.mem_cons,
      exists_eq_or_imp]
    by_cases hb : b.kind = kind ∧ b.name = name <;> simp [hb]

/-- It does not matter which objects had been created before all were taken away. -/
theorem Adds.loses {done : List Action} {added : Holdings} (hadds : Adds done s added)
    (hsub : done ⊆ q) : s.Loses q (q.reverse.foldl remove added) where
  gone a ha := by
    rw [object?_foldl_remove, if_pos ⟨a, List.mem_reverse.2 ha, rfl, rfl⟩]
  others kind name hq := by
    have hnone : ¬ ∃ a ∈ q.reverse, a.kind = kind ∧ a.name = name := by
      rintro ⟨a, ha, hsame⟩
      exact hq a (List.mem_reverse.1 ha) hsame
    rw [object?_foldl_remove, if_neg hnone]
    ext a
    rw [hadds.object?_eq_some_iff, or_iff_left]
    rintro ⟨ha, hsame⟩
    exact hq a (hsub ha) hsame
  terminating := by rw [terminating_foldl_remove, hadds.terminating_eq]

/-- What the kinds and names stand for is all that is held beside the records. -/
theorem eq_of_object? (h : ∀ kind name, s'.object? kind name = s.object? kind name)
    (hterminating : s'.terminating = s.terminating) (hrecords : s'.records = s.records) :
    s' = s := by
  have hclaims : s'.claims = s.claims := by
    funext name
    exact Option.map_injective (fun _ _ heq => Action.claim.inj heq) (h .claim name)
  have hdeployments : s'.deployments = s.deployments := by
    funext name
    exact Option.map_injective (fun _ _ heq => Action.deployment.inj heq) (h .deployment name)
  cases s
  cases s'
  simp_all

theorem Loses.eq_of_free (h : s.Loses q s') (hfree : ∀ a ∈ q, s.object? a.kind a.name = none)
    (hrecords : s'.records = s.records) : s' = s := by
  refine eq_of_object? (fun kind name => ?_) h.terminating hrecords
  by_cases hq : ∃ a ∈ q, a.kind = kind ∧ a.name = name
  · obtain ⟨a, ha, rfl, rfl⟩ := hq
    rw [h.gone a ha, hfree a ha]
  · exact h.others kind name fun a ha hsame => hq ⟨a, ha, hsame⟩

end Holdings

namespace ActionQueue

/-- If a queue is applied, either its objects have come and nothing else is different, or there is
an error. Then, as long as no deletion of a queued object is made to fail and no finalizers are in
the way, the queued objects are gone and nothing else is different; nothing at all is, if there were
none of them before. -/
theorem all_or_nothing (q : ActionQueue) (s : Simulation) :
    (∀ names, (s.run q.apply).1.1 = .ok names →
      s.cluster.objects.Gains q (s.run q.apply).2.cluster.objects) ∧
    ∀ e, (s.run q.apply).1.1 = .error e →
      (∀ a ∈ q, s.cluster.keeps a.kind a.name = false) → s.cluster.objects.Unguarded q →
        s.cluster.objects.Loses q (s.run q.apply).2.cluster.objects ∧
          ((∀ a ∈ q, s.cluster.objects.object? a.kind a.name = none) →
            (s.run q.apply).2.cluster.objects = s.cluster.objects) := by
  have hrun : s.run (createFrom q [] q) = ((s.run q.apply).1.1, (s.run q.apply).2) := by
    rw [apply, Simulation.run_bind]
    rfl
  have hcases := Simulation.run_createFrom q q [] s
  rw [hrun] at hcases
  rcases hcases with ⟨hresult, hadds⟩ | ⟨done, a, later, e, added, hq, hresult, hadds, hundone⟩
  · refine ⟨fun _ _ => hadds.gains, fun e he => ?_⟩
    rw [hresult] at he
    cases he
  · refine ⟨fun names hnames => ?_, fun e' _ hkept hs => ?_⟩
    · rw [hresult] at hnames
      cases hnames
    · have hdone : done ⊆ q := by
        rw [hq]
        exact List.subset_append_left _ _
      have hobjects : (s.run q.apply).2.cluster.objects =
          q.reverse.foldl Holdings.remove added := by
        rw [← Holdings.foldl_dropUnless_eq_remove hkept (List.reverse_subset.2 (List.Subset.refl q))
          (hadds.unguarded hdone hs)]
        exact hundone
      have hloses : s.cluster.objects.Loses q (s.run q.apply).2.cluster.objects := by
        rw [hobjects]
        exact hadds.loses hdone
      exact ⟨hloses, fun hfree => hloses.eq_of_free hfree rfl⟩

/-- A claim and a deployment beside the claim of another server: they come together, or neither
does because the deployment cannot be created. -/
theorem all_or_nothing_beside_hoard :
    let q : ActionQueue :=
      [.claim (.named "longhall" "grove"), .deployment (.named "longhall" "grove")]
    let s := { hoard with cluster := hoard.cluster.failOn .createDeployment "grove" }
    hoard.cluster.objects.Gains q (hoard.run q.apply).2.cluster.objects ∧
      (s.run q.apply).2.cluster.objects = s.cluster.objects := by
  intro q s
  have hkept : ∀ a ∈ q, s.cluster.keeps a.kind a.name = false :=
    List.forall_mem_cons.2 ⟨rfl, List.forall_mem_singleton.2 rfl⟩
  have hfree : ∀ a ∈ q, s.cluster.objects.object? a.kind a.name = none :=
    List.forall_mem_cons.2 ⟨rfl, List.forall_mem_singleton.2 rfl⟩
  have hunguarded : s.cluster.objects.Unguarded q := by
    refine ⟨fun c hc => ?_, fun a ha c hc => ?_⟩
    · obtain rfl : c = .named "longhall" "grove" := by simpa [q] using hc
      rfl
    · rw [hfree a ha] at hc
      cases hc
  exact ⟨(all_or_nothing q hoard).1 ["grove", "grove"] rfl,
    ((all_or_nothing q s).2 (.create "grove" ["grove"] (.api .deployment "grove" (some 500)
      "injected failure")) rfl hkept hunguarded).2 hfree⟩

end ActionQueue

end Steading
