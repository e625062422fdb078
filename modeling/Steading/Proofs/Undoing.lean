import Steading.Proofs.Provision
import Steading.Simulation

/-!
# What undoing a queue destroys

When an object of a queue cannot be created, every object of the queue is deleted by its kind and
name, the refused one and those never tried among them. If one of them was there before, it is the
old object that goes.

So an object that was there before is as it was afterwards exactly if nothing queued goes by its
kind and name, unless its deletion is made to fail or would change nothing
(`ActionQueue.sameAt_apply_iff`). A creation that succeeds leaves every such object alone.
-/

namespace Steading

namespace Holdings

/-- Nothing about an object differs. -/
def SameAt (s s' : Holdings) : Kind → String → Prop
  | .deployment, name => s'.deployments name = s.deployments name
  | .claim, name => s'.claims name = s.claims name ∧ s'.terminating name = s.terminating name

/-- A deletion would change nothing: there is no such object, or it waits to go already. -/
def Settled (s : Holdings) : Kind → String → Prop
  | .deployment, name => s.deployments name = none
  | .claim, name => s.claims name = none ∨
    (s.claims name).any Claim.hasFinalizers = true ∧ s.terminating name = true

/-- An object is deleted, unless it is kept from it. -/
def dropUnless (kept : Kind → String → Bool) (s : Holdings) (a : Action) : Holdings :=
  if kept a.kind a.name then s else s.drop a

variable {s s₁ s₂ : Holdings} {kind : Kind} {name : String} {a : Action}

namespace SameAt

theorem refl (s : Holdings) (kind : Kind) (name : String) : s.SameAt s kind name := by
  cases kind
  · exact rfl
  · exact ⟨rfl, rfl⟩

theorem trans (h₁ : s.SameAt s₁ kind name) (h₂ : s₁.SameAt s₂ kind name) :
    s.SameAt s₂ kind name := by
  cases kind with
  | deployment => exact Eq.trans h₂ h₁
  | claim => exact ⟨h₂.1.trans h₁.1, h₂.2.trans h₁.2⟩

theorem symm (h : s.SameAt s₁ kind name) : s₁.SameAt s kind name := by
  cases kind with
  | deployment => exact Eq.symm h
  | claim => exact ⟨h.1.symm, h.2.symm⟩

theorem of_sameBut {touched : Kind → String → Prop} (h : s.SameBut touched s₁)
    (hn : ¬ touched kind name) : s.SameAt s₁ kind name := by
  cases kind with
  | deployment => exact h.deployments name hn
  | claim => exact ⟨h.claims name hn, h.terminating name hn⟩

theorem has_eq (h : s.SameAt s₁ kind name) : s₁.has kind name = s.has kind name := by
  cases kind with
  | deployment => exact congrArg Option.isSome h
  | claim => exact congrArg Option.isSome h.1

theorem settled (h : s.SameAt s₁ kind name) (hs : s.Settled kind name) :
    s₁.Settled kind name := by
  cases kind with
  | deployment => exact Eq.trans h hs
  | claim =>
    simp only [Settled] at hs ⊢
    rw [h.1, h.2]
    exact hs

end SameAt

theorem sameAt_drop_of_ne (hne : ¬ (a.kind = kind ∧ a.name = name)) :
    s.SameAt (s.drop a) kind name := by
  have h : s.SameBut (fun k n => a.kind = k ∧ a.name = n) (s.drop a) := sameBut_drop ⟨rfl, rfl⟩ s
  exact .of_sameBut h hne

theorem sameAt_add_of_ne (hne : ¬ (a.kind = kind ∧ a.name = name)) :
    s.SameAt (s.add a) kind name := by
  have h : s.SameBut (fun k n => a.kind = k ∧ a.name = n) (s.add a) := sameBut_add ⟨rfl, rfl⟩ s
  exact .of_sameBut h hne

theorem settled_drop (s : Holdings) (a : Action) : (s.drop a).Settled a.kind a.name := by
  cases a with
  | deployment d => exact setAt_same _ _ _
  | claim c =>
    rw [drop]
    split_ifs with hfinalizers
    · exact .inr ⟨hfinalizers, setAt_same _ _ _⟩
    · exact .inl (setAt_same _ _ _)

theorem sameAt_drop_of_settled (hs : s.Settled a.kind a.name) :
    s.SameAt (s.drop a) a.kind a.name := by
  cases a with
  | deployment d => exact (setAt_same _ _ _).trans (Eq.symm hs)
  | claim c =>
    rcases hs with hnone | ⟨hfinalizers, hterminating⟩
    · have hnot : s.has (Action.claim c).kind (Action.claim c).name = false :=
        congrArg Option.isSome hnone
      rw [drop_of_not_has hnot]
      exact .refl s _ _
    · rw [drop, if_pos (show (s.claims c.metadata.nameOrEmpty).any Claim.hasFinalizers = true from
        hfinalizers)]
      exact ⟨rfl, (setAt_same _ _ _).trans hterminating.symm⟩

section

variable {kept : Kind → String → Bool}

theorem sameAt_dropUnless_of_settled (hs : s.Settled kind name) (a : Action) :
    s.SameAt (s.dropUnless kept a) kind name := by
  rw [dropUnless]
  split_ifs
  · exact .refl s kind name
  · by_cases ha : a.kind = kind ∧ a.name = name
    · obtain ⟨rfl, rfl⟩ := ha
      exact sameAt_drop_of_settled hs
    · exact sameAt_drop_of_ne ha

theorem sameAt_foldl_dropUnless_of_settled : ∀ (q : List Action) {s : Holdings},
    s.Settled kind name → s.SameAt (q.foldl (dropUnless kept) s) kind name
  | [], s, _ => .refl s kind name
  | a :: rest, s, hs => by
    have hstep : s.SameAt (s.dropUnless kept a) kind name := sameAt_dropUnless_of_settled hs a
    exact hstep.trans (sameAt_foldl_dropUnless_of_settled rest (hstep.settled hs))

/-- An object differs after deletions exactly if one of them was for it, was not kept from it, and
had something to change. -/
theorem sameAt_foldl_dropUnless_iff : ∀ (q : List Action) (s : Holdings),
    s.SameAt (q.foldl (dropUnless kept) s) kind name ↔
      (∀ a ∈ q, a.kind = kind → a.name = name → kept kind name = true) ∨ s.Settled kind name
  | [], s => by simp [SameAt.refl]
  | a :: rest, s => by
    rw [List.foldl_cons, List.forall_mem_cons]
    by_cases ha : a.kind = kind → a.name = name → kept kind name = true
    · have hstep : s.SameAt (s.dropUnless kept a) kind name := by
        rw [dropUnless]
        split_ifs with hkept
        · exact .refl s kind name
        · refine sameAt_drop_of_ne ?_
          rintro ⟨rfl, rfl⟩
          exact hkept (ha rfl rfl)
      have ih := sameAt_foldl_dropUnless_iff rest (s.dropUnless kept a)
      have hsettled : (s.dropUnless kept a).Settled kind name ↔ s.Settled kind name :=
        ⟨hstep.symm.settled, hstep.settled⟩
      rw [hsettled] at ih
      rw [and_iff_right ha, ← ih]
      exact ⟨hstep.symm.trans, hstep.trans⟩
    · simp only [ha, false_and, false_or]
      refine ⟨fun h => ?_, fun hs => ?_⟩
      · -- The deletion of `a` takes effect, and nothing that follows can take it back.
        rw [Classical.not_imp, Classical.not_imp] at ha
        obtain ⟨rfl, rfl, hkept⟩ := ha
        have hdrop : s.dropUnless kept a = s.drop a := if_neg hkept
        have hfinal : (s.drop a).SameAt (rest.foldl (dropUnless kept) (s.drop a)) a.kind a.name :=
          sameAt_foldl_dropUnless_of_settled rest (settled_drop s a)
        rw [hdrop] at h
        exact h.symm.settled (hfinal.settled (settled_drop s a))
      · exact sameAt_foldl_dropUnless_of_settled (a :: rest) hs

end

theorem Adds.has_eq_false_of_mem : ∀ {q : List Action} {s s' : Holdings}, Adds q s s' →
    ∀ a ∈ q, s.has a.kind a.name = false
  | [], _, _, _, b, hb => by cases hb
  | a :: rest, s, s', h, b, hb => by
    obtain ⟨hfree, hrest⟩ := h
    rcases List.mem_cons.1 hb with rfl | hb
    · exact hfree
    · by_cases hab : a.kind = b.kind ∧ a.name = b.name
      · rw [← hab.1, ← hab.2]
        exact hfree
      · rw [← (sameAt_add_of_ne hab).has_eq]
        exact has_eq_false_of_mem hrest b hb

theorem Adds.sameAt {q : List Action} {s s' : Holdings} (h : Adds q s s')
    (hs : s.has kind name = true) : s.SameAt s' kind name := by
  have hne : ∀ a ∈ q, ¬ (a.kind = kind ∧ a.name = name) := by
    rintro a ha ⟨rfl, rfl⟩
    rw [h.has_eq_false_of_mem a ha] at hs
    cases hs
  have hbut : s.SameBut (fun k n => ∃ a ∈ q, a.kind = k ∧ a.name = n) s' :=
    h.sameBut fun a ha => ⟨a, ha, rfl, rfl⟩
  refine .of_sameBut hbut ?_
  rintro ⟨a, ha, hkind, hname⟩
  exact hne a ha ⟨hkind, hname⟩

end Holdings

namespace SimulatedCluster

/-- The objects of a cluster, with no records beside them. -/
def objects (s : SimulatedCluster) : Holdings :=
  s.holdings .empty

/-- Whether the deletion of an object is made to fail. -/
def keeps (s : SimulatedCluster) : Kind → String → Bool
  | .deployment => s.failing .deleteDeployment
  | .claim => s.failing .deleteClaim

theorem keeps_of_failing {s s' : SimulatedCluster} (h : s'.failing = s.failing) :
    s'.keeps = s.keeps := by
  funext kind
  cases kind <;> simp only [keeps, h]

variable {s : SimulatedCluster} {c : ClusterCall}

theorem objects_perform_deleteDeployment (s : SimulatedCluster) (d : Deployment) :
    (s.perform (.deleteDeployment d.metadata.nameOrEmpty)).2.objects =
      s.objects.drop (.deployment d) := by
  rcases h : s.deployments d.metadata.nameOrEmpty with _ | old
  · have hnone : s.objects.has .deployment d.metadata.nameOrEmpty = false :=
      congrArg Option.isSome h
    simp only [perform, h]
    exact (Holdings.drop_of_not_has (a := .deployment d) hnone).symm
  · simp only [perform, h]
    rfl

theorem objects_perform_deleteClaim (s : SimulatedCluster) (c : Claim) :
    (s.perform (.deleteClaim c.metadata.nameOrEmpty)).2.objects = s.objects.drop (.claim c) := by
  rcases h : s.claims c.metadata.nameOrEmpty with _ | old
  · have hnone : s.objects.has .claim c.metadata.nameOrEmpty = false := congrArg Option.isSome h
    simp only [perform, h]
    exact (Holdings.drop_of_not_has (a := .claim c) hnone).symm
  · have hany : (s.objects.claims c.metadata.nameOrEmpty).any Claim.hasFinalizers =
        old.hasFinalizers := congrArg (Option.any Claim.hasFinalizers) h
    simp only [perform, h, Holdings.drop, hany]
    split_ifs <;> rfl

theorem objects_answer_of_drop {a : Action}
    (hdrop : ∀ s : SimulatedCluster, (s.perform c).2.objects = s.objects.drop a)
    (hkeeps : s.failing c.op c.target = s.keeps a.kind a.name) :
    (s.answer c).2.objects = s.objects.dropUnless s.keeps a := by
  rw [Holdings.dropUnless, ← hkeeps]
  split_ifs with hkept
  · rw [answer_of_failing hkept]
    rfl
  · rw [answer_of_not_failing hkept]
    exact hdrop (s.record c)

theorem answer_of_add {a : Action}
    (hadd : ∀ (s s' : Holdings) r, s.Gives c r s' →
      s.has a.kind a.name = false ∧ s' = s.add a) :
    (∃ r, (s.answer c).1 = .ok r ∧ s.objects.has a.kind a.name = false ∧
        (s.answer c).2.objects = s.objects.add a) ∨
      ∃ e, (s.answer c).1 = .error e ∧ (s.answer c).2.objects = s.objects := by
  have hanswer := s.habit_answer .empty c
  rcases hreply : (s.answer c).1 with e | r
  · rw [hreply] at hanswer
    exact .inr ⟨e, rfl, hanswer.2⟩
  · rw [hreply] at hanswer
    exact .inl ⟨r, rfl, hadd _ _ r hanswer⟩

end SimulatedCluster

namespace Simulation

theorem failing_run {α : Type} (p : Program α) (s : Simulation) :
    (s.run p).2.cluster.failing = s.cluster.failing := by
  induction p generalizing s with
  | done a => rfl
  | ask r next ih =>
    have hstep : (answer r s).2.cluster.failing = s.cluster.failing := by
      cases r with
      | cluster c => exact s.cluster.failing_answer c
      | _ => rfl
    exact (ih _ _).trans hstep

theorem keeps_run {α : Type} (p : Program α) (s : Simulation) :
    (s.run p).2.cluster.keeps = s.cluster.keeps :=
  SimulatedCluster.keeps_of_failing (failing_run p s)

theorem run_bind {α β : Type} (p : Program α) (f : α → Program β) (s : Simulation) :
    s.run (p >>= f) = (s.run p).2.run (f (s.run p).1) :=
  Program.run_bind outside p f s

theorem objects_run_undo (a : Action) (s : Simulation) :
    (s.run a.undo).2.cluster.objects = s.cluster.objects.dropUnless s.cluster.keeps a := by
  have hdelete : (s.run a.undo).2 = (s.run a.delete).2 := by
    rw [Action.undo, run_bind]
    cases (s.run a.delete).1 <;> rfl
  rw [hdelete]
  cases a with
  | deployment d =>
    exact SimulatedCluster.objects_answer_of_drop (·.objects_perform_deleteDeployment d) rfl
  | claim c => exact SimulatedCluster.objects_answer_of_drop (·.objects_perform_deleteClaim c) rfl

theorem objects_run_undoAll : ∀ (q : List Action) (s : Simulation),
    (s.run (ActionQueue.undoAll q)).2.cluster.objects =
      q.foldl (Holdings.dropUnless s.cluster.keeps) s.cluster.objects
  | [], _ => rfl
  | a :: rest, s => by
    rw [ActionQueue.undoAll, run_bind, objects_run_undoAll rest, keeps_run, objects_run_undo,
      List.foldl_cons]

theorem run_create (a : Action) (s : Simulation) :
    (∃ u, (s.run a.create).1 = .ok u ∧ s.cluster.objects.has a.kind a.name = false ∧
        (s.run a.create).2.cluster.objects = s.cluster.objects.add a) ∨
      ∃ e, (s.run a.create).1 = .error e ∧
        (s.run a.create).2.cluster.objects = s.cluster.objects := by
  cases a with
  | deployment d =>
    exact SimulatedCluster.answer_of_add (c := .createDeployment d) (a := .deployment d)
      fun _ _ _ h => ⟨congrArg Option.isSome h.1, h.2⟩
  | claim c =>
    exact SimulatedCluster.answer_of_add (c := .createClaim c) (a := .claim c)
      fun _ _ _ h => ⟨congrArg Option.isSome h.1, h.2⟩

/-- Either all that is left is put in, or only what comes before a refused object, and then the
whole queue is deleted. Only then is there a failure. -/
theorem run_createFrom (q : ActionQueue) :
    ∀ (rest : List Action) (created : List String) (s : Simulation),
      ((s.run (ActionQueue.createFrom q created rest)).1 = .ok (created ++ rest.map Action.name) ∧
          s.cluster.objects.Adds rest
            (s.run (ActionQueue.createFrom q created rest)).2.cluster.objects) ∨
        ∃ done a later e added, rest = done ++ a :: later ∧
          (s.run (ActionQueue.createFrom q created rest)).1 =
            .error (.create a.name (created ++ done.map Action.name) e) ∧
          s.cluster.objects.Adds done added ∧
          (s.run (ActionQueue.createFrom q created rest)).2.cluster.objects =
            q.reverse.foldl (Holdings.dropUnless s.cluster.keeps) added
  | [], created, _ => .inl ⟨by simp [ActionQueue.createFrom, run, pure, Program.run], rfl⟩
  | a :: rest, created, s => by
    rw [ActionQueue.createFrom, run_bind]
    rcases run_create a s with ⟨_, hreply, hfree, hobjects⟩ | ⟨e, hreply, hobjects⟩
    · simp only [hreply]
      rcases run_createFrom q rest (created ++ [a.name]) (s.run a.create).2 with
        ⟨hresult, hadds⟩ | ⟨done, b, later, e, added, hrest, hresult, hadds, hundone⟩
      · rw [hobjects] at hadds
        exact .inl ⟨by simp [hresult], hfree, hadds⟩
      · rw [hobjects] at hadds
        rw [keeps_run] at hundone
        exact .inr ⟨a :: done, b, later, e, added, by rw [hrest, List.cons_append],
          by simp [hresult], ⟨hfree, hadds⟩, hundone⟩
    · simp only [hreply]
      have hundone := objects_run_undoAll q.reverse (s.run a.create).2
      rw [keeps_run, hobjects] at hundone
      rw [run_bind]
      exact .inr ⟨[], a, rest, e, s.cluster.objects, rfl, by simp [run, pure, Program.run], rfl,
        hundone⟩

theorem objects_run_createFrom (q : ActionQueue) (rest : List Action) (created : List String)
    (s : Simulation) :
    s.cluster.objects.Adds rest
        (s.run (ActionQueue.createFrom q created rest)).2.cluster.objects ∨
      ∃ done added, s.cluster.objects.Adds done added ∧
        (s.run (ActionQueue.createFrom q created rest)).2.cluster.objects =
          q.reverse.foldl (Holdings.dropUnless s.cluster.keeps) added := by
  rcases run_createFrom q rest created s with
    ⟨-, hadds⟩ | ⟨done, _, _, _, added, -, -, hadds, hundone⟩
  · exact .inl hadds
  · exact .inr ⟨done, added, hadds, hundone⟩

end Simulation

namespace ActionQueue

/-- An object that was there before is as it was after a queue is applied, unless the queue has an
object of its kind and name; then it is only if its deletion fails or would change nothing. -/
theorem sameAt_apply_iff (q : ActionQueue) (s : Simulation) {kind : Kind} {name : String}
    (h : s.cluster.objects.has kind name = true) :
    s.cluster.objects.SameAt (s.run q.apply).2.cluster.objects kind name ↔
      (∀ a ∈ q, a.kind = kind → a.name = name → s.cluster.keeps kind name = true) ∨
        s.cluster.objects.Settled kind name := by
  have hrun : (s.run q.apply).2 = (s.run (createFrom q [] q)).2 := by
    rw [apply, Simulation.run_bind]
    rfl
  rw [hrun]
  rcases Simulation.objects_run_createFrom q q [] s with hadds | ⟨done, added, hadds, hundone⟩
  · refine iff_of_true (hadds.sameAt h) (.inl ?_)
    rintro a ha rfl rfl
    rw [hadds.has_eq_false_of_mem a ha] at h
    cases h
  · have hsame := hadds.sameAt h
    have hsettled : added.Settled kind name ↔ s.cluster.objects.Settled kind name :=
      ⟨hsame.symm.settled, hsame.settled⟩
    rw [hundone, ← hsettled]
    refine Iff.trans ⟨hsame.symm.trans, hsame.trans⟩ ?_
    rw [Holdings.sameAt_foldl_dropUnless_iff]
    simp only [List.mem_reverse]

/-- Surroundings with one claim in the cluster. -/
def hoard : Simulation where
  cluster := (SimulatedCluster.empty "longhall").insertClaim (.named "longhall" "hoard")
  store := default
  address := .ok "203.0.113.7"
  time := 0
  elapsed := 0
  drawn := 0

/-- The claim outlives a queue with another one of its name, as it cannot be deleted. -/
theorem sameAt_apply_of_kept :
    let s := { hoard with cluster := hoard.cluster.failOn .deleteClaim "hoard" }
    s.cluster.objects.has .claim "hoard" = true ∧
      s.cluster.objects.SameAt (s.run (apply [.claim (.named "longhall" "hoard")])).2.cluster.objects
        .claim "hoard" :=
  ⟨rfl, (sameAt_apply_iff _ _ rfl).2 (.inl fun _ _ _ _ => rfl)⟩

/-- The claim goes when another one of its name cannot be created. -/
theorem exists_destroyed : ¬ ∀ (q : ActionQueue) (s : Simulation) (kind : Kind) (name : String),
    s.cluster.objects.has kind name = true →
      s.cluster.objects.SameAt (s.run q.apply).2.cluster.objects kind name := by
  intro h
  have hsame := (h [.claim (.named "longhall" "hoard")] hoard .claim "hoard" rfl).has_eq
  have hgone : (hoard.run (apply [.claim (.named "longhall" "hoard")])).2.cluster.objects.has
      .claim "hoard" = false := by decide +kernel
  rw [hgone] at hsame
  cases hsame

end ActionQueue

end Steading
