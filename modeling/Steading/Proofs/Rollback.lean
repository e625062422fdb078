import Steading.Proofs.Applying
import Steading.Proofs.Undoing

/-!
# Queues that are rolled back

A queue that is rolled back has every object deleted once, in the order they were queued, whatever
these deletions are replied. An object that is gone then is reported by its name, any other by what
stands in its way. These are the traces a rollback can have and all of them
(`ActionQueue.runs_rollback_iff`).

In a simulated cluster a deletion can only fail where it is made to, and one that has gone through
has nothing left to change. So rolling a queue back once more comes to the same and changes nothing
(`ActionQueue.rolls_back_all`).
-/

namespace Steading

variable {σ : Type} {may : Habit σ} {s s' : σ} {es : List (Exchange σ)}

/-- A deletion has come to an end as its reply says. -/
def undone (reply : Except ClusterError Unit) : Except ClusterError Unit :=
  match obstacle? reply with
  | none => .ok ()
  | some e => .error e

namespace Action

theorem deleted_injective (a : Action) (s : σ) :
    Function.Injective fun reply => a.deleted s reply := by
  intro reply reply' h
  cases a <;>
  · simp only [deleted, Exchange.mk.injEq, heq_eq_eq, true_and] at h
    exact h

theorem runs_undo_undone (a : Action) (reply : Except ClusterError Unit) :
    a.undo.Runs Habit.any () [a.deleted () reply] (undone reply) () := by
  obtain ⟨result, run⟩ := a.runs_undo_deleted reply
  obtain ⟨reply', heq, hresult⟩ := result_of_runs_undo run
  obtain rfl : reply = reply' := a.deleted_injective () (List.singleton_inj.1 heq)
  rcases hresult with ⟨hgone, rfl⟩ | ⟨e, hleft, rfl⟩
  · rwa [undone, hgone]
  · rwa [undone, hleft]

end Action

namespace ActionQueue

variable {q : ActionQueue} {replies : List (Except ClusterError Unit)}

theorem Tried.requests (h : Tried q replies es) : es.map (·.request) = q.map Action.deletion := by
  induction h with
  | nil => rfl
  | @cons a _ _ _ _ _ _ ih =>
    rw [List.map_cons, List.map_cons, ih]
    cases a <;> rfl

/-- Every object is accounted for, by its name or by what stands in its way. -/
theorem Tried.length_gone_add (h : Tried q replies es) :
    (gone q replies).length + (obstacles replies).length = q.length := by
  induction h with
  | nil => rfl
  | @cons a q reply replies _ _ _ ih =>
    rw [List.length_cons]
    rcases hreply : obstacle? reply with _ | e
    · have hgone : gone (a :: q) (reply :: replies) = a.name :: gone q replies := by
        simp [gone, hreply]
      have hleft : obstacles (reply :: replies) = obstacles replies := by
        simp [obstacles, hreply]
      rw [hgone, hleft, List.length_cons]
      omega
    · have hgone : gone (a :: q) (reply :: replies) = gone q replies := by
        simp [gone, hreply]
      have hleft : obstacles (reply :: replies) = e.message :: obstacles replies := by
        simp [obstacles, hreply]
      rw [hgone, hleft, List.length_cons]
      omega

/-- The replies may be any, and the deletions go on behind each of them. -/
theorem runs_deleteFrom_of_tried {es : List (Exchange Unit)} (h : Tried q replies es)
    (names texts : List String) :
    (deleteFrom names texts q).Runs Habit.any () es
      (verdict (names ++ gone q replies) (texts ++ obstacles replies)) () := by
  induction h generalizing names texts with
  | nil =>
    rw [show gone [] [] = [] from rfl, show obstacles [] = [] from rfl, List.append_nil,
      List.append_nil]
    exact .done _ _
  | @cons a q reply replies _ _ _ ih =>
    refine Program.runs_bind.2 ⟨_, undone reply, (), _, a.runs_undo_undone reply, ?_, rfl⟩
    rcases hreply : obstacle? reply with _ | e
    · have hrest := ih (names ++ [a.name]) texts
      simpa [undone, hreply, gone, obstacles] using hrest
    · have hrest := ih names (texts ++ [e.message])
      simpa [undone, hreply, gone, obstacles] using hrest

/-- The runs of a rollback are those in which the cluster may reply what it does and every object
is deleted in turn. Afterwards the queue is empty, however it went. -/
theorem runs_rollback_iff {left : ActionQueue} {result : Except ProvisionError (List String)} :
    q.rollback.Runs may s es (result, left) s' ↔
      ∃ replies, Tried q replies (es.map Exchange.said) ∧
        result = verdict (gone q replies) (obstacles replies) ∧ left = [] ∧ may.Gives s es s' := by
  have hrollback : q.rollback = (fun result => (result, [])) <$> deleteFrom [] [] q :=
    (map_eq_pure_bind _ _).symm
  rw [hrollback, Program.runs_map]
  constructor
  · rintro ⟨result', run, heq⟩
    obtain ⟨rfl, rfl⟩ := Prod.mk.inj heq
    obtain ⟨hsaid, hgives⟩ := Program.runs_iff_said.1 run
    obtain ⟨replies, htried, hresult⟩ := tried_of_runs_deleteFrom hsaid
    exact ⟨replies, htried, hresult, rfl, hgives⟩
  · rintro ⟨replies, htried, rfl, rfl, hgives⟩
    exact ⟨_, Program.runs_iff_said.2 ⟨runs_deleteFrom_of_tried htried [] [], hgives⟩, rfl⟩

end ActionQueue

namespace Holdings

variable {s s' : Holdings} {a : Action} {kept : Kind → String → Bool}

/-- Claims, deployments and which claims are terminating are all that is held beside the
records. -/
theorem eq_of_sameAt (h : ∀ kind name, s.SameAt s' kind name) (hrecords : s'.records = s.records) :
    s' = s := by
  have hdeployments : s'.deployments = s.deployments := funext fun name => h .deployment name
  have hclaims : s'.claims = s.claims := funext fun name => (h .claim name).1
  have hterminating : s'.terminating = s.terminating := funext fun name => (h .claim name).2
  cases s
  cases s'
  simp_all

theorem drop_of_settled (hs : s.Settled a.kind a.name) : s.drop a = s := by
  refine eq_of_sameAt (fun kind name => ?_) (records_drop s a)
  by_cases ha : a.kind = kind ∧ a.name = name
  · obtain ⟨rfl, rfl⟩ := ha
    exact sameAt_drop_of_settled hs
  · exact sameAt_drop_of_ne ha

theorem foldl_dropUnless_of_settled : ∀ {q : List Action},
    (∀ a ∈ q, kept a.kind a.name = true ∨ s.Settled a.kind a.name) →
      q.foldl (dropUnless kept) s = s
  | [], _ => rfl
  | a :: rest, hq => by
    obtain ⟨ha, hrest⟩ := List.forall_mem_cons.1 hq
    have hstep : s.dropUnless kept a = s := by
      rw [dropUnless]
      split_ifs with hkept
      · rfl
      · exact drop_of_settled (ha.resolve_left hkept)
    rw [List.foldl_cons, hstep]
    exact foldl_dropUnless_of_settled hrest

/-- After deletions each object is either kept or has nothing left to lose. -/
theorem settled_foldl_dropUnless {q : List Action} {s : Holdings} (ha : a ∈ q) :
    kept a.kind a.name = true ∨ (q.foldl (dropUnless kept) s).Settled a.kind a.name := by
  induction q generalizing s with
  | nil => cases ha
  | cons b rest ih =>
    rw [List.foldl_cons]
    rcases List.mem_cons.1 ha with rfl | ha
    · rw [dropUnless]
      split_ifs with hkept
      · exact .inl hkept
      · have hsettled := settled_drop s a
        exact .inr ((sameAt_foldl_dropUnless_of_settled rest hsettled).settled hsettled)
    · exact ih ha

end Holdings

namespace Simulation

/-- What a deletion that is made to fail comes to. -/
def injected (a : Action) : ClusterError :=
  .api a.kind a.name (some 500) "injected failure"

theorem undone_run_delete_of_kept {a : Action} {s : Simulation}
    (hkept : s.cluster.keeps a.kind a.name = true) :
    undone (s.run a.delete).1 = .error (injected a) := by
  cases a with
  | deployment d =>
    change undone (s.cluster.answer (.deleteDeployment d.metadata.nameOrEmpty)).1 = _
    rw [SimulatedCluster.answer_of_failing hkept]
    rfl
  | claim c =>
    change undone (s.cluster.answer (.deleteClaim c.metadata.nameOrEmpty)).1 = _
    rw [SimulatedCluster.answer_of_failing hkept]
    rfl

/-- It does not matter whether the object is there. -/
theorem undone_run_delete {a : Action} {s : Simulation}
    (hkept : s.cluster.keeps a.kind a.name ≠ true) : undone (s.run a.delete).1 = .ok () := by
  cases a with
  | deployment d =>
    change undone (s.cluster.answer (.deleteDeployment d.metadata.nameOrEmpty)).1 = _
    rw [SimulatedCluster.answer_of_not_failing hkept]
    simp only [SimulatedCluster.perform]
    split <;> rfl
  | claim c =>
    change undone (s.cluster.answer (.deleteClaim c.metadata.nameOrEmpty)).1 = _
    rw [SimulatedCluster.answer_of_not_failing hkept]
    simp only [SimulatedCluster.perform]
    split
    · rfl
    · split_ifs <;> rfl

theorem result_run_undo (a : Action) (s : Simulation) :
    (s.run a.undo).1 =
      if s.cluster.keeps a.kind a.name then .error (injected a) else .ok () := by
  have hundo : (s.run a.undo).1 = undone (s.run a.delete).1 := by
    rw [Action.undo, run_bind]
    rcases (s.run a.delete).1 with e | u
    · cases hnotFound : e.isNotFound <;>
        simp [undone, obstacle?, hnotFound, run, Program.run, pure]
    · rfl
  rw [hundo]
  split_ifs with hkept
  · exact undone_run_delete_of_kept hkept
  · exact undone_run_delete hkept

/-- What is left of a rollback depends on nothing but the deletions that are made to fail. -/
theorem result_run_deleteFrom : ∀ (q : List Action) (names texts : List String) (s : Simulation),
    (s.run (ActionQueue.deleteFrom names texts q)).1 =
      ActionQueue.verdict
        (names ++ (q.filter fun a => !s.cluster.keeps a.kind a.name).map Action.name)
        (texts ++ (q.filter fun a => s.cluster.keeps a.kind a.name).map fun a =>
          (injected a).message)
  | [], names, texts, s => by
    simp [ActionQueue.deleteFrom, ActionQueue.verdict, run, Program.run, pure]
  | a :: rest, names, texts, s => by
    rw [ActionQueue.deleteFrom, run_bind, result_run_undo]
    split_ifs with hkept
    · simp only [result_run_deleteFrom rest, keeps_run, hkept, List.filter_cons, Bool.not_true,
        Bool.false_eq_true, if_true, if_false, List.map_cons, List.append_assoc,
        List.singleton_append]
    · simp only [result_run_deleteFrom rest, keeps_run, hkept, List.filter_cons, Bool.not_false,
        Bool.false_eq_true, if_true, if_false, List.map_cons, List.append_assoc,
        List.singleton_append]

theorem objects_run_deleteFrom : ∀ (q : List Action) (names texts : List String) (s : Simulation),
    (s.run (ActionQueue.deleteFrom names texts q)).2.cluster.objects =
      q.foldl (Holdings.dropUnless s.cluster.keeps) s.cluster.objects
  | [], _, _, _ => by
    rw [ActionQueue.deleteFrom]
    split <;> rfl
  | a :: rest, names, texts, s => by
    rw [ActionQueue.deleteFrom, run_bind, List.foldl_cons, ← objects_run_undo, ← keeps_run a.undo s]
    cases (s.run a.undo).1 <;> exact objects_run_deleteFrom rest _ _ _

end Simulation

namespace ActionQueue

theorem run_rollback (q : ActionQueue) (s : Simulation) :
    s.run q.rollback = (((s.run (deleteFrom [] [] q)).1, []), (s.run (deleteFrom [] [] q)).2) := by
  rw [rollback, Simulation.run_bind]
  rfl

/-- Whatever the deletions of a rollback are replied, every object is deleted in turn and accounted
for, and the queue is empty. In a simulated cluster only a deletion that is made to fail does, and a
second rollback comes to the same and changes no object. -/
theorem rolls_back_all (q : ActionQueue) :
    (∀ {σ : Type} {may : Habit σ} {s s' : σ} {es : List (Exchange σ)}
      {result : Except ProvisionError (List String)} {left : ActionQueue},
      q.rollback.Runs may s es (result, left) s' ↔
        ∃ replies, Tried q replies (es.map Exchange.said) ∧
          result = verdict (gone q replies) (obstacles replies) ∧ left = [] ∧
          may.Gives s es s') ∧
    (∀ {es : List (Exchange Unit)} {replies : List (Except ClusterError Unit)},
      Tried q replies es →
        es.map (·.request) = q.map Action.deletion ∧
        (gone q replies).length + (obstacles replies).length = q.length ∧
        (obstacles replies = [] →
          verdict (gone q replies) (obstacles replies) = .ok (gone q replies)) ∧
        (obstacles replies ≠ [] → verdict (gone q replies) (obstacles replies) =
          .error (.rollback (gone q replies) (obstacles replies)))) ∧
    ∀ s : Simulation,
      ((∀ a ∈ q, s.cluster.keeps a.kind a.name = false) →
        (s.run q.rollback).1 = (.ok (q.map Action.name), [])) ∧
      ((s.run q.rollback).2.run q.rollback).1 = (s.run q.rollback).1 ∧
      ((s.run q.rollback).2.run q.rollback).2.cluster.objects =
        (s.run q.rollback).2.cluster.objects := by
  refine ⟨runs_rollback_iff, fun h => ⟨h.requests, h.length_gone_add, fun hnone => ?_,
    fun hsome => ?_⟩, fun s => ⟨fun hkept => ?_, ?_, ?_⟩⟩
  · rw [hnone]
    rfl
  · exact if_neg fun hempty => hsome (List.isEmpty_iff.1 hempty)
  · have hall : q.filter (fun a => !s.cluster.keeps a.kind a.name) = q :=
      List.filter_eq_self.2 fun a ha => by rw [hkept a ha, Bool.not_false]
    have hnone : q.filter (fun a => s.cluster.keeps a.kind a.name) = [] :=
      List.filter_eq_nil_iff.2 fun a ha => by rw [hkept a ha]; exact Bool.false_ne_true
    rw [run_rollback, Simulation.result_run_deleteFrom, hall, hnone]
    rfl
  · simp only [run_rollback, Simulation.result_run_deleteFrom, Simulation.keeps_run]
  · simp only [run_rollback, Simulation.objects_run_deleteFrom, Simulation.keeps_run]
    exact Holdings.foldl_dropUnless_of_settled fun _ => Holdings.settled_foldl_dropUnless

/-- Of two claims and a deployment the first claim does not go in time and the deployment is not
there. In a cluster that holds the second claim only, all of them are reported as gone, twice. -/
theorem rolls_back_all_of_timeout :
    let q : ActionQueue := [.claim (.named "longhall" "grove"),
      .deployment (.named "longhall" "grove"), .claim (.named "longhall" "hoard")]
    let timeout : ClusterError := .timeout .claim "grove" default
    let replies := [.error timeout, .error (.notFound .deployment "grove"), .ok ()]
    q.rollback.Runs Habit.any () ((q.zip replies).map fun p => p.1.deleted () p.2)
        (.error (.rollback ["grove", "hoard"] [timeout.message]), []) () ∧
      (gone q replies).length + (obstacles replies).length = 3 ∧
      (hoard.run q.rollback).1 = (.ok ["grove", "grove", "hoard"], []) ∧
      ((hoard.run q.rollback).2.run q.rollback).1 = (hoard.run q.rollback).1 := by
  intro q timeout replies
  have htried : Tried q replies ((q.zip replies).map fun p => p.1.deleted () p.2) :=
    .cons (.cons (.cons .nil))
  have hkept : ∀ a ∈ q, hoard.cluster.keeps a.kind a.name = false :=
    List.forall_mem_cons.2 ⟨rfl, List.forall_mem_cons.2 ⟨rfl, List.forall_mem_singleton.2 rfl⟩⟩
  obtain ⟨hruns, haccounts, hsimulated⟩ := rolls_back_all q
  exact ⟨hruns.2 ⟨replies, htried, rfl, rfl,
      .cons trivial (.cons trivial (.cons trivial (.nil ())))⟩,
    (haccounts htried).2.1, (hsimulated hoard).1 hkept, (hsimulated hoard).2.1⟩

end ActionQueue

end Steading
