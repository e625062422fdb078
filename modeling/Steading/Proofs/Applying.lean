import Steading.Proofs.Deletion

/-!
# The trace of a queue that is applied

A queue that is applied says one of two things to the cluster. Either every object is created in
the order it was queued, or those before some object are, that one is refused, and then every
object of the queue is deleted once, the newest first, whatever these deletions are replied
(`ActionQueue.Applied`). These are the traces it can have and all of them
(`ActionQueue.runs_apply_iff`), and no object is left in the queue.
-/

namespace Steading

variable {σ : Type} {may : Habit σ} {s s' : σ} {es : List (Exchange σ)}

namespace Action

/-- The exchange in which an object is not created. -/
def refused (s : σ) (e : ClusterError) : Action → Exchange σ
  | deployment d => ⟨s, .cluster (.createDeployment d), .error e⟩
  | claim c => ⟨s, .cluster (.createClaim c), .error e⟩

theorem eq_refused {a : Action} {x : Exchange σ} {e : ClusterError} (hx : x.request = a.creation)
    (he : x.refusal? = some e) : x = a.refused x.state e := by
  obtain ⟨s, r, reply⟩ := x
  cases a <;>
  · obtain rfl : r = _ := hx
    cases reply with
    | ok => cases he
    | error e' =>
      obtain rfl : e' = e := Option.some.inj he
      rfl

theorem eq_deleted {a : Action} {x : Exchange σ} (hx : x.request = a.deletion) :
    ∃ reply, x = a.deleted x.state reply := by
  obtain ⟨s, r, reply⟩ := x
  cases a <;>
  · obtain rfl : r = _ := hx
    exact ⟨reply, rfl⟩

theorem runs_create_accepted (a : Action) :
    a.create.Runs Habit.any () [a.accepted ()] (.ok ()) () := by
  cases a <;> exact Program.runs_request.2 ⟨rfl, trivial⟩

theorem runs_create_refused (a : Action) (e : ClusterError) :
    a.create.Runs Habit.any () [a.refused () e] (.error e) () := by
  cases a <;> exact Program.runs_request.2 ⟨rfl, trivial⟩

theorem runs_undo_deleted (a : Action) (reply : Except ClusterError Unit) :
    ∃ result, a.undo.Runs Habit.any () [a.deleted () reply] result () := by
  have hdelete : a.delete.Runs Habit.any () [a.deleted () reply] reply () := by
    cases a <;> exact Program.runs_request.2 ⟨rfl, trivial⟩
  cases reply with
  | ok u => exact ⟨_, Program.runs_bind.2 ⟨_, _, (), [], hdelete, .done _ _, by simp⟩⟩
  | error e => exact ⟨_, Program.runs_bind.2 ⟨_, _, (), [], hdelete, .done _ _, by simp⟩⟩

end Action

namespace ActionQueue

theorem tried_of_requests {q : List Action} (h : es.map (·.request) = q.map Action.deletion) :
    ∃ replies, Tried q replies es := by
  induction q generalizing es with
  | nil =>
    have hes : es = [] := by simpa using h
    subst hes
    exact ⟨[], .nil⟩
  | cons a q ih =>
    obtain ⟨x, rest, rfl, hx, hrest⟩ := List.map_eq_cons_iff.1 h
    obtain ⟨reply, hreply⟩ := Action.eq_deleted hx
    obtain ⟨replies, htried⟩ := ih hrest
    rw [hreply]
    exact ⟨reply :: replies, .cons htried⟩

theorem runs_undoAll_of_tried {q : List Action} {replies : List (Except ClusterError Unit)}
    {es : List (Exchange Unit)} (h : Tried q replies es) :
    (undoAll q).Runs Habit.any () es () () := by
  induction h with
  | nil => exact .done _ _
  | cons _ ih =>
    obtain ⟨result, hundo⟩ := Action.runs_undo_deleted _ _
    exact Program.runs_bind.2 ⟨_, result, (), _, hundo, ih, rfl⟩

/-- What applying a queue says to the cluster, and what it comes to. -/
inductive Applied : ActionQueue → List (Exchange Unit) → Except ProvisionError (List String) → Prop
  | created (q : ActionQueue) : Applied q (q.map (Action.accepted ())) (.ok (q.map Action.name))
  | undone (done : List Action) (a : Action) (later : List Action) (e : ClusterError)
      {replies : List (Except ClusterError Unit)} {es : List (Exchange Unit)}
      (undo : Tried (done ++ a :: later).reverse replies es) :
      Applied (done ++ a :: later) (done.map (Action.accepted ()) ++ a.refused () e :: es)
        (.error (.create a.name (done.map Action.name) e))

theorem applied_of_runs_createFrom {q : ActionQueue} {es : List (Exchange Unit)}
    {result : Except ProvisionError (List String)}
    (run : (createFrom q [] q).Runs Habit.any () es result ()) : q.Applied es result := by
  have hunit : ∀ xs : List (Exchange Unit), ∀ x ∈ xs, x.state = () := fun _ _ _ => rfl
  rcases runs_createFrom run with ⟨hcreated, rfl⟩ |
    ⟨done, a, later, xs, x, ys, e, rfl, rfl, hdone, hx, he, hys, rfl⟩
  · rw [hcreated.eq_map (hunit es), List.nil_append]
    exact .created q
  · obtain ⟨replies, htried⟩ := tried_of_requests hys
    rw [hdone.eq_map (hunit xs), Action.eq_refused hx he, List.nil_append]
    exact .undone done a later e htried

/-- Objects that are accepted are passed by. -/
theorem runs_createFrom_accepted {q later : List Action} {es : List (Exchange Unit)}
    {result : Except ProvisionError (List String)} :
    ∀ {done : List Action} {names : List String},
      (createFrom q (names ++ done.map Action.name) later).Runs Habit.any () es result () →
        (createFrom q names (done ++ later)).Runs Habit.any ()
          (done.map (Action.accepted ()) ++ es) result ()
  | [], names, run => by simpa using run
  | a :: done, names, run => by
    have hrest : (createFrom q (names ++ [a.name]) (done ++ later)).Runs Habit.any ()
        (done.map (Action.accepted ()) ++ es) result () :=
      runs_createFrom_accepted (by simpa using run)
    exact Program.runs_bind.2 ⟨_, .ok (), (), _, a.runs_create_accepted, hrest, rfl⟩

theorem runs_createFrom_of_applied {q : ActionQueue} {es : List (Exchange Unit)}
    {result : Except ProvisionError (List String)} (h : q.Applied es result) :
    (createFrom q [] q).Runs Habit.any () es result () := by
  cases h with
  | created =>
    have hend : (createFrom q ([] ++ q.map Action.name) []).Runs Habit.any () []
        (.ok (q.map Action.name)) () := .done _ _
    simpa using runs_createFrom_accepted hend
  | undone done a later e htried =>
    refine runs_createFrom_accepted (Program.runs_bind.2
      ⟨_, .error e, (), _, a.runs_create_refused e, ?_, rfl⟩)
    exact Program.runs_bind.2 ⟨_, (), (), [], runs_undoAll_of_tried htried, .done _ _, by simp⟩

/-- The runs of a queue that is applied are those in which the cluster may reply what it does and
what is said is one of the two things. Afterwards the queue is empty, however it went. -/
theorem runs_apply_iff {q left : ActionQueue} {result : Except ProvisionError (List String)} :
    q.apply.Runs may s es (result, left) s' ↔
      q.Applied (es.map Exchange.said) result ∧ left = [] ∧ may.Gives s es s' := by
  have happly : q.apply = (fun result => (result, [])) <$> createFrom q [] q :=
    (map_eq_pure_bind _ _).symm
  rw [happly, Program.runs_map]
  constructor
  · rintro ⟨result', run, heq⟩
    obtain ⟨rfl, rfl⟩ := Prod.mk.inj heq
    obtain ⟨hsaid, hgives⟩ := Program.runs_iff_said.1 run
    exact ⟨applied_of_runs_createFrom hsaid, rfl, hgives⟩
  · rintro ⟨happlied, rfl, hgives⟩
    exact ⟨result, Program.runs_iff_said.2 ⟨runs_createFrom_of_applied happlied, hgives⟩, rfl⟩

end ActionQueue

end Steading
