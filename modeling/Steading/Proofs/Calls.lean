import Steading.Proofs.Provision

/-!
# The calls of provisioning

What is asked while a queue is created and undone, call by call, whatever each call is answered. The
objects are created in the order they were queued up to the first that is refused; then every
queued object is deleted, the newest first, and the refusal is what is reported
(`ActionQueue.runs_createFrom`).
-/

namespace Steading

variable {σ : Type} {may : Habit σ} {s s' : σ} {es : List (Exchange σ)}

/-- Why a call to the cluster failed, or why there is no address. -/
def Exchange.refusal? : Exchange σ → Option ClusterError
  | ⟨_, .cluster _, .error e⟩ => some e
  | ⟨_, .address, .error e⟩ => some e
  | _ => none

/-- One exchange for every object, and each of the objects has been created. -/
structure ActionQueue.Created (q : ActionQueue) (es : List (Exchange σ)) : Prop where
  requests : es.map (·.request) = q.map Action.creation
  accepted : ∀ x ∈ es, x.refusal? = none

namespace Action

/-- The exchange in which an object is created. -/
def accepted (s : σ) : Action → Exchange σ
  | deployment d => ⟨s, .cluster (.createDeployment d), .ok ()⟩
  | claim c => ⟨s, .cluster (.createClaim c), .ok ()⟩

theorem eq_accepted {a : Action} {x : Exchange σ} (hx : x.request = a.creation)
    (hok : x.refusal? = none) : x = a.accepted x.state := by
  obtain ⟨s, r, reply⟩ := x
  cases a <;>
  · obtain rfl : r = _ := hx
    cases reply with
    | ok => rfl
    | error e => cases hok

theorem runs_create {a : Action} {result : Except ClusterError Unit}
    (run : a.create.Runs may s es result s') :
    ∃ x, es = [x] ∧ x.request = a.creation ∧
      ((result = .ok () ∧ x.refusal? = none) ∨
        ∃ e, result = .error e ∧ x.refusal? = some e) := by
  cases a <;>
  · obtain ⟨rfl, -⟩ := Program.runs_request.1 run
    refine ⟨_, rfl, rfl, ?_⟩
    cases result with
    | ok => exact .inl ⟨rfl, rfl⟩
    | error e => exact .inr ⟨e, rfl, rfl⟩

theorem runs_undo {a : Action} {result : Except ClusterError Unit}
    (run : a.undo.Runs may s es result s') : ∃ x, es = [x] ∧ x.request = a.deletion := by
  obtain ⟨es₁, reply, s₁, es₂, hdelete, hrest, rfl⟩ := Program.runs_bind.1 run
  have hnone : es₂ = [] := by
    cases reply <;> exact (Program.runs_pure.1 hrest).1
  subst hnone
  cases a <;>
  · obtain ⟨rfl, -⟩ := Program.runs_request.1 hdelete
    exact ⟨_, rfl, rfl⟩

end Action

namespace ActionQueue

theorem runs_undoAll : ∀ {q : List Action} {s : σ} {es : List (Exchange σ)} {u : Unit},
    (undoAll q).Runs may s es u s' → es.map (·.request) = q.map Action.deletion
  | [], _, _, _, run => by
    obtain ⟨rfl, -⟩ := Program.runs_pure.1 run
    rfl
  | a :: rest, _, _, _, run => by
    obtain ⟨es₁, _, s₁, es₂, hundo, hrest, rfl⟩ := Program.runs_bind.1 run
    obtain ⟨x, rfl, hx⟩ := a.runs_undo hundo
    rw [List.singleton_append, List.map_cons, List.map_cons, hx, runs_undoAll hrest]

theorem Created.nil : Created [] ([] : List (Exchange σ)) :=
  ⟨rfl, by simp⟩

theorem Created.cons {a : Action} {q : ActionQueue} {x : Exchange σ} (hx : x.request = a.creation)
    (hok : x.refusal? = none) (h : Created q es) : Created (a :: q) (x :: es) where
  requests := by rw [List.map_cons, List.map_cons, hx, h.requests]
  accepted := List.forall_mem_cons.2 ⟨hok, h.accepted⟩

theorem Created.eq_map (hs : ∀ x ∈ es, x.state = s) {q : ActionQueue} (h : Created q es) :
    es = q.map (Action.accepted s) := by
  induction q generalizing es with
  | nil => exact List.map_eq_nil_iff.1 h.requests
  | cons a q ih =>
    obtain ⟨x, rest, rfl, hx, hrest⟩ := List.map_eq_cons_iff.1 h.requests
    obtain ⟨hok, haccepted⟩ := List.forall_mem_cons.1 h.accepted
    obtain ⟨rfl, hs⟩ := List.forall_mem_cons.1 hs
    rw [List.map_cons, ← ih hs ⟨hrest, haccepted⟩, ← Action.eq_accepted hx hok]

theorem Created.exists_creation {q : ActionQueue} (h : Created q es) {x : Exchange σ}
    (hx : x ∈ es) : ∃ a ∈ q, x.request = a.creation := by
  have hmem : x.request ∈ es.map (·.request) := List.mem_map_of_mem hx
  rw [h.requests] at hmem
  obtain ⟨a, ha, heq⟩ := List.mem_map.1 hmem
  exact ⟨a, ha, heq.symm⟩

/-- Either all that is left is created, or an object is refused after those before it, and the
whole queue is undone. -/
theorem runs_createFrom {q : ActionQueue} :
    ∀ {rest : List Action} {created : List String} {s : σ} {es : List (Exchange σ)}
      {result : Except ProvisionError (List String)},
      (createFrom q created rest).Runs may s es result s' →
        (Created rest es ∧ result = .ok (created ++ rest.map Action.name)) ∨
        ∃ done a later xs x ys e, rest = done ++ a :: later ∧ es = xs ++ x :: ys ∧
          Created done xs ∧ x.request = a.creation ∧ x.refusal? = some e ∧
          ys.map (·.request) = q.reverse.map Action.deletion ∧
          result = .error (.create a.name (created ++ done.map Action.name) e)
  | [], created, _, _, _, run => by
    obtain ⟨rfl, rfl, -⟩ := Program.runs_pure.1 run
    exact .inl ⟨.nil, by simp⟩
  | a :: rest, created, s, es, result, run => by
    obtain ⟨es₁, reply, s₁, es₂, hcreate, hrest, rfl⟩ := Program.runs_bind.1 run
    obtain ⟨x, rfl, hx, ⟨rfl, hok⟩ | ⟨e, rfl, he⟩⟩ := a.runs_create hcreate
    · rcases runs_createFrom hrest with ⟨hcreated, rfl⟩ |
        ⟨done, b, later, xs, y, ys, e, rfl, rfl, hdone, hy, he, hundone, rfl⟩
      · exact .inl ⟨hcreated.cons hx hok, by simp⟩
      · exact .inr ⟨a :: done, b, later, x :: xs, y, ys, e, rfl, rfl, hdone.cons hx hok, hy, he,
          hundone, by simp⟩
    · obtain ⟨ys, _, s₂, es₃, hundo, hend, rfl⟩ := Program.runs_bind.1 hrest
      obtain ⟨rfl, rfl, -⟩ := Program.runs_pure.1 hend
      rw [List.append_nil]
      exact .inr ⟨[], a, rest, [], x, ys, e, rfl, rfl, .nil, hx, he, runs_undoAll hundo, by simp⟩

theorem runs_deleteFrom : ∀ {q : List Action} {deleted failed : List String} {s : σ}
    {es : List (Exchange σ)} {result : Except ProvisionError (List String)},
    (deleteFrom deleted failed q).Runs may s es result s' →
      es.map (·.request) = q.map Action.deletion
  | [], _, _, _, _, _, run => by
    obtain ⟨rfl, -⟩ := Program.runs_pure.1 run
    rfl
  | a :: rest, _, _, _, _, _, run => by
    obtain ⟨es₁, reply, s₁, es₂, hundo, hrest, rfl⟩ := Program.runs_bind.1 run
    obtain ⟨x, rfl, hx⟩ := a.runs_undo hundo
    have h : es₂.map (·.request) = rest.map Action.deletion := by
      cases reply <;> exact runs_deleteFrom hrest
    rw [List.singleton_append, List.map_cons, List.map_cons, hx, h]

/-- A queue that is rolled back has every object deleted, in the order they were queued. -/
theorem runs_rollback {q : ActionQueue}
    {result : Except ProvisionError (List String) × ActionQueue}
    (run : q.rollback.Runs may s es result s') : es.map (·.request) = q.map Action.deletion := by
  obtain ⟨es₁, _, s₁, es₂, hdelete, hend, rfl⟩ := Program.runs_bind.1 run
  obtain ⟨rfl, -⟩ := Program.runs_pure.1 hend
  rw [List.append_nil]
  exact runs_deleteFrom hdelete

end ActionQueue

end Steading
