import Steading.Proofs.Confinement

/-!
# Which worlds are written

A command writes a world only after it has settled it from a request and a fresh id, whatever it is
told on the way. So what is true of every world that a request may come to is true of every world
that a command writes (`Controller.writes_of_runs`).
-/

namespace Steading

variable {p : WorldDetails → Prop}

/-- A world that is to be written is as `p` says. -/
def StoreCall.Writes (p : WorldDetails → Prop) : StoreCall → Prop
  | save r => p r.world
  | updateWorld _ _ _ w => p w
  | _ => True

def Request.Writes (p : WorldDetails → Prop) : Request → Prop
  | store c => c.Writes p
  | _ => True

theorem Action.writes_creation (a : Action) : a.creation.Writes p := by
  cases a <;> trivial

theorem Action.writes_deletion (a : Action) : a.deletion.Writes p := by
  cases a <;> trivial

variable {σ α β : Type} {may : Habit σ}

namespace Operation

/-- From any state, only such worlds are written, and what the operation comes to is as `ok`
says. -/
def Writes (may : Habit σ) (p : WorldDetails → Prop) (x : Operation α) (ok : α → Prop) : Prop :=
  ∀ s, x.Ensures may (fun r _ => r.Writes p) (fun a _ => ok a) (fun _ _ => True) s

theorem Writes.bind {x : Operation α} {f : α → Operation β} {ok : α → Prop} {ok' : β → Prop}
    (hx : x.Writes may p ok) (hf : ∀ a, ok a → (f a).Writes may p ok') :
    (x >>= f).Writes may p ok' :=
  Always.bind hx hf

theorem Writes.map {x : Operation α} (hx : x.Writes may p fun _ => True) (f : α → β) :
    (f <$> x).Writes may p fun _ => True :=
  Always.map hx f

theorem Writes.of_runs {x : Operation α} {ok : α → Prop} (hx : x.Writes may p ok) {s s' : σ}
    {es : List (Exchange σ)} {result : Except Failure α} (run : x.run.Runs may s es result s') :
    ∀ e ∈ es, e.request.Writes p :=
  (Program.Ensures.of_runs (hx s) run).1

theorem writes_of_asks {x : Operation α} (hx : x.run.Asks (·.Writes p)) :
    x.Writes may p fun _ => True :=
  always_of_asks hx

theorem writes_throw (f : Failure) {ok : α → Prop} : (throw f : Operation α).Writes may p ok :=
  always_throw f

theorem writes_throw_bind (f : Failure) (g : α → Operation β) {ok : β → Prop} :
    (throw f >>= g : Operation β).Writes may p ok :=
  always_throw_bind f g

end Operation

theorem asks_launchWorld {asked : Request → Prop} (hcall : ∀ c, asked (.cluster c))
    (name : String) (w : WorldDetails) : (launchWorld name w).run.Asks asked := by
  refine Operation.asks_bind (Operation.asks_call (hcall _)) fun d => ?_
  cases d.setGameArgs? w.launchArgs with
  | some d => exact Operation.asks_call (hcall _)
  | none => exact Program.asks_pure _

namespace Controller

variable {c : Controller} {t : Tenant}

theorem writes_settleWorld {r : ServerRequest}
    (hp : ∀ {s id s' r e w}, may .freshId s id s' → WorldDetails.ofRequest r e id = .ok w → p w) :
    (c.settleWorld t r).Writes may p fun settled => p settled.2 := by
  intro s
  rw [settleWorld, Operation.ensures_bind, Operation.ensures_ofExcept]
  refine ⟨fun e _ => ?_, fun _ _ => trivial⟩
  rw [Operation.ensures_bind, Operation.ensures_lift, Program.ensures_request]
  refine ⟨trivial, fun id s' hid => ?_⟩
  rw [Operation.ensures_bind, Operation.check, Operation.ensures_ofExcept]
  exact ⟨fun w hw => hp hid hw, fun _ _ => trivial⟩

theorem writes_addressOrUndo (t : TenantId) : (c.addressOrUndo t).Writes may p fun _ => True := by
  refine .bind (Operation.writes_of_asks (Operation.asks_lift ?_)) fun reply _ => ?_
  · exact (Program.asks_request _).2 trivial
  cases reply with
  | ok ip => exact fun _ => trivial
  | error e =>
    refine .bind (Operation.writes_of_asks (Operation.asks_lift ?_)) fun _ _ =>
      Operation.writes_throw _
    exact ActionQueue.asks_rollback fun a _ => a.writes_deletion

theorem writes_apply (q : ActionQueue) :
    (Operation.provision (Prod.fst <$> q.apply)).Writes may p fun _ => True := by
  refine Operation.writes_of_asks (Operation.asks_ofProgram ?_)
  rw [ActionQueue.fst_apply]
  exact ActionQueue.asks_createFrom (fun a _ => a.writes_deletion) fun a _ => a.writes_creation

theorem writes_rollback (q : ActionQueue) :
    (Operation.provision (Prod.fst <$> q.rollback)).Writes may p fun _ => True := by
  refine Operation.writes_of_asks (Operation.asks_ofProgram ?_)
  rw [ActionQueue.fst_rollback]
  exact ActionQueue.asks_deleteFrom fun a _ => a.writes_deletion

variable (hp : ∀ {s id s' r e w}, may .freshId s id s' → WorldDetails.ofRequest r e id = .ok w → p w)

-- Seen through, these would be evaluated along the whole operation.
attribute [local irreducible] Operation.Writes Program.Asks

include hp

theorem writes_create {r : ServerRequest} : (c.create t r).Writes may p fun _ => True := by
  rw [create]
  refine .bind (Operation.writes_of_asks Operation.asks_ofExcept) fun _ _ => ?_
  refine .bind (Operation.writes_of_asks (asks_findServer trivial)) fun found _ => ?_
  split_ifs
  · exact Operation.writes_throw_bind _ _
  refine .bind (writes_settleWorld hp) fun plan hw => ?_
  obtain ⟨e, w⟩ := plan
  refine .bind (Operation.writes_of_asks ?_) fun _ _ => ?_
  · exact asks_clearLeftover trivial trivial trivial fun _ => trivial
  refine .bind (writes_apply _) fun _ _ => ?_
  refine .bind (writes_addressOrUndo t.id) fun ip _ => ?_
  refine .bind (Operation.writes_of_asks (Operation.asks_now trivial)) fun now _ => ?_
  exact Operation.writes_of_asks
    (Operation.asks_bind (Operation.asks_store hw) fun _ => Program.asks_pure _)

theorem writes_patch {r : ServerRequest} : (c.patch t r).Writes may p fun _ => True := by
  rw [patch]
  refine .bind (Operation.writes_of_asks Operation.asks_ofExcept) fun _ _ => ?_
  refine .bind (Operation.writes_of_asks (asks_requireServer trivial)) fun old _ => ?_
  refine .bind (writes_settleWorld hp) fun plan hw => ?_
  obtain ⟨e, w⟩ := plan
  refine .bind (Operation.writes_of_asks (asks_launchWorld (fun _ => trivial) _ _)) fun _ _ => ?_
  refine .bind (Operation.writes_of_asks (Operation.asks_store hw)) fun found _ => ?_
  cases found
  · exact Operation.writes_throw_bind _ _
  refine .bind (Operation.writes_of_asks (Operation.asks_now trivial)) fun now _ => ?_
  exact Operation.writes_of_asks
    (Operation.asks_bind (Operation.asks_store trivial) fun _ => Program.asks_pure _)

omit hp in
theorem writes_scaleServer {r : ScaleRequest} :
    (scaleServer t.id r).Writes may p fun _ => True := by
  refine Operation.writes_of_asks ?_
  rw [scaleServer]
  refine Operation.asks_bind (asks_requireServer trivial) fun old => ?_
  cases old.server.state.scaleTarget r.replicas with
  | none => exact Program.asks_pure _
  | some state =>
    refine Operation.asks_bind (asks_launchWorld (fun _ => trivial) _ _) fun _ => ?_
    refine Operation.asks_bind (Operation.asks_call trivial) fun _ => ?_
    refine Operation.asks_bind (Operation.asks_now trivial) fun now => ?_
    exact Operation.asks_bind (Operation.asks_store trivial) fun _ => Program.asks_pure _

omit hp in
theorem writes_delete : (c.delete t.id).Writes may p fun _ => True := by
  have deletes : ∀ q : ActionQueue,
      (do
        let deleted ← .provision (Prod.fst <$> q.rollback)
        let _ ← .store (.delete t.id)
        return deleted : Operation (List String)).Writes may p fun _ => True := fun q =>
    .bind (writes_rollback q) fun _ _ => Operation.writes_of_asks
      (Operation.asks_bind (Operation.asks_store trivial) fun _ => Program.asks_pure _)
  rw [delete]
  refine .bind (Operation.writes_of_asks (asks_findServer trivial)) fun found _ => ?_
  cases found with
  | some r => exact deletes _
  | none => exact deletes _

omit hp in
theorem writes_showServer : (showServer t.id).Writes may p fun _ => True :=
  Operation.writes_of_asks
    (Operation.asks_bind (asks_requireServer trivial) fun _ => Program.asks_pure _)

theorem writes_of_runs {command : Command} {s s' : σ} {es : List (Exchange σ)}
    {result : Except Failure Answer} (run : (command.program c t).Runs may s es result s') :
    ∀ e ∈ es, e.request.Writes p := by
  have h : (command.operation c t).Writes may p fun _ => True := by
    cases command with
    | create r => exact (writes_create hp).map _
    | patch r => exact (writes_patch hp).map _
    | scale r => exact writes_scaleServer.map _
    | delete => exact writes_delete.map _
    | inspect => exact writes_showServer.map _
  exact h.of_runs run

end Controller

end Steading
