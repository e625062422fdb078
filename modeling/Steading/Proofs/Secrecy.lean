import Steading.Proofs.Lockstep
import Steading.Proofs.Writes

/-!
# Commands in lockstep

Two runs of a command that differ in the ids that are drawn, and in the ids that were drawn before,
go side by side to the same end (`Command.alike_program`). A world from another id is the same world
with the other id, its objects differ in what the game is told, and a message never quotes an id.
-/

namespace Steading

namespace WorldDetails

def withId (w : WorldDetails) (id : String) : WorldDetails :=
  { w with instanceId := id }

theorem exists_of_redacted {w w' : WorldDetails} (h : w.redacted = w'.redacted) :
    ∃ id, w' = w.withId id := by
  refine ⟨w'.instanceId, ?_⟩
  cases w
  cases w'
  cases h
  rfl

theorem ofRequest_withId (r : ServerRequest) (e : Entitlements) (id id' : String) :
    ofRequest r e id' = (ofRequest r e id).map (·.withId id') := by
  rw [ofRequest, ofRequest]
  cases r.validate <;> rfl

end WorldDetails

theorem ServerRecord.exists_of_redacted {r r' : ServerRecord} (h : r.redacted = r'.redacted) :
    ∃ id, r' = ⟨r.server, r.world.withId id⟩ := by
  obtain ⟨server, world⟩ := r
  obtain ⟨server', world'⟩ := r'
  obtain ⟨hserver, hworld⟩ := ServerRecord.mk.inj h
  obtain ⟨id, rfl⟩ := WorldDetails.exists_of_redacted hworld
  subst hserver
  exact ⟨id, rfl⟩

/-! ## Objects -/

theorem setGameArgs?_gameServer (m : ManifestConfig) (w : WorldDetails) (id : String)
    (cs : List Container) : setGameArgs? (w.withId id).launchArgs (gameServer m w :: cs) =
      some (gameServer m (w.withId id) :: cs) :=
  if_pos (beq_self_eq_true gameContainer)

/-- Another id makes no other deployment, only other arguments of the game. -/
theorem redacted_tenantDeployment (m : ManifestConfig) (t : TenantId) (w : WorldDetails)
    (id : String) :
    (tenantDeployment m t (w.withId id)).redacted = (tenantDeployment m t w).redacted := by
  have hset : (tenantDeployment m t w).setGameArgs? (w.withId id).launchArgs =
      some (tenantDeployment m t (w.withId id)) := by
    rw [Deployment.setGameArgs?_of_pod rfl rfl, setGameArgs?_gameServer]
    rfl
  exact Deployment.redacted_of_setGameArgs? hset

namespace Action

def redacted : Action → Action
  | deployment d => deployment d.redacted
  | claim c => claim c

theorem name_redacted (a : Action) : a.redacted.name = a.name := by
  cases a with
  | deployment d => exact d.nameOrEmpty_redacted
  | claim c => rfl

theorem undo_redacted (a : Action) : a.redacted.undo = a.undo := by
  cases a with
  | deployment d => rw [redacted, undo, undo, delete, delete, d.nameOrEmpty_redacted]
  | claim c => rfl

theorem isOpen_deletion (a : Action) : a.deletion.IsOpen := by
  cases a <;> trivial

/-- Whether an object can be created does not depend on what its game is told. -/
theorem alike_create {a a' : Action} (h : a.redacted = a'.redacted) :
    a.create.Alike Eq a'.create := by
  cases a with
  | claim c =>
    cases a' with
    | deployment d => cases h
    | claim c' =>
      cases h
      exact Program.alike_of_asks (asks_create (a := .claim c) trivial)
  | deployment d =>
    cases a' with
    | claim c => cases h
    | deployment d' =>
      have hcall : (Request.cluster (.createDeployment d)).redacted =
          (Request.cluster (.createDeployment d')).redacted := by
        rw [Request.redacted, Request.redacted, ClusterCall.redacted, ClusterCall.redacted,
          deployment.inj h]
      refine (Program.alike_request hcall).mono fun reply reply' hreply => ?_
      exact Except.map_injective Function.injective_id (eq_of_heq hreply)

end Action

namespace ActionQueue

theorem undoAll_redacted : ∀ q : List Action, undoAll (q.map Action.redacted) = undoAll q
  | [] => rfl
  | a :: q => by rw [List.map_cons, undoAll, undoAll, a.undo_redacted, undoAll_redacted q]

theorem alike_createFrom {q q' : ActionQueue} (hq : q.map Action.redacted = q'.map Action.redacted) :
    ∀ {rest rest' : List Action} {created : List String},
      rest.map Action.redacted = rest'.map Action.redacted →
        (createFrom q created rest).Alike Eq (createFrom q' created rest')
  | [], [], _, _ => .done rfl
  | [], _ :: _, _, h | _ :: _, [], _, h => by cases h
  | a :: rest, a' :: rest', created, h => by
    obtain ⟨ha, hrest⟩ := List.cons.inj h
    have hname : a.name = a'.name := by rw [← a.name_redacted, ha, a'.name_redacted]
    have hundo : undoAll q.reverse = undoAll q'.reverse := by
      rw [← undoAll_redacted, List.map_reverse, hq, ← List.map_reverse, undoAll_redacted]
    rw [createFrom, createFrom, hname, hundo]
    refine (Action.alike_create ha).bind fun reply reply' hreply => ?_
    subst hreply
    cases reply with
    | ok => exact alike_createFrom hq hrest
    | error e =>
      exact Program.alike_of_asks
        ((asks_undoAll fun a _ => a.isOpen_deletion).bind fun _ => Program.asks_pure _)

end ActionQueue

/-! ## Commands -/

open Operation

theorem alike_findServer (t : TenantId) :
    (findServer t).Alike
      (fun r r' => r.map ServerRecord.redacted = r'.map ServerRecord.redacted) (findServer t) :=
  (alike_store (show (StoreCall.find t).redacted = (StoreCall.find t).redacted from rfl)).mono
    fun _ _ => eq_of_heq

theorem alike_requireServer (t : TenantId) :
    (requireServer t).Alike (fun r r' => r.redacted = r'.redacted) (requireServer t) := by
  refine (alike_findServer t).bind fun found found' hfound => ?_
  cases found with
  | none =>
    cases found' with
    | none => exact alike_throw _
    | some r' => cases hfound
  | some r =>
    cases found' with
    | none => cases hfound
    | some r' => exact alike_pure (Option.some.inj hfound)

theorem alike_save (server : Server) (w : WorldDetails) (id : String) :
    (store (.save ⟨server, w⟩)).Alike Eq (store (.save ⟨server, w.withId id⟩)) := by
  have hcall : (StoreCall.save ⟨server, w⟩).redacted =
      (StoreCall.save ⟨server, w.withId id⟩).redacted := rfl
  exact (alike_store hcall).mono fun _ _ => eq_of_heq

theorem alike_updateWorld (t : TenantId) (world name : String) (w : WorldDetails) (id : String) :
    (store (.updateWorld t world name w)).Alike Eq
      (store (.updateWorld t world name (w.withId id))) := by
  have hcall : (StoreCall.updateWorld t world name w).redacted =
      (StoreCall.updateWorld t world name (w.withId id)).redacted := rfl
  exact (alike_store hcall).mono fun _ _ => eq_of_heq

/-- Whatever games are told, it takes the same to tell them. -/
theorem alike_launchWorld (name : String) (w w' : WorldDetails) :
    (launchWorld name w).Alike Eq (launchWorld name w') := by
  refine (alike_call rfl).bind fun d d' hd => ?_
  have hset : (d.setGameArgs? w.launchArgs).map Deployment.redacted =
      (d'.setGameArgs? w'.launchArgs).map Deployment.redacted := by
    rw [d.map_redacted_setGameArgs?, d'.map_redacted_setGameArgs?, ← d.setGameArgs?_redacted,
      ← d'.setGameArgs?_redacted, show d.redacted = d'.redacted from eq_of_heq hd]
  cases h : d.setGameArgs? w.launchArgs with
  | none =>
    cases h' : d'.setGameArgs? w'.launchArgs with
    | none => exact alike_throw _
    | some new' => rw [h, h'] at hset; cases hset
  | some new =>
    cases h' : d'.setGameArgs? w'.launchArgs with
    | none => rw [h, h'] at hset; cases hset
    | some new' =>
      rw [h, h'] at hset
      have hcall : (ClusterCall.replaceDeployment new).redacted =
          (ClusterCall.replaceDeployment new').redacted :=
        congrArg ClusterCall.replaceDeployment (Option.some.inj hset)
      exact (alike_call hcall).mono fun _ _ => eq_of_heq

namespace Controller

variable {c : Controller} {t : Tenant}

theorem alike_settleWorld (r : ServerRequest) :
    (c.settleWorld t r).Alike
      (fun plan plan' => ∃ id, plan' = (plan.1, plan.2.withId id))
      (c.settleWorld t r) := by
  refine (alike_of_asks asks_ofExcept).bind fun e _ he => ?_
  subst he
  refine (alike_lift (Program.alike_request rfl)).bind fun id id' _ => ?_
  rw [WorldDetails.ofRequest_withId r e id id']
  cases WorldDetails.ofRequest r e id with
  | error fault => exact alike_throw _
  | ok w => exact alike_pure ⟨id', rfl⟩

/-- The objects of two worlds that differ in their ids are created alike. -/
theorem alike_createObjects (t : TenantId) (w : WorldDetails) (id : String) :
    (Operation.provision (Prod.fst <$> ActionQueue.apply [.claim (tenantClaim c.manifests t),
        .deployment (tenantDeployment c.manifests t w)])).Alike Eq
      (.provision (Prod.fst <$> ActionQueue.apply [.claim (tenantClaim c.manifests t),
        .deployment (tenantDeployment c.manifests t (w.withId id))])) := by
  rw [ActionQueue.fst_apply, ActionQueue.fst_apply]
  have hq : List.map Action.redacted
        [.claim (tenantClaim c.manifests t), .deployment (tenantDeployment c.manifests t w)] =
      List.map Action.redacted [.claim (tenantClaim c.manifests t),
        .deployment (tenantDeployment c.manifests t (w.withId id))] :=
    congrArg (fun d => [Action.claim (tenantClaim c.manifests t), .deployment d])
      (redacted_tenantDeployment _ t w id).symm
  exact alike_ofProgram (ActionQueue.alike_createFrom hq hq)

theorem alike_addressOrUndo (t : TenantId) : (c.addressOrUndo t).Alike Eq (c.addressOrUndo t) := by
  refine alike_of_asks (asks_bind (asks_lift ((Program.asks_request _).2 trivial)) fun reply => ?_)
  cases reply with
  | ok ip => exact Program.asks_pure _
  | error e =>
    exact asks_bind (asks_lift (ActionQueue.asks_rollback fun a _ => a.isOpen_deletion)) fun _ =>
      Program.asks_pure _

theorem alike_create (r : ServerRequest) :
    (c.create t r).Alike (fun v v' => v = v' ∧ v.world.instanceId = "") (c.create t r) := by
  rw [create]
  refine (alike_of_asks asks_ofExcept).bind fun _ _ _ => ?_
  refine (alike_findServer t.id).bind fun found found' hfound => ?_
  rw [← Option.isSome_map (f := ServerRecord.redacted), hfound, Option.isSome_map]
  split
  · exact alike_throw_bind _ _ _
  refine (alike_settleWorld r).bind fun plan _ hplan => ?_
  obtain ⟨e, w⟩ := plan
  obtain ⟨id, rfl⟩ := hplan
  refine (alike_of_asks (asks_clearLeftover trivial trivial trivial fun _ => trivial)).bind
    fun _ _ _ => ?_
  refine (alike_createObjects t.id w id).bind fun _ _ _ => ?_
  refine (alike_addressOrUndo t.id).bind fun ip _ hip => ?_
  subst hip
  refine (alike_of_asks (asks_now trivial)).bind fun now _ hnow => ?_
  subst hnow
  dsimp only
  exact (alike_save _ w id).bind fun _ _ _ => alike_pure ⟨rfl, rfl⟩

theorem alike_patch (r : ServerRequest) :
    (c.patch t r).Alike (fun v v' => v = v' ∧ v.world.instanceId = "") (c.patch t r) := by
  rw [patch]
  refine (alike_of_asks asks_ofExcept).bind fun _ _ _ => ?_
  refine (alike_requireServer t.id).bind fun old _ hold => ?_
  obtain ⟨oldId, rfl⟩ := ServerRecord.exists_of_redacted hold
  refine (alike_settleWorld r).bind fun plan _ hplan => ?_
  obtain ⟨e, w⟩ := plan
  obtain ⟨id, rfl⟩ := hplan
  refine (alike_launchWorld _ _ _).bind fun _ _ _ => ?_
  dsimp only
  refine (alike_updateWorld _ _ _ w id).bind fun found _ hfound => ?_
  subst hfound
  cases found
  · exact alike_throw_bind _ _ _
  refine (alike_of_asks (asks_now trivial)).bind fun now _ hnow => ?_
  subst hnow
  refine (alike_of_asks (asks_store (c := .update _) trivial)).bind fun _ _ _ => ?_
  exact alike_pure ⟨rfl, rfl⟩

theorem alike_delete : (c.delete t.id).Alike Eq (c.delete t.id) := by
  have deletes : ∀ q : ActionQueue,
      (do
        let deleted ← .provision (Prod.fst <$> q.rollback)
        let _ ← .store (.delete t.id)
        return deleted : Operation (List String)).Alike Eq (do
        let deleted ← .provision (Prod.fst <$> q.rollback)
        let _ ← .store (.delete t.id)
        return deleted) := fun q => by
    refine alike_of_asks (asks_bind (asks_ofProgram ?_) fun _ =>
      asks_bind (asks_store trivial) fun _ => Program.asks_pure _)
    rw [ActionQueue.fst_rollback]
    exact ActionQueue.asks_deleteFrom fun a _ => a.isOpen_deletion
  rw [delete]
  refine (alike_findServer t.id).bind fun found found' hfound => ?_
  cases found with
  | none =>
    cases found' with
    | none => exact deletes _
    | some r' => cases hfound
  | some r =>
    cases found' with
    | none => cases hfound
    | some r' =>
      obtain ⟨id, rfl⟩ := ServerRecord.exists_of_redacted (Option.some.inj hfound)
      exact deletes _

end Controller

theorem alike_scaleServer (t : TenantId) (r : ScaleRequest) :
    (scaleServer t r).Alike (fun v v' => v = v' ∧ v.world.instanceId = "") (scaleServer t r) := by
  rw [scaleServer]
  refine (alike_requireServer t).bind fun old _ hold => ?_
  obtain ⟨oldId, rfl⟩ := ServerRecord.exists_of_redacted hold
  dsimp only
  cases old.server.state.scaleTarget r.replicas with
  | none => exact alike_throw _
  | some state =>
    refine (alike_launchWorld _ _ _).bind fun _ _ _ => ?_
    refine (alike_of_asks (asks_call (c := .scaleDeployment _ _) trivial)).bind fun _ _ _ => ?_
    refine (alike_of_asks (asks_now trivial)).bind fun now _ hnow => ?_
    subst hnow
    refine (alike_of_asks (asks_store (c := .update _) trivial)).bind fun _ _ _ => ?_
    exact alike_pure ⟨rfl, rfl⟩

theorem alike_showServer (t : TenantId) :
    (showServer t).Alike (fun v v' => v = v' ∧ v.world.instanceId = "") (showServer t) :=
  (alike_requireServer t).bind fun old _ hold => alike_pure ⟨by
    obtain ⟨oldId, rfl⟩ := ServerRecord.exists_of_redacted hold
    rfl, rfl⟩

/-- Nothing about instance ids can be told from what a command comes to. -/
theorem Command.alike_program (c : Controller) (t : Tenant) (command : Command) :
    (command.program c t).Alike
      (fun result result' => result' = result ∧
        ∀ v, result = .ok (.server v) → v.world.instanceId = "")
      (command.program c t) := by
  have served : ∀ {x : Operation ServerView}, x.Alike (fun v v' => v = v' ∧ v.world.instanceId = "") x →
      (Answer.server <$> x).Alike
        (fun a a' => a' = a ∧ ∀ v, a = .server v → v.world.instanceId = "") (Answer.server <$> x) :=
    fun h => h.map fun v v' hv => ⟨congrArg Answer.server hv.1.symm, fun w hw => by cases hw; exact hv.2⟩
  have h : (command.operation c t).Alike
      (fun a a' => a' = a ∧ ∀ v, a = .server v → v.world.instanceId = "")
      (command.operation c t) := by
    cases command with
    | create r => exact served (Controller.alike_create r)
    | patch r => exact served (Controller.alike_patch r)
    | scale r => exact served (alike_scaleServer t.id r)
    | inspect => exact served (alike_showServer t.id)
    | delete =>
      exact Controller.alike_delete.map fun names names' h =>
        ⟨congrArg Answer.deleted h.symm, fun v hv => by cases hv⟩
  refine Program.Alike.mono (fun result result' hresult => ?_) h
  cases hresult with
  | ok h => exact ⟨congrArg Except.ok h.1, fun v hv => h.2 v (Except.ok.inj hv)⟩
  | error f => exact ⟨rfl, fun v hv => by cases hv⟩

end Steading
