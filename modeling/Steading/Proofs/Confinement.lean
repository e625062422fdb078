import Steading.Proofs.Footprint

/-!
# Commands stay with their tenant

Whatever the cluster replies, a command makes only such requests as its tenant's names call for
(`Request.Own`), as long as the store tells of no server that goes by others
(`Controller.own_program`). A deployment that is read and sent back keeps its metadata, so its name
depends on what the cluster has told. Where every deployment goes by its own name, a command asks
only about its own tenant's row and objects (`Controller.of_runs`).
-/

namespace Steading

variable {t : TenantId} {α : Type}

namespace Operation

variable {asked : Request → Prop}

theorem asks_store {c : StoreCall} (h : asked (.store c)) : (store c).run.Asks asked :=
  asks_ofProgram ((Program.asks_request _).2 h)

theorem asks_call {c : ClusterCall} (h : asked (.cluster c)) : (call c).run.Asks asked :=
  asks_ofProgram ((Program.asks_request _).2 h)

theorem asks_now (h : asked .now) : now.run.Asks asked :=
  asks_lift ((Program.asks_request _).2 h)

end Operation

/-! ## A tenant's own requests -/

/-- A server by the names that the tenant's objects have. -/
structure Server.Own (t : TenantId) (s : Server) : Prop where
  tenant : s.tenant = t
  names : s.objectName = t.objectName

/-- About the tenant's record; and a server that is put into it is the tenant's own. -/
def StoreCall.Own (t : TenantId) : StoreCall → Prop
  | find u | updateWorld u _ _ _ | delete u => u = t
  | save r => r.server.Own t
  | update server => server.Own t

/-- About the tenant's object of the kind. One that is created is the tenant's in the namespace, and
the metadata of one that is replaced is as `p` says. -/
def ClusterCall.Own (ns : String) (t : TenantId) (p : Metadata → Prop) : ClusterCall → Prop
  | createClaim c => ∃ m : ManifestConfig, m.ns = ns ∧ c = tenantClaim m t
  | createDeployment d => ∃ (m : ManifestConfig) (w : WorldDetails),
      m.ns = ns ∧ d = tenantDeployment m t w
  | replaceDeployment d => p d.metadata
  | c => c.target = t.objectName c.kind

def Request.Own (ns : String) (t : TenantId) (p : Metadata → Prop) : Request → Prop
  | cluster c => c.Own ns t p
  | store c => c.Own t
  | _ => True

/-- The servers that are found are their tenants' own, and the metadata of deployments that are read
is as `p` says. Nothing is known of any other reply. -/
def Habit.candid (p : Metadata → Prop) : Habit Unit
  | .store (.find t), _, reply, _ => ∀ r, reply = .ok (some r) → r.server.Own t
  | .cluster (.getDeployment _), _, reply, _ => ∀ d, reply = .ok d → p d.metadata
  | _, _, _, _ => True

variable {ns : String} {p : Metadata → Prop}

theorem StoreCall.Own.tenant_eq {c : StoreCall} (h : c.Own t) : c.tenant = t := by
  cases c with
  | save r => exact h.tenant
  | update server => exact h.tenant
  | find | updateWorld | delete => exact h

theorem ClusterCall.Own.target_eq {c : ClusterCall} (h : c.Own ns t p)
    (hp : ∀ m, p m → m.nameOrEmpty = t.deploymentName) : c.target = t.objectName c.kind := by
  cases c with
  | createClaim c =>
    obtain ⟨m, -, rfl⟩ := h
    rfl
  | createDeployment d =>
    obtain ⟨m, w, -, rfl⟩ := h
    rfl
  | replaceDeployment d => exact hp _ h
  | _ => exact h

theorem Request.Own.of {r : Request} (h : r.Own ns t p)
    (hp : ∀ m, p m → m.nameOrEmpty = t.deploymentName) : r.Of t := by
  cases r with
  | cluster c => exact ClusterCall.Own.target_eq h hp
  | store c => exact StoreCall.Own.tenant_eq h
  | address | now | freshId | pause => trivial

/-- What is a tenant's own when it is put into a record can be told from the record. -/
theorem Records.own_answer {f : Records} {c : StoreCall}
    (hf : ∀ r, f t = some r → r.server.Own t) (hc : c.Own t) :
    ∀ r, (f.answer c).2 t = some r → r.server.Own t := by
  cases c with
  | find u => exact hf
  | save new =>
    obtain rfl : new.server.tenant = t := hc.tenant
    simp only [answer]
    split
    · exact hf
    · intro r hr
      simp only [setAt_same, Option.some.injEq] at hr
      subst hr
      exact hc
  | update server =>
    obtain rfl : server.tenant = t := hc.tenant
    simp only [answer]
    split
    · exact hf
    · intro r hr
      simp only [setAt_same, Option.some.injEq] at hr
      subst hr
      exact ⟨rfl, hc.names⟩
  | updateWorld u world name details =>
    obtain rfl : u = t := hc
    simp only [answer]
    repeat' split
    · rename_i old hold _
      intro r hr
      simp only [setAt_same, Option.some.injEq] at hr
      subst hr
      exact hf old hold
    · exact hf
    · exact hf
  | delete u =>
    obtain rfl : u = t := hc
    intro r hr
    simp [answer] at hr

theorem own_deletion {a : Action} {ns' : String}
    (ha : a ∈ deletionQueue ns' t.deploymentName t.claimName) : a.deletion.Own ns t p := by
  have hname := forall_mem_deletionQueue (fun kind name => name = t.objectName kind) rfl rfl a ha
  cases a <;> exact hname

/-! ## Commands -/

theorem own_findServer : (findServer t).Always (Habit.candid p) (·.Own ns t p)
    fun found => ∀ r, found = some r → r.server.Own t := by
  intro s
  refine (Operation.ensures_ofProgram _ _ _).2 ⟨rfl, fun reply s' hreply => ?_⟩
  cases reply with
  | ok found => exact fun r hr => hreply r (congrArg Except.ok hr)
  | error e => trivial

theorem own_requireServer : (requireServer t).Always (Habit.candid p) (·.Own ns t p)
    fun r => r.server.Own t := by
  refine own_findServer.bind fun found hfound => ?_
  cases found with
  | some r => exact Operation.always_pure (hfound r rfl)
  | none => exact Operation.always_throw _

theorem own_launchWorld {name : String} {w : WorldDetails} (hname : name = t.deploymentName) :
    (launchWorld name w).Always (Habit.candid p) (·.Own ns t p) fun _ => True := by
  have hget : (Operation.call (.getDeployment name)).Always (Habit.candid p) (·.Own ns t p)
      fun d => p d.metadata := by
    intro s
    refine (Operation.ensures_ofProgram _ _ _).2 ⟨hname, fun reply s' hreply => ?_⟩
    cases reply with
    | ok d => exact hreply d rfl
    | error e => trivial
  refine hget.bind fun d hd => ?_
  cases h : d.setGameArgs? w.launchArgs with
  | some d' =>
    refine Operation.always_of_asks (Operation.asks_call ?_)
    show p d'.metadata
    rw [Deployment.metadata_of_setGameArgs? h]
    exact hd
  | none => exact Operation.always_throw _

namespace Controller

variable {c : Controller} {tenant : Tenant}

theorem asks_addressOrUndo : (c.addressOrUndo t).run.Asks (·.Own ns t p) := by
  refine Operation.asks_bind (Operation.asks_lift ((Program.asks_request _).2 trivial)) fun reply => ?_
  cases reply with
  | ok ip => exact Program.asks_pure _
  | error e =>
    exact Operation.asks_bind
      (Operation.asks_lift (ActionQueue.asks_rollback fun a ha => own_deletion ha))
      fun _ => Program.asks_pure _

theorem asks_createObjects {w : WorldDetails} :
    (Operation.provision (Prod.fst <$> ActionQueue.apply [.claim (tenantClaim c.manifests t),
      .deployment (tenantDeployment c.manifests t w)])).run.Asks (·.Own c.manifests.ns t p) := by
  have hqueue : ∀ a ∈ [Action.claim (tenantClaim c.manifests t),
      .deployment (tenantDeployment c.manifests t w)],
      a.creation.Own c.manifests.ns t p ∧ a.deletion.Own c.manifests.ns t p :=
    List.forall_mem_cons.2 ⟨⟨⟨_, rfl, rfl⟩, rfl⟩, List.forall_mem_singleton.2 ⟨⟨_, w, rfl, rfl⟩, rfl⟩⟩
  refine Operation.asks_ofProgram ?_
  rw [ActionQueue.fst_apply]
  exact ActionQueue.asks_createFrom (fun a ha => (hqueue a ha).2) fun a ha => (hqueue a ha).1

section

-- Seen through, these would be evaluated along the whole operation.
attribute [local irreducible] Program.Asks Operation.Always

theorem asks_create {r : ServerRequest} :
    (c.create tenant r).run.Asks (·.Own c.manifests.ns tenant.id p) := by
  rw [create]
  refine Operation.asks_bind Operation.asks_ofExcept fun _ => ?_
  refine Operation.asks_bind (asks_findServer rfl) fun found => ?_
  cases found with
  | some old => exact Program.asks_pure _
  | none =>
    simp only [Option.isSome_none, Bool.false_eq_true, ↓reduceIte]
    refine Operation.asks_bind (asks_settleWorld trivial) fun plan => ?_
    refine Operation.asks_bind (asks_clearLeftover rfl rfl rfl fun _ => trivial) fun _ => ?_
    refine Operation.asks_bind asks_createObjects fun _ => ?_
    refine Operation.asks_bind asks_addressOrUndo fun ip => ?_
    refine Operation.asks_bind (Operation.asks_now trivial) fun now => ?_
    exact Operation.asks_bind (Operation.asks_store ⟨rfl, by funext kind; cases kind <;> rfl⟩)
      fun _ => Program.asks_pure _

theorem own_patch {r : ServerRequest} :
    (c.patch tenant r).Always (Habit.candid p) (·.Own ns tenant.id p) fun _ => True := by
  rw [patch]
  refine .bind (Operation.always_of_asks Operation.asks_ofExcept) fun _ _ => ?_
  refine .bind own_requireServer fun old hold => ?_
  refine .bind (Operation.always_of_asks (asks_settleWorld trivial)) fun plan _ => ?_
  obtain ⟨e, w⟩ := plan
  refine .bind (own_launchWorld (congrFun hold.names .deployment)) fun _ _ => ?_
  refine Operation.always_of_asks (Operation.asks_bind (Operation.asks_store rfl) fun found => ?_)
  cases found
  · exact Program.asks_pure _
  refine Operation.asks_bind (Operation.asks_now trivial) fun now => ?_
  exact Operation.asks_bind (Operation.asks_store ⟨hold.tenant, hold.names⟩) fun _ =>
    Program.asks_pure _

theorem own_scaleServer {r : ScaleRequest} :
    (scaleServer t r).Always (Habit.candid p) (·.Own ns t p) fun _ => True := by
  rw [scaleServer]
  refine .bind own_requireServer fun old hold => ?_
  cases old.server.state.scaleTarget r.replicas with
  | none => exact Operation.always_throw _
  | some state =>
    have hname : old.server.deploymentName = t.deploymentName := congrFun hold.names .deployment
    refine .bind (own_launchWorld hname) fun _ _ => ?_
    refine Operation.always_of_asks (Operation.asks_bind (Operation.asks_call hname) fun _ => ?_)
    refine Operation.asks_bind (Operation.asks_now trivial) fun now => ?_
    exact Operation.asks_bind (Operation.asks_store ⟨hold.tenant, hold.names⟩) fun _ =>
      Program.asks_pure _

theorem own_delete :
    (c.delete t).Always (Habit.candid p) (·.Own ns t p) fun _ => True := by
  have deletes : ∀ q : ActionQueue, q = deletionQueue c.manifests.ns t.deploymentName t.claimName →
      (do
        let deleted ← .provision (Prod.fst <$> q.rollback)
        let _ ← .store (.delete t)
        return deleted : Operation (List String)).run.Asks (·.Own ns t p) := by
    rintro _ rfl
    refine Operation.asks_bind (Operation.asks_ofProgram ?_) fun deleted => ?_
    · rw [ActionQueue.fst_rollback]
      exact ActionQueue.asks_deleteFrom fun a ha => own_deletion ha
    · exact Operation.asks_bind (Operation.asks_store rfl) fun _ => Program.asks_pure _
  rw [delete]
  refine .bind own_findServer fun found hfound => Operation.always_of_asks ?_
  cases found with
  | some r =>
    refine deletes (deletionQueue _ r.server.deploymentName r.server.claimName) ?_
    have hnames := (hfound r rfl).names
    rw [show r.server.deploymentName = _ from congrFun hnames .deployment,
      show r.server.claimName = _ from congrFun hnames .claim]
    rfl
  | none => exact deletes _ rfl

/-- A command makes its tenant's own requests as long as it is not told otherwise. -/
theorem own_operation {command : Command} :
    (command.operation c tenant).Always (Habit.candid p) (·.Own c.manifests.ns tenant.id p)
      fun _ => True := by
  cases command with
  | create r => exact (Operation.always_of_asks asks_create).map _
  | patch r => exact own_patch.map _
  | scale r => exact own_scaleServer.map _
  | delete => exact own_delete.map _
  | inspect =>
    exact (own_requireServer.bind fun _ _ => Operation.always_of_asks (Program.asks_pure _)).map _

end

end Controller

/-- Where every deployment goes by its own name, a tenant's own requests are answered as they may be
then, and leave it so. -/
theorem Holdings.candid_habit {fault : ClusterError → Prop} {s s' : Holdings} {r : Request}
    {reply : r.Reply} (hr : r.Own ns t (·.nameOrEmpty = t.deploymentName)) (hs : s.Keyed)
    (hown : ∀ r, s.records t = some r → r.server.Own t) (h : habit fault r s reply s') :
    Habit.candid (·.nameOrEmpty = t.deploymentName) r () reply () ∧ s'.Keyed ∧
      ∀ r, s'.records t = some r → r.server.Own t := by
  have hkeyed : s'.Keyed := keyed_habit r s reply s' h hs
  cases r with
  | cluster c =>
    have hbut : s.SameBut (fun _ _ => True) s' := sameBut_habit (r := .cluster c) trivial h
    refine ⟨?_, hkeyed, hbut.records ▸ hown⟩
    cases c with
    | getDeployment name =>
      obtain rfl : name = t.deploymentName := hr
      rintro d rfl
      exact hs.deployments _ d h.1
    | _ => trivial
  | store c =>
    obtain ⟨hreply, rfl⟩ := h
    refine ⟨?_, hkeyed, Records.own_answer hown hr⟩
    cases c with
    | find u =>
      obtain rfl : u = t := hr
      rintro r rfl
      exact hown r (Option.some.inj hreply).symm
    | _ => trivial
  | address | now | freshId | pause => exact ⟨trivial, hkeyed, (show s' = s from h) ▸ hown⟩

/-- A command asks only about its own tenant. -/
theorem Controller.of_runs {c : Controller} {tenant : Tenant} {fault : ClusterError → Prop}
    {s : Holdings} (hs : s.Keyed)
    (hn : ∀ r, s.records tenant.id = some r → r.server.objectName = tenant.id.objectName)
    {command : Command} {es : List (Exchange Holdings)} {result : Except Failure Answer}
    {s' : Holdings}
    (run : (command.program c tenant).Runs (Holdings.habit fault) s es result s') :
    ∀ e ∈ es, e.request.Of tenant.id := by
  have hown := Program.Ensures.invariant_of_runs (K := fun _ => True)
    (I := fun s => s.Keyed ∧ ∀ r, s.records tenant.id = some r → r.server.Own tenant.id)
    (fun r s reply s' hr _ hs h => Holdings.candid_habit hr hs.1 hs.2 h)
    (Controller.own_operation ()) run (fun _ _ => trivial)
    ⟨hs, fun r hr => ⟨hs.records _ r hr, hn r hr⟩⟩
  exact fun e he => (hown.1 e he).1.of fun _ hm => hm

end Steading
