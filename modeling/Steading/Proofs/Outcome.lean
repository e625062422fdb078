import Steading.Proofs.GameArgs
import Steading.Proofs.Provision

/-!
# What a command can come to

`Controller.Outcome` lists how a command may end and what is held then, whatever fails on the way
and whatever the address, the time and the fresh ids are. `Controller.outcome_of_runs` says that
the list is complete, and that a command is orderly: up to its end it changes no server on record,
and it asks for a record to be deleted only after the tenant's objects have been.
-/

namespace Steading

/-- The names of a tenant's objects. -/
def TenantId.objectName (t : TenantId) : Kind → String
  | .deployment => t.deploymentName
  | .claim => t.claimName

def Server.objectName (s : Server) : Kind → String
  | .deployment => s.deploymentName
  | .claim => s.claimName

/-- The record that a new server is given. -/
def ServerRecord.first (t : TenantId) (e : Entitlements) (w : WorldDetails) (ip : String)
    (now : Int64) : ServerRecord where
  server := {
    tenant := t
    ip := ip
    port := w.port
    cpu := w.cpu
    memory := w.memory
    cpuLimit := e.cpu
    memoryLimit := e.memoryGi
    claimName := t.claimName
    deploymentName := t.deploymentName
    state := .running
    createdAt := now
    updatedAt := now }
  world := w

def ServerRecord.patched (old : ServerRecord) (e : Entitlements) (w : WorldDetails)
    (now : Int64) : ServerRecord where
  server := { old.server with
    port := w.port, cpuLimit := e.cpu, memoryLimit := e.memoryGi, updatedAt := now }
  world := w

def ServerRecord.moved (old : ServerRecord) (state : ServerState) (now : Int64) :
    ServerRecord where
  server := { old.server with state, updatedAt := now }
  world := old.world

namespace Holdings

def servers (s : Holdings) (t : TenantId) : Option Server :=
  (s.records t).map (·.server)

theorem servers_eq {s s' : Holdings} (h : s'.records = s.records) : s'.servers = s.servers := by
  funext t
  rw [servers, servers, h]

theorem servers_putRecord (s : Holdings) {t : TenantId} {old r : ServerRecord}
    (hold : s.records t = some old) (hr : r.server = old.server) :
    (s.putRecord t (some r)).servers = s.servers := by
  funext t'
  by_cases ht : t' = t
  · simp [servers, putRecord, ht, hold, hr]
  · simp [servers, putRecord, setAt_of_ne ht]

/-- The names that a tenant's objects have on record, or would have. -/
def objectName (s : Holdings) (t : TenantId) (kind : Kind) : String :=
  match s.records t with
  | some r => r.server.objectName kind
  | none => t.objectName kind

theorem objectName_of_record {s : Holdings} {t : TenantId} {r : ServerRecord}
    (h : s.records t = some r) : s.objectName t = r.server.objectName := by
  funext kind
  rw [objectName, h]

theorem objectName_of_none {s : Holdings} {t : TenantId} (h : s.records t = none) :
    s.objectName t = t.objectName := by
  funext kind
  rw [objectName, h]

/-- What there is to delete of a tenant. -/
def toDelete (s : Holdings) (ns : String) (t : TenantId) : ActionQueue :=
  deletionQueue ns (s.objectName t .deployment) (s.objectName t .claim)

/-- A deployment is there, and with these arguments for the game it would be another one. -/
def Relaunched (s : Holdings) (name args : String) (d : Deployment) : Prop :=
  ∃ old, s.deployments name = some old ∧ old.setGameArgs? args = some d

end Holdings

/-- A record is deleted only after the objects, but for those that could not be found. -/
def Controller.Orderly (c : Controller) (fault : ClusterError → Prop) (t : TenantId) (s : Holdings)
    (r : Request) (s' : Holdings) : Prop :=
  s'.servers = s.servers ∧ (r = .store (.delete t) →
    s.Drops (fun e => fault e ∧ e.isNotFound = true) (s.toDelete c.manifests.ns t) s')

/-- What a tenant's command comes to, and what is held then. -/
inductive Controller.Outcome (c : Controller) (fault : ClusterError → Prop) (t : Tenant)
    (s : Holdings) : Command → Except Failure Answer → Holdings → Prop
  | created {r : ServerRequest} {e : Entitlements} {id ip : String} {w : WorldDetails}
      {now : Int64} {s₁ s₂ : Holdings} (free : s.records t.id = none)
      (plan : c.plans.find? t.subscription = some e) (world : WorldDetails.ofRequest r e id = .ok w)
      (cleared : s.SameBut (fun kind name => kind = .claim ∧ name = t.id.claimName) s₁)
      (added : Holdings.Adds
        [.claim (tenantClaim c.manifests t.id), .deployment (tenantDeployment c.manifests t.id w)]
        s₁ s₂) :
      c.Outcome fault t s (.create r) (.ok (.server (ServerRecord.first t.id e w ip now).view))
        (s₂.putRecord t.id (some (.first t.id e w ip now)))
  | notCreated {r : ServerRequest} {f : Failure} {s' : Holdings}
      (h : s' = s ∨ s.records t.id = none ∧
        s.SameBut (fun kind name => name = t.id.objectName kind) s') :
      c.Outcome fault t s (.create r) (.error f) s'
  | patched {r : ServerRequest} {old : ServerRecord} {e : Entitlements} {id : String}
      {w : WorldDetails} {now : Int64} {d : Deployment} (found : s.records t.id = some old)
      (plan : c.plans.find? t.subscription = some e) (world : WorldDetails.ofRequest r e id = .ok w)
      (launched : s.Relaunched old.server.deploymentName w.launchArgs d) :
      c.Outcome fault t s (.patch r) (.ok (.server (old.patched e w now).view))
        ((s.putDeployment old.server.deploymentName (some d)).putRecord t.id
          (some (old.patched e w now)))
  | notPatched {r : ServerRequest} {f : Failure} : c.Outcome fault t s (.patch r) (.error f) s
  | scaled {r : ScaleRequest} {old : ServerRecord} {state : ServerState} {now : Int64}
      {d : Deployment} (found : s.records t.id = some old)
      (target : old.server.state.scaleTarget r.replicas = some state)
      (launched : s.Relaunched old.server.deploymentName old.world.launchArgs d) :
      c.Outcome fault t s (.scale r) (.ok (.server (old.moved state now).view))
        ((s.putDeployment old.server.deploymentName (some (d.scaled r.replicas))).putRecord t.id
          (some (old.moved state now)))
  | notScaled {r : ScaleRequest} {f : Failure} {s' : Holdings}
      (h : s' = s ∨ ∃ old d, s.records t.id = some old ∧
        s.Relaunched old.server.deploymentName old.world.launchArgs d ∧
        s' = s.putDeployment old.server.deploymentName (some d)) :
      c.Outcome fault t s (.scale r) (.error f) s'
  | deleted {s₁ : Holdings}
      (h : s.Drops (fun e => fault e ∧ e.isNotFound = true) (s.toDelete c.manifests.ns t.id) s₁) :
      c.Outcome fault t s .delete
        (.ok (.deleted [s.objectName t.id .deployment, s.objectName t.id .claim]))
        (s₁.putRecord t.id none)
  | notDeleted {f : Failure} {s' : Holdings}
      (h : s.Drops fault (s.toDelete c.manifests.ns t.id) s') :
      c.Outcome fault t s .delete (.error f) s'
  | inspected {r : ServerRecord} (found : s.records t.id = some r) :
      c.Outcome fault t s .inspect (.ok (.server r.view)) s
  | notInspected {f : Failure} : c.Outcome fault t s .inspect (.error f) s

theorem forall_mem_deletionQueue (touched : Kind → String → Prop) {ns deployment claim : String}
    (hd : touched .deployment deployment) (hc : touched .claim claim) :
    ∀ a ∈ deletionQueue ns deployment claim, touched a.kind a.name :=
  List.forall_mem_cons.2 ⟨hd, List.forall_mem_cons.2 ⟨hc, by simp⟩⟩

variable {fault : ClusterError → Prop} {allowed : Request → Holdings → Prop}
variable {err : Failure → Holdings → Prop} {s : Holdings}

namespace Operation

theorem ensures_call {c : ClusterCall} {ok : c.Reply → Holdings → Prop} :
    (call c).Ensures (Holdings.habit fault) allowed ok err s ↔
      allowed (.cluster c) s ∧ (∀ a s', s.Gives c a s' → ok a s') ∧
        ∀ e, fault e ∨ s.Refuses c e → err (.cluster e.message) s :=
  (ensures_ofProgram _ _ _).trans Program.ensures_call

theorem ensures_store {c : StoreCall} {a : c.Reply} {f : Records}
    (ha : s.records.answer c = (some a, f)) {ok : c.Reply → Holdings → Prop}
    (hallowed : allowed (.store c) s) (h : ok a { s with records := f }) :
    (store c).Ensures (Holdings.habit fault) allowed ok err s := by
  refine (ensures_ofProgram _ _ _).2 ⟨hallowed, fun reply s' hr => ?_⟩
  obtain ⟨hreply, rfl⟩ := hr
  rw [ha] at hreply ⊢
  cases reply with
  | ok b => exact Option.some.inj hreply ▸ h
  | error e => cases hreply

theorem ensures_save {r : ServerRecord} {ok : Unit → Holdings → Prop}
    (hr : s.records r.server.tenant = none) (hallowed : allowed (.store (.save r)) s)
    (h : ok () (s.putRecord r.server.tenant (some r))) :
    (store (.save r)).Ensures (Holdings.habit fault) allowed ok err s :=
  ensures_store (Records.answer_save hr) hallowed h

theorem ensures_update {t : TenantId} {old : ServerRecord} (r : ServerRecord)
    {ok : Unit → Holdings → Prop} (hold : s.records t = some old) (ht : r.server.tenant = t)
    (hworld : r.world = old.world) (hcreated : r.server.createdAt = old.server.createdAt)
    (hallowed : allowed (.store (.update r.server)) s) (h : ok () (s.putRecord t (some r))) :
    (store (.update r.server)).Ensures (Holdings.habit fault) allowed ok err s := by
  subst ht
  exact ensures_store (Records.answer_update hold hworld hcreated) hallowed h

theorem ensures_updateWorld {t : TenantId} {old : ServerRecord} (w : WorldDetails)
    {ok : Bool → Holdings → Prop} (hold : s.records t = some old)
    (hallowed : allowed (.store (.updateWorld t old.world.world old.world.name w)) s)
    (h : ok true (s.putRecord t (some { old with world := w }))) :
    (store (.updateWorld t old.world.world old.world.name w)).Ensures (Holdings.habit fault)
      allowed ok err s :=
  ensures_store (Records.answer_updateWorld hold w) hallowed h

theorem ensures_now {ok : Int64 → Holdings → Prop} (hallowed : allowed .now s)
    (h : ∀ time, ok time s) : now.Ensures (Holdings.habit fault) allowed ok err s := by
  refine (ensures_lift _ _).2 ⟨hallowed, ?_⟩
  rintro time s' rfl
  exact h time

end Operation

section

variable {t : TenantId}

theorem ensures_findServer {ok : Option ServerRecord → Holdings → Prop}
    (hallowed : allowed (.store (.find t)) s) (h : ok (s.records t) s) :
    (findServer t).Ensures (Holdings.habit fault) allowed ok err s :=
  Operation.ensures_store rfl hallowed h

theorem asks_findServer {asked : Request → Prop} (hfind : asked (.store (.find t))) :
    (findServer t).run.Asks asked :=
  Operation.asks_ofProgram ((Program.asks_request _).2 hfind)

theorem asks_requireServer {asked : Request → Prop} (hfind : asked (.store (.find t))) :
    (requireServer t).run.Asks asked := by
  refine Operation.asks_bind (asks_findServer hfind) fun found => ?_
  cases found <;> exact Program.asks_pure _

theorem ensures_requireServer {ok : ServerRecord → Holdings → Prop}
    (hallowed : allowed (.store (.find t)) s) (hok : ∀ r, s.records t = some r → ok r s)
    (herr : ∀ f, err f s) :
    (requireServer t).Ensures (Holdings.habit fault) allowed ok err s := by
  refine (Operation.ensures_bind _ _ _).2 (ensures_findServer hallowed ?_)
  rcases h : s.records t with _ | r
  · exact herr _
  · exact hok r h

end

theorem ensures_launchWorld {name : String} {w : WorldDetails} {ok : Unit → Holdings → Prop}
    (hs : s.Keyed) (hget : allowed (.cluster (.getDeployment name)) s)
    (hreplace : ∀ d, d.metadata.nameOrEmpty = name → allowed (.cluster (.replaceDeployment d)) s)
    (hok : ∀ d, s.Relaunched name w.launchArgs d → ok () (s.putDeployment name (some d)))
    (herr : ∀ f, err f s) :
    (launchWorld name w).Ensures (Holdings.habit fault) allowed ok err s := by
  refine (Operation.ensures_bind _ _ _).2 (Operation.ensures_call.2 ⟨hget, ?_,
    fun _ _ => herr _⟩)
  rintro d s' ⟨hd, rfl⟩
  rcases h : d.setGameArgs? w.launchArgs with _ | d'
  · exact herr _
  · have hname : d'.metadata.nameOrEmpty = name := by
      rw [Deployment.metadata_of_setGameArgs? h]
      exact hs.deployments name d hd
    refine Operation.ensures_call.2 ⟨hreplace d' hname, ?_, fun _ _ => herr _⟩
    rintro _ s'' ⟨-, rfl⟩
    rw [hname]
    exact hok d' ⟨d, hd, h⟩

namespace Controller

variable {c : Controller} {t : Tenant}

theorem ensures_settleWorld {r : ServerRequest}
    {ok : Entitlements × WorldDetails → Holdings → Prop} (hallowed : allowed .freshId s)
    (hok : ∀ e id w, c.plans.find? t.subscription = some e → WorldDetails.ofRequest r e id = .ok w →
      ok (e, w) s)
    (herr : ∀ f, err f s) :
    (c.settleWorld t r).Ensures (Holdings.habit fault) allowed ok err s := by
  rw [settleWorld, Operation.ensures_bind, Operation.ensures_ofExcept]
  refine ⟨fun e he => ?_, fun _ _ => herr _⟩
  have hplan : c.plans.find? t.subscription = some e := by
    rw [PlanTable.entitlements] at he
    split at he
    · rename_i e' h
      rw [h, Except.ok.inj he]
    · cases he
  rw [Operation.ensures_bind, Operation.ensures_lift, Program.ensures_request]
  refine ⟨hallowed, ?_⟩
  rintro id s' rfl
  rw [Operation.ensures_bind, Operation.check, Operation.ensures_ofExcept]
  exact ⟨fun w hw => hok e id w hplan hw, fun _ _ => herr _⟩

theorem asks_settleWorld {r : ServerRequest} {asked : Request → Prop} (hid : asked .freshId) :
    (c.settleWorld t r).run.Asks asked := by
  rw [settleWorld]
  refine Operation.asks_bind Operation.asks_ofExcept fun e => ?_
  refine Operation.asks_bind (Operation.asks_lift ((Program.asks_request _).2 hid)) fun id => ?_
  exact Operation.asks_bind Operation.asks_ofExcept fun w => Program.asks_pure _

/-- All that is asked about a claim that was left behind, and the pauses in between. -/
theorem asks_clearLeftover {t : TenantId} {asked : Request → Prop}
    (hget : asked (.cluster (.getClaim t.claimName)))
    (hclear : asked (.cluster (.clearFinalizers t.claimName)))
    (hdelete : asked (.cluster (.deleteClaim t.claimName))) (hpause : ∀ d, asked (.pause d)) :
    (c.clearLeftover t).run.Asks asked := by
  refine Operation.asks_bind (Operation.asks_lift (asks_claimExists hget)) fun there => ?_
  cases there
  · exact Program.asks_pure _
  · exact Operation.asks_bind (Operation.asks_ofProgram (asks_removeStuckClaim hclear hdelete))
      fun _ => Operation.asks_ofProgram (c.settle.asks_waitFor hget hpause _ _ _)

theorem ensures_clearLeftover {t : TenantId}
    (hallowed : ∀ (r : Request) s',
      r.Within (fun kind name => kind = .claim ∧ name = t.claimName) → s'.records = s.records →
        allowed r s') :
    (c.clearLeftover t).Ensures (Holdings.habit fault) allowed
      (fun _ => s.SameBut fun kind name => kind = .claim ∧ name = t.claimName)
      (fun _ => s.SameBut fun kind name => kind = .claim ∧ name = t.claimName) s :=
  Operation.ensures_of_asks
    (asks_clearLeftover ⟨rfl, rfl⟩ ⟨rfl, rfl⟩ ⟨rfl, rfl⟩ fun _ => trivial)
    (fun _ _ _ _ hr h hs => hs.trans (Holdings.sameBut_habit hr h))
    (fun r s' hr hs => hallowed r s' hr hs.records) (.of_eq rfl)

theorem ensures_addressOrUndo {t : TenantId} {s₀ : Holdings}
    (hs : s₀.SameBut (fun kind name => name = t.objectName kind) s)
    (hallowed : ∀ (r : Request) s', r.Within (fun kind name => name = t.objectName kind) →
      s'.records = s₀.records → allowed r s')
    {ok : String → Holdings → Prop} (hok : ∀ ip, ok ip s) :
    (c.addressOrUndo t).Ensures (Holdings.habit fault) allowed ok
      (fun _ => s₀.SameBut fun kind name => name = t.objectName kind) s := by
  rw [addressOrUndo, Operation.ensures_bind, Operation.ensures_lift, Program.ensures_request]
  refine ⟨hallowed _ _ trivial hs.records, ?_⟩
  rintro reply s' rfl
  cases reply with
  | ok ip => exact hok ip
  | error e =>
    rw [Operation.ensures_bind, Operation.ensures_lift]
    exact (ActionQueue.asks_rollback fun a ha => a.within_deletion
        (forall_mem_deletionQueue (fun kind name => name = t.objectName kind) rfl rfl a ha)).ensures
      (fun r s₁ reply s₂ hr h hs => hs.trans (Holdings.sameBut_habit hr h))
      (fun r s₁ hr hs => hallowed r s₁ hr hs.records) hs

theorem orderly_of_within {t : TenantId} {touched : Kind → String → Prop} (r : Request)
    (s' : Holdings) (hr : r.Within touched) (hs : s'.records = s.records) :
    c.Orderly fault t s r s' := by
  refine ⟨Holdings.servers_eq hs, ?_⟩
  rintro rfl
  exact hr.elim

theorem ensures_create {r : ServerRequest} :
    (c.create t r).Ensures (Holdings.habit fault) (c.Orderly fault t.id s)
      (fun v => c.Outcome fault t s (.create r) (.ok (.server v)))
      (fun f => c.Outcome fault t s (.create r) (.error f)) s := by
  have unchanged : ∀ f, c.Outcome fault t s (.create r) (.error f) s := fun f =>
    .notCreated (.inl rfl)
  rw [create, Operation.ensures_bind, Operation.check, Operation.ensures_ofExcept]
  refine ⟨fun _ _ => ?_, fun _ _ => unchanged _⟩
  rw [Operation.ensures_bind]
  refine ensures_findServer ⟨rfl, nofun⟩ ?_
  cases free : s.records t.id with
  | some old => exact unchanged _
  | none =>
    simp only [Option.isSome_none, Bool.false_eq_true, ↓reduceIte]
    rw [Operation.ensures_bind]
    refine ensures_settleWorld ⟨rfl, nofun⟩ (fun e id w plan world => ?_) unchanged
    dsimp only
    rw [Operation.ensures_bind]
    refine (ensures_clearLeftover orderly_of_within).mono (fun _ s₁ cleared => ?_) fun f s₁ cleared => ?_
    · have hcleared : s.SameBut (fun kind name => name = t.id.objectName kind) s₁ := by
        refine cleared.mono ?_
        rintro _ _ ⟨rfl, rfl⟩
        rfl
      have hqueue : ∀ a ∈ [Action.claim (tenantClaim c.manifests t.id),
          .deployment (tenantDeployment c.manifests t.id w)],
          a.name = t.id.objectName a.kind :=
        List.forall_mem_cons.2 ⟨rfl, List.forall_mem_cons.2 ⟨rfl, by simp⟩⟩
      rw [Operation.ensures_bind, Operation.provision, Operation.ensures_ofProgram,
        ActionQueue.fst_apply]
      refine (ActionQueue.ensures_createFrom hqueue
        (fun r s' hr hs => orderly_of_within r s' hr hs.records) hqueue hcleared).mono fun result s₂ h => ?_
      cases result with
      | error e => exact .notCreated (.inr ⟨free, h⟩)
      | ok names =>
        have hadded := hcleared.trans (h.sameBut hqueue)
        dsimp only
        rw [Operation.ensures_bind]
        refine (ensures_addressOrUndo hadded orderly_of_within fun ip => ?_).mono (fun _ _ h => h)
          fun f s₃ h => .notCreated (.inr ⟨free, h⟩)
        rw [Operation.ensures_bind]
        refine Operation.ensures_now ⟨Holdings.servers_eq hadded.records, nofun⟩ fun now => ?_
        rw [Operation.ensures_bind]
        exact Operation.ensures_save ((congrFun hadded.records t.id).trans free)
          ⟨Holdings.servers_eq hadded.records, nofun⟩ (.created free plan world cleared h)
    · refine .notCreated (.inr ⟨free, cleared.mono ?_⟩)
      rintro _ _ ⟨rfl, rfl⟩
      rfl

theorem ensures_patch (hs : s.Keyed) {r : ServerRequest} :
    (c.patch t r).Ensures (Holdings.habit fault) (c.Orderly fault t.id s)
      (fun v => c.Outcome fault t s (.patch r) (.ok (.server v)))
      (fun f => c.Outcome fault t s (.patch r) (.error f)) s := by
  have unchanged : ∀ f, c.Outcome fault t s (.patch r) (.error f) s := fun _ => .notPatched
  rw [patch, Operation.ensures_bind, Operation.check, Operation.ensures_ofExcept]
  refine ⟨fun _ _ => ?_, fun _ _ => unchanged _⟩
  rw [Operation.ensures_bind]
  refine ensures_requireServer ⟨rfl, nofun⟩ (fun old found => ?_) unchanged
  rw [Operation.ensures_bind]
  refine ensures_settleWorld ⟨rfl, nofun⟩ (fun e id w plan world => ?_) unchanged
  dsimp only
  rw [Operation.ensures_bind]
  refine ensures_launchWorld hs ⟨rfl, nofun⟩ (fun _ _ => ⟨rfl, nofun⟩) (fun d launched => ?_) unchanged
  rw [Operation.ensures_bind]
  refine Operation.ensures_updateWorld w found ⟨rfl, nofun⟩ ?_
  simp only [Bool.not_true, Bool.false_eq_true, ↓reduceIte]
  have hservers := Holdings.servers_putRecord (s.putDeployment old.server.deploymentName (some d))
    found (show { old with world := w }.server = old.server from rfl)
  rw [Operation.ensures_bind]
  refine Operation.ensures_now ⟨hservers, nofun⟩ fun now => ?_
  rw [Operation.ensures_bind]
  refine Operation.ensures_update (old.patched e w now) (setAt_same _ _ _)
    (hs.records t.id old found) rfl rfl ⟨hservers, nofun⟩ ?_
  rw [Holdings.putRecord_putRecord]
  refine (Operation.ensures_pure (old.patched e w now).view _).2 ?_
  exact .patched found plan world launched

theorem ensures_scaleServer (hs : s.Keyed) {r : ScaleRequest} :
    (scaleServer t.id r).Ensures (Holdings.habit fault) (c.Orderly fault t.id s)
      (fun v => c.Outcome fault t s (.scale r) (.ok (.server v)))
      (fun f => c.Outcome fault t s (.scale r) (.error f)) s := by
  have unchanged : ∀ f, c.Outcome fault t s (.scale r) (.error f) s :=
    fun _ => .notScaled (.inl rfl)
  rw [scaleServer, Operation.ensures_bind]
  refine ensures_requireServer ⟨rfl, nofun⟩ (fun old found => ?_) unchanged
  cases target : old.server.state.scaleTarget r.replicas with
  | none => exact unchanged _
  | some state =>
    dsimp only
    rw [Operation.ensures_bind]
    refine ensures_launchWorld hs ⟨rfl, nofun⟩ (fun _ _ => ⟨rfl, nofun⟩) (fun d launched => ?_) unchanged
    rw [Operation.ensures_bind]
    refine Operation.ensures_call.2 ⟨⟨rfl, nofun⟩, ?_, fun _ _ =>
      .notScaled (.inr ⟨old, d, found, launched, rfl⟩)⟩
    rintro _ s' ⟨d', hd', rfl⟩
    obtain rfl : d = d' := Option.some.inj ((setAt_same _ _ _).symm.trans hd')
    rw [Operation.ensures_bind]
    refine Operation.ensures_now ⟨rfl, nofun⟩ fun now => ?_
    rw [Operation.ensures_bind]
    refine Operation.ensures_update (old.moved state now) found (hs.records t.id old found) rfl rfl
      ⟨rfl, nofun⟩ ?_
    rw [Holdings.putDeployment_putDeployment]
    refine (Operation.ensures_pure (old.moved state now).view _).2 ?_
    exact .scaled found target launched

theorem ensures_delete :
    (c.delete t.id).Ensures (Holdings.habit fault) (c.Orderly fault t.id s)
      (fun names => c.Outcome fault t s .delete (.ok (.deleted names)))
      (fun f => c.Outcome fault t s .delete (.error f)) s := by
  have deletes : ∀ q : ActionQueue, q = s.toDelete c.manifests.ns t.id →
      Operation.Ensures (Holdings.habit fault) (c.Orderly fault t.id s)
        (do
          let deleted ← .provision (Prod.fst <$> q.rollback)
          let _ ← .store (.delete t.id)
          return deleted)
        (fun names => c.Outcome fault t s .delete (.ok (.deleted names)))
        (fun f => c.Outcome fault t s .delete (.error f)) s := by
    rintro _ rfl
    rw [Operation.ensures_bind, Operation.provision, Operation.ensures_ofProgram,
      ActionQueue.fst_rollback]
    refine (ActionQueue.ensures_deleteFrom fun a _ s' hs' => ?_).mono fun result s₁ h => ?_
    · refine ⟨Holdings.servers_eq hs', ?_⟩
      cases a <;> nofun
    · cases result with
      | error e => exact .notDeleted h
      | ok names =>
        obtain ⟨-, rfl, hdrops⟩ := h
        dsimp only
        rw [Operation.ensures_bind]
        exact Operation.ensures_store rfl ⟨Holdings.servers_eq hdrops.records, fun _ => hdrops⟩
          (.deleted hdrops)
  rw [delete, Operation.ensures_bind]
  refine ensures_findServer ⟨rfl, nofun⟩ ?_
  cases found : s.records t.id with
  | some r =>
    refine deletes (deletionQueue c.manifests.ns r.server.deploymentName r.server.claimName) ?_
    rw [Holdings.toDelete, Holdings.objectName_of_record found]
    rfl
  | none =>
    refine deletes (deletionQueue c.manifests.ns t.id.deploymentName t.id.claimName) ?_
    rw [Holdings.toDelete, Holdings.objectName_of_none found]
    rfl

theorem ensures_showServer :
    (showServer t.id).Ensures (Holdings.habit fault) (c.Orderly fault t.id s)
      (fun v => c.Outcome fault t s .inspect (.ok (.server v)))
      (fun f => c.Outcome fault t s .inspect (.error f)) s := by
  rw [showServer, Operation.ensures_bind]
  exact ensures_requireServer ⟨rfl, nofun⟩ (fun r found => .inspected found) fun _ => .notInspected

theorem outcome_of_ensures {command : Command}
    (h : (command.operation c t).Ensures (Holdings.habit fault) (c.Orderly fault t.id s)
      (fun a => c.Outcome fault t s command (.ok a))
      (fun f => c.Outcome fault t s command (.error f)) s)
    {es : List (Exchange Holdings)} {result : Except Failure Answer} {s' : Holdings}
    (run : (command.program c t).Runs (Holdings.habit fault) s es result s') :
    (∀ x ∈ es, c.Orderly fault t.id s x.request x.state) ∧
      c.Outcome fault t s command result s' := by
  refine Program.Ensures.of_runs (Program.Ensures.mono (fun result _ h => ?_) h) run
  cases result <;> exact h

section

variable {es : List (Exchange Holdings)} {result : Except Failure Answer} {s' : Holdings}

-- Seen through, `Operation.Ensures` would be evaluated along the whole operation.
attribute [local irreducible] Operation.Ensures

/-- A command is orderly all through and comes to one of its outcomes. -/
theorem outcome_of_runs (hs : s.Keyed) {command : Command}
    (run : (command.program c t).Runs (Holdings.habit fault) s es result s') :
    (∀ x ∈ es, c.Orderly fault t.id s x.request x.state) ∧
      c.Outcome fault t s command result s' := by
  refine outcome_of_ensures ?_ run
  cases command <;> rw [Command.operation, Operation.ensures_map]
  · exact ensures_create
  · exact ensures_patch hs
  · exact ensures_scaleServer hs
  · exact ensures_delete
  · exact ensures_showServer

/-- For a creation it does not matter what goes by which name. -/
theorem outcome_of_create {r : ServerRequest}
    (run : ((Command.create r).program c t).Runs (Holdings.habit fault) s es result s') :
    c.Outcome fault t s (.create r) result s' := by
  refine (outcome_of_ensures ?_ run).2
  rw [Command.operation, Operation.ensures_map]
  exact ensures_create

/-- Nor does it for a deletion. -/
theorem outcome_of_delete
    (run : (Command.delete.program c t).Runs (Holdings.habit fault) s es result s') :
    (∀ x ∈ es, c.Orderly fault t.id s x.request x.state) ∧
      c.Outcome fault t s .delete result s' := by
  refine outcome_of_ensures ?_ run
  rw [Command.operation, Operation.ensures_map]
  exact ensures_delete

end

end Controller

end Steading
