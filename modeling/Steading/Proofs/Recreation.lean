import Steading.Proofs.Estate
import Steading.Proofs.Finalizers

/-!
# A server can be deleted and created anew

Where nothing is made to fail, a removal always succeeds, but it may leave the claim waiting to go.
A creation clears away whatever claim is left and then finds its names free, so it succeeds too
unless the wait for the claim takes too long (`Controller.ensures_create_of_free`). What is there
then is a claim and a deployment as the manifests have them and the record of a server that runs,
whatever had been left behind (`Controller.recreated`).
-/

namespace Steading

/-- The address is known. -/
def Request.Answered : (r : Request) → r.Reply → Prop
  | address, reply => reply.isOk = true
  | _, _ => True

namespace Holdings

/-- Nothing fails that need not. -/
def smooth : Habit Holdings :=
  fun r s reply s' => habit (fun _ => False) r s reply s' ∧ r.Answered reply

end Holdings

/-- No request is out of place. -/
abbrev Anything : Request → Holdings → Prop :=
  fun _ _ => True

section

variable {s : Holdings}

theorem Action.ensures_undo_drop (a : Action) :
    a.undo.Ensures (Holdings.habit fun _ => False) Anything
      (fun result s' => result = .ok () ∧ s' = s.drop a) s :=
  a.ensures_undo trivial ⟨rfl, rfl⟩ (fun _ h => h.1.elim) fun _ h => h.elim

theorem Action.ensures_create_add {a : Action} (hfree : s.has a.kind a.name = false) :
    a.create.Ensures (Holdings.habit fun _ => False) Anything
      (fun result s' => result = .ok () ∧ s' = s.add a) s := by
  have hnot : ∀ {p : Prop}, s.has a.kind a.name = true → p := fun h =>
    (Bool.false_ne_true (hfree.symm.trans h)).elim
  cases a with
  | deployment d =>
    refine Program.ensures_call.2 ⟨trivial, fun _ s' h => ⟨rfl, h.2⟩, fun e he => ?_⟩
    exact he.elim False.elim fun h => hnot h.1
  | claim c =>
    refine Program.ensures_call.2 ⟨trivial, fun _ s' h => ⟨rfl, h.2⟩, fun e he => ?_⟩
    exact he.elim False.elim fun h => hnot h.1

namespace ActionQueue

theorem ensures_deleteFrom_drop : ∀ {q : List Action} {deleted : List String} {s : Holdings},
    (deleteFrom deleted [] q).Ensures (Holdings.habit fun _ => False) Anything
      (fun result s' =>
        result = .ok (deleted ++ q.map Action.name) ∧ s' = q.foldl Holdings.drop s) s
  | [], deleted, s => by simp [deleteFrom]
  | a :: rest, deleted, s => by
    rw [deleteFrom, Program.ensures_bind]
    refine a.ensures_undo_drop.mono fun result s' h => ?_
    obtain ⟨rfl, rfl⟩ := h
    refine ensures_deleteFrom_drop.mono fun result s' h => ?_
    simpa using h

theorem ensures_createFrom_adds {q : ActionQueue} : ∀ {rest : List Action} {created : List String}
    {s s₁ : Holdings}, Holdings.Adds rest s s₁ →
      (createFrom q created rest).Ensures (Holdings.habit fun _ => False) Anything
        (fun result s' => result.isOk = true ∧ s' = s₁) s
  | [], _, _, _, h => ⟨rfl, Eq.symm h⟩
  | a :: rest, created, s, s₁, ⟨hfree, hrest⟩ => by
    rw [createFrom, Program.ensures_bind]
    refine (Action.ensures_create_add hfree).mono fun result s' h => ?_
    obtain ⟨rfl, rfl⟩ := h
    exact ensures_createFrom_adds hrest

end ActionQueue

theorem claims_eq_none_of_has {name : String} (h : s.has .claim name = false) :
    s.claims name = none :=
  Option.not_isSome_iff_eq_none.1 (Bool.eq_false_iff.1 h)

/-- A claim that is not seen is not there. -/
theorem ensures_claimExists (name : String) :
    (claimExists name).Ensures (Holdings.habit fun _ => False) Anything
      (fun there s' => s' = s ∧ (there = false → s.claims name = none)) s := by
  rw [claimExists, Program.ensures_bind]
  refine Program.ensures_call.2 ⟨trivial, fun c s' h => ⟨h, nofun⟩, fun e he => ⟨rfl, fun _ => ?_⟩⟩
  exact he.elim False.elim fun h => claims_eq_none_of_has h.1

/-- Once its finalizers are cleared, a claim is gone or can be deleted at once. -/
theorem Holdings.Gives.hasFinalizers_eq_false {name : String} {s' : Holdings} {u : Unit}
    (h : s.Gives (.clearFinalizers name) u s') (c : Claim) (hc : s'.claims name = some c) :
    c.hasFinalizers = false := by
  obtain ⟨c₀, -, rfl⟩ := h
  split_ifs at hc
  · cases (setAt_same _ _ _).symm.trans hc
  · obtain rfl := Option.some.inj ((setAt_same _ _ _).symm.trans hc)
    rfl

/-- Whatever kept a claim, it is gone. -/
theorem ensures_removeStuckClaim (name : String) :
    (removeStuckClaim name).Ensures (Holdings.habit fun _ => False) Anything
      (fun result s' => result = .ok () ∧ s'.claims name = none) s := by
  rw [removeStuckClaim, Program.ensures_bind]
  refine Program.ensures_call.2 ⟨trivial, fun _ s₁ hcleared => ?_, ?_⟩
  · refine (Program.ensures_bind _ _ _ _).2 (Program.ensures_call.2 ⟨trivial, ?_, ?_⟩)
    · rintro _ s' ⟨c, hc, rfl⟩
      rw [if_neg (Bool.eq_false_iff.1 (hcleared.hasFinalizers_eq_false c hc))]
      exact ⟨rfl, setAt_same _ _ _⟩
    · rintro e (he | ⟨hnone, rfl⟩)
      · exact he.elim
      · exact ⟨rfl, claims_eq_none_of_has hnone⟩
  · rintro e (he | ⟨hnone, rfl⟩)
    · exact he.elim
    · exact ⟨rfl, claims_eq_none_of_has hnone⟩

/-- Waiting for a claim has changed nothing and come to an end. -/
def SettlePolicy.Waited (p : SettlePolicy) (name : String) (s : Holdings)
    (result : Except ProvisionError Unit) (s' : Holdings) : Prop :=
  (result = .ok () ∨ result = .error (.stillPresent name p.timeout)) ∧ s' = s

theorem SettlePolicy.ensures_waitFor (p : SettlePolicy) (name : String) (left : Nat)
    (backoff : Duration) (empty : Nat) :
    (p.waitFor name left backoff empty).Ensures (Holdings.habit fun _ => False) Anything
      (p.Waited name s) s := by
  have pauses : ∀ {d rest}, (∀ u, (rest u).Ensures (Holdings.habit fun _ => False) Anything
        (p.Waited name s) s) →
      (Program.ask (.pause d) rest).Ensures (Holdings.habit fun _ => False) Anything
        (p.Waited name s) s := by
    intro d rest hrest
    refine ⟨trivial, fun u s' hs' => ?_⟩
    obtain rfl : s' = s := hs'
    exact hrest u
  rw [waitFor.eq_def, Program.ensures_bind]
  refine (ensures_claimExists name).mono fun there s' h => ?_
  rw [h.1]
  split_ifs with hthere hleft hnonempty
  · exact ⟨.inr rfl, rfl⟩
  · exact pauses fun _ => p.ensures_waitFor name _ _ _
  · split
    · exact ⟨.inr rfl, rfl⟩
    · exact pauses fun _ => p.ensures_waitFor name _ _ _
  · exact ⟨.inl rfl, rfl⟩
  termination_by (left, empty)

end

namespace Controller

variable {c : Controller} {t : Tenant} {s : Holdings}

theorem ensures_clearLeftover_none {t : TenantId} :
    (c.clearLeftover t).Ensures (Holdings.habit fun _ => False) Anything
      (fun _ s' => s'.claims t.claimName = none)
      (fun f _ =>
        f = .cluster (ProvisionError.stillPresent t.claimName c.settle.timeout).message) s := by
  rw [clearLeftover, Operation.ensures_bind, Operation.ensures_lift]
  refine (ensures_claimExists _).mono fun there s' h => ?_
  obtain ⟨rfl, hnone⟩ := h
  cases there with
  | false => exact hnone rfl
  | true =>
    simp only [↓reduceIte]
    rw [Operation.ensures_bind, Operation.provision, Operation.ensures_ofProgram]
    refine (ensures_removeStuckClaim _).mono fun result s₁ h => ?_
    obtain ⟨rfl, hnone⟩ := h
    refine (Operation.ensures_ofProgram _ _ _).2
      ((c.settle.ensures_waitFor _ _ _ _).mono fun result s₂ h => ?_)
    obtain ⟨rfl | rfl, rfl⟩ := h
    · exact hnone
    · rfl

theorem ensures_settleWorld_of_valid {r : ServerRequest} {ms : List Modifier} {e : Entitlements}
    (hvalid : r.validate = .ok ms) (hplan : c.plans.find? t.subscription = some e) :
    (c.settleWorld t r).Ensures (Holdings.habit fun _ => False) Anything (fun _ s' => s' = s)
      (fun _ _ => False) s := by
  have hentitled : c.plans.entitlements t.subscription = .ok e := by
    rw [PlanTable.entitlements, hplan]
  rw [settleWorld, Operation.ensures_bind, Operation.ensures_ofExcept, hentitled]
  refine ⟨fun e' _ => ?_, fun f hf => by cases hf⟩
  rw [Operation.ensures_bind, Operation.ensures_lift, Program.ensures_request]
  refine ⟨trivial, ?_⟩
  rintro id s' rfl
  have hworld : WorldDetails.ofRequest r e' id = .ok (.fill r e' id ms) :=
    WorldDetails.ofRequest_eq_ok_iff.2 ⟨ms, hvalid, rfl⟩
  rw [Operation.ensures_bind, Operation.check, Operation.ensures_ofExcept, hworld]
  exact ⟨fun _ _ => rfl, fun f hf => by cases hf⟩

theorem ensures_addressOrUndo_of_smooth {t : TenantId} {ok : String → Holdings → Prop}
    {err : Failure → Holdings → Prop} (hok : ∀ ip, ok ip s) :
    (c.addressOrUndo t).Ensures Holdings.smooth Anything ok err s := by
  rw [addressOrUndo, Operation.ensures_bind, Operation.ensures_lift, Program.ensures_request]
  refine ⟨trivial, ?_⟩
  rintro reply s' ⟨rfl, hanswered⟩
  cases reply with
  | ok ip => exact hok ip
  | error e => cases hanswered

/-- Where the tenant has neither a record nor a deployment, whatever there is of a claim, a creation
only breaks off if the claim is waited for too long. -/
theorem ensures_create_of_free {r : ServerRequest} {ms : List Modifier} {e : Entitlements}
    (hvalid : r.validate = .ok ms) (hplan : c.plans.find? t.subscription = some e)
    (hfree : s.records t.id = none) (hnone : s.deployments t.id.deploymentName = none) :
    (c.create t r).Ensures Holdings.smooth Anything (fun _ _ => True)
      (fun f _ =>
        f = .cluster (ProvisionError.stillPresent t.id.claimName c.settle.timeout).message) s := by
  have gentle : ∀ r s reply s', Holdings.smooth r s reply s' →
      Holdings.habit (fun _ => False) r s reply s' := fun _ _ _ _ h => h.1
  rw [create, Operation.ensures_bind, Operation.check, Operation.ensures_ofExcept]
  refine ⟨fun _ _ => ?_, fun f hf => by rw [hvalid] at hf; cases hf⟩
  rw [Operation.ensures_bind]
  refine .of_habit gentle (ensures_findServer trivial ?_)
  simp only [hfree, Option.isSome_none, Bool.false_eq_true, ↓reduceIte]
  rw [Operation.ensures_bind]
  refine .of_habit gentle ((ensures_settleWorld_of_valid hvalid hplan).mono ?_ fun _ _ h => h.elim)
  rintro ⟨e', w⟩ s' rfl
  rw [Operation.ensures_bind]
  refine .of_habit gentle ((ensures_clearLeftover_none.and
    (ensures_clearLeftover fun _ _ _ _ => trivial)).mono ?_ fun _ _ h => h.1)
  rintro _ s₁ ⟨hclaim, hsame⟩
  have hdeployment : s₁.deployments t.id.deploymentName = none :=
    (hsame.deployments _ (by simp)).trans hnone
  have hadds : Holdings.Adds [.claim (tenantClaim c.manifests t.id),
      .deployment (tenantDeployment c.manifests t.id w)] s₁ _ :=
    ⟨congrArg Option.isSome hclaim, congrArg Option.isSome hdeployment, rfl⟩
  rw [Operation.ensures_bind, Operation.provision, Operation.ensures_ofProgram,
    ActionQueue.fst_apply]
  refine .of_habit gentle ((ActionQueue.ensures_createFrom_adds hadds).mono fun result s₂ h => ?_)
  obtain ⟨hok, rfl⟩ := h
  cases result with
  | error e => cases hok
  | ok names =>
    dsimp only
    rw [Operation.ensures_bind]
    refine ensures_addressOrUndo_of_smooth fun ip => ?_
    rw [Operation.ensures_bind]
    refine .of_habit gentle (Operation.ensures_now trivial fun now => ?_)
    rw [Operation.ensures_bind]
    exact .of_habit gentle (Operation.ensures_save (hsame.records ▸ hfree) trivial trivial)

/-- A removal drops what there is of the tenant's objects, and then the record. -/
theorem ensures_delete_drop {t : TenantId} :
    (c.delete t).Ensures (Holdings.habit fun _ => False) Anything
      (fun names s' => names = [s.objectName t .deployment, s.objectName t .claim] ∧
        s' = ((s.toDelete c.manifests.ns t).foldl Holdings.drop s).putRecord t none)
      (fun _ _ => False) s := by
  have drops : ∀ q : ActionQueue, q = s.toDelete c.manifests.ns t →
      Operation.Ensures (Holdings.habit fun _ => False) Anything
        (do
          let deleted ← .provision (Prod.fst <$> q.rollback)
          let _ ← .store (.delete t)
          return deleted)
        (fun names s' => names = [s.objectName t .deployment, s.objectName t .claim] ∧
          s' = ((s.toDelete c.manifests.ns t).foldl Holdings.drop s).putRecord t none)
        (fun _ _ => False) s := by
    rintro _ rfl
    rw [Operation.ensures_bind, Operation.provision, Operation.ensures_ofProgram,
      ActionQueue.fst_rollback]
    refine ActionQueue.ensures_deleteFrom_drop.mono fun result s₁ h => ?_
    obtain ⟨rfl, rfl⟩ := h
    dsimp only
    rw [Operation.ensures_bind]
    exact Operation.ensures_store rfl trivial ⟨rfl, rfl⟩
  rw [delete, Operation.ensures_bind]
  refine ensures_findServer trivial ?_
  cases found : s.records t with
  | some r =>
    refine drops (deletionQueue c.manifests.ns r.server.deploymentName r.server.claimName) ?_
    rw [Holdings.toDelete, Holdings.objectName_of_record found]
    rfl
  | none =>
    refine drops (deletionQueue c.manifests.ns t.deploymentName t.claimName) ?_
    rw [Holdings.toDelete, Holdings.objectName_of_none found]
    rfl

theorem objectName_of_rows {s : Holdings} {t : TenantId}
    (hrow : ∀ row, s.records t = some row → row.server.objectName = t.objectName) :
    s.objectName t = t.objectName := by
  cases found : s.records t with
  | none => exact Holdings.objectName_of_none found
  | some row => rw [Holdings.objectName_of_record found, hrow row found]

theorem deployments_toDelete {s : Holdings} {ns : String} {t : TenantId}
    (hname : s.objectName t = t.objectName) :
    ((s.toDelete ns t).foldl Holdings.drop s).deployments t.deploymentName = none := by
  rw [Holdings.toDelete, hname]
  have hdropped : (s.drop (.deployment (.named ns t.deploymentName))).deployments
      t.deploymentName = none := setAt_same _ _ _
  rcases Holdings.deployments_drop (s.drop (.deployment (.named ns t.deploymentName)))
    (.claim (.named ns t.claimName)) t.deploymentName with h | h
  · exact h.trans hdropped
  · exact h

end Controller

namespace Estate

/-- Surroundings in which the cluster fails as it is told to, and all that is not kept is given. -/
def given (g : Givens) : Outside Estate where
  answer
    | .cluster c, s => ((s.cluster.answer c).1, { s with cluster := (s.cluster.answer c).2 })
    | .address, s => (g.address, s)
    | .store c, s => ((s.store.answer c).1, { s with store := (s.store.answer c).2 })
    | .now, s => (g.time, s)
    | .freshId, s => (g.freshId, s)
    | .pause _, s => ((), s)

variable {g : Givens} {s s' : Estate}

/-- The store can be read, and the cluster is not told to fail. -/
structure Sane (s : Estate) : Prop where
  keeps : s.store.Keeps
  failing : s.cluster.failing = fun _ _ => false

theorem habit_given (hs : s.Sane) (r : Request) :
    habit (fun _ => False) (fun _ => True) r s ((given g).answer r s).1
      ((given g).answer r s).2 := by
  cases r with
  | cluster c =>
    have hanswer : s.cluster.answer c = (s.cluster.record c).perform c :=
      SimulatedCluster.answer_of_not_failing (by simp [hs.failing])
    exact ⟨rfl, .inl ⟨congrArg Prod.fst hanswer, congrArg Prod.snd hanswer⟩⟩
  | store c => exact ⟨rfl, rfl, rfl⟩
  | freshId => exact ⟨trivial, rfl⟩
  | address | now | pause => rfl

theorem gentle_given (g : Givens) (r : Request) (s : Estate) (reply : r.Reply) (s' : Estate)
    (hr : r.Writes WorldDetails.IsCanonical) (hs : s.Sane) (h : (given g).habit r s reply s') :
    Holdings.habit (fun _ => False) r s.holdings reply s'.holdings ∧ s'.Sane := by
  obtain ⟨rfl, rfl⟩ := Prod.mk.inj h
  obtain ⟨hholdings, hkeeps⟩ := habit_holdings r s _ _ hr hs.keeps (habit_given hs r)
  refine ⟨hholdings, hkeeps, ?_⟩
  cases r with
  | cluster c => exact (s.cluster.failing_answer c).trans hs.failing
  | _ => exact hs.failing

theorem smooth_given (hip : g.address.isOk = true) (r : Request) (s : Estate) (reply : r.Reply)
    (s' : Estate) (hr : r.Writes WorldDetails.IsCanonical) (hs : s.Sane)
    (h : (given g).habit r s reply s') :
    Holdings.smooth r s.holdings reply s'.holdings ∧ s'.Sane := by
  obtain ⟨hholdings, hsane⟩ := gentle_given g r s reply s' hr hs h
  obtain ⟨rfl, rfl⟩ := Prod.mk.inj h
  refine ⟨⟨hholdings, ?_⟩, hsane⟩
  cases r with
  | address => exact hip
  | _ => trivial

theorem runs_given {c : Controller} {t : Tenant} {command : Command} {may : Habit Holdings}
    (hmay : ∀ (r : Request) s reply s', r.Writes WorldDetails.IsCanonical → Sane s →
      (given g).habit r s reply s' → may r s.holdings reply s'.holdings ∧ Sane s')
    (hs : s.Sane) :
    (command.program c t).Runs may s.holdings
        (((command.program c t).trace (given g) s).map (Exchange.map holdings))
        ((command.program c t).run (given g) s).1
        ((command.program c t).run (given g) s).2.holdings ∧
      ((command.program c t).run (given g) s).2.Sane := by
  have run := (command.program c t).runs_habit (given g) s
  exact run.map_of hmay (Controller.writes_of_runs
    (fun _ hw => (WorldDetails.sound_of_ofRequest hw).isCanonical) run) hs

/-- The cluster is no longer told to fail. -/
def clearFailures (s : Estate) : Estate :=
  { s with cluster := s.cluster.clearFailures }

/-- The tenant's objects are as its manifests have them, and its server is on record as running. -/
structure Hosts (s : Estate) (m : ManifestConfig) (t : TenantId) (r : ServerRecord) : Prop where
  row : s.store.find t = .ok (some r)
  claim : s.cluster.claims t.claimName = some (tenantClaim m t)
  present : s.cluster.terminating t.claimName = false
  deployment : s.cluster.deployments t.deploymentName = some (tenantDeployment m t r.world)
  running : r.server.state = .running

end Estate

namespace Controller

variable {c : Controller} {t : Tenant} {r : ServerRequest} {e : Entitlements} {ms : List Modifier}
variable {g g' : Givens} {s s' : Estate} {es : List (Exchange Holdings)}
variable {result : Except Failure Answer}

section

-- Seen through, `Operation.Ensures` would be evaluated along the whole operation.
attribute [local irreducible] Operation.Ensures

/-- A removal succeeds and leaves neither a record nor a deployment. -/
theorem deleted_of_runs (hs' : s'.Sane)
    (hname : s.holdings.objectName t.id = t.id.objectName)
    (run : (Command.delete.program c t).Runs (Holdings.habit fun _ => False) s.holdings es result
      s'.holdings) :
    result = .ok (.deleted [t.id.deploymentName, t.id.claimName]) ∧
      s'.store.find t.id = .ok none ∧ s'.cluster.deployments t.id.deploymentName = none := by
  have hdelete : (Command.delete.operation c t).Ensures (Holdings.habit fun _ => False) Anything
      (fun a s' => a = .deleted [t.id.deploymentName, t.id.claimName] ∧
        s' = ((s.holdings.toDelete c.manifests.ns t.id).foldl Holdings.drop s.holdings).putRecord
          t.id none)
      (fun _ _ => False) s.holdings := by
    rw [Command.operation, Operation.ensures_map]
    refine ensures_delete_drop.mono (fun names _ h => ⟨?_, h.2⟩) fun _ _ h => h
    rw [h.1, hname]
    rfl
  obtain ⟨-, hok, herr⟩ := hdelete.of_runs run
  cases result with
  | error f => exact (herr f rfl).elim
  | ok a =>
    obtain ⟨rfl, hafter⟩ := hok a rfl
    refine ⟨rfl, ?_, ?_⟩
    · have hrecord : s'.store.records t.id = none :=
        (congrArg (fun h => h.records t.id) hafter).trans (setAt_same _ _ _)
      rw [hs'.keeps.find_eq, hrecord]
    · have hdeployments : s'.cluster.deployments =
          ((s.holdings.toDelete c.manifests.ns t.id).foldl Holdings.drop s.holdings).deployments :=
        congrArg Holdings.deployments hafter
      rw [hdeployments]
      exact deployments_toDelete hname

/-- Where a removal has left nothing but perhaps a claim, a creation succeeds unless the claim is
waited for too long. -/
theorem created_of_runs (hs : s.Sane) (hs' : s'.Sane) (hawaited : s'.holdings.Awaited)
    (hvalid : r.validate = .ok ms) (hplan : c.plans.find? t.subscription = some e)
    (hfree : s.store.find t.id = .ok none)
    (hnone : s.cluster.deployments t.id.deploymentName = none)
    (run : ((Command.create r).program c t).Runs Holdings.smooth s.holdings es result s'.holdings)
    (hsettled : result ≠
      .error (.cluster (ProvisionError.stillPresent t.id.claimName c.settle.timeout).message)) :
    ∃ record, result = .ok (.server record.view) ∧ s'.Hosts c.manifests t.id record := by
  have hrecord : s.holdings.records t.id = none :=
    Except.ok.inj ((hs.keeps.find_eq t.id).symm.trans hfree)
  have hcreate : ((Command.create r).operation c t).Ensures Holdings.smooth Anything
      (fun _ _ => True)
      (fun f _ => f = .cluster
        (ProvisionError.stillPresent t.id.claimName c.settle.timeout).message) s.holdings := by
    rw [Command.operation, Operation.ensures_map]
    exact ensures_create_of_free hvalid hplan hrecord hnone
  obtain ⟨-, -, herr⟩ := hcreate.of_runs run
  have houtcome := outcome_of_create (run.of_habit fun _ _ _ _ h => h.1)
  generalize hafter : s'.holdings = after at houtcome
  cases houtcome with
  | notCreated h => exact absurd (congrArg _ (herr _ rfl)) hsettled
  | created free plan world cleared added =>
    obtain ⟨-, -, rfl⟩ := added
    have hclaim : s'.cluster.claims t.id.claimName = some (tenantClaim c.manifests t.id) :=
      (congrArg (fun h => h.claims t.id.claimName) hafter).trans (setAt_same _ _ _)
    refine ⟨_, rfl, ?_, hclaim, hawaited.not_terminating ?_, ?_, rfl⟩
    · rw [hs'.keeps.find_eq]
      exact congrArg Except.ok
        ((congrArg (fun h => h.records t.id) hafter).trans (setAt_same _ _ _))
    · exact congrArg (Option.any Claim.hasFinalizers) hclaim
    · exact (congrArg (fun h => h.deployments t.id.deploymentName) hafter).trans (setAt_same _ _ _)

end

theorem recreated_of_runs {s₁ : Estate} {es' : List (Exchange Holdings)}
    {result' : Except Failure Answer} (hs₁ : s₁.Sane) (hs' : s'.Sane)
    (hawaited : s.holdings.Awaited) (hname : s.holdings.objectName t.id = t.id.objectName)
    (hvalid : r.validate = .ok ms) (hplan : c.plans.find? t.subscription = some e)
    (hdelete : (Command.delete.program c t).Runs (Holdings.habit fun _ => False) s.holdings es result
      s₁.holdings)
    (hcreate : ((Command.create r).program c t).Runs Holdings.smooth s₁.holdings es' result'
      s'.holdings) :
    result = .ok (.deleted [t.id.deploymentName, t.id.claimName]) ∧
      s₁.store.find t.id = .ok none ∧
      (result' ≠ .error
          (.cluster (ProvisionError.stillPresent t.id.claimName c.settle.timeout).message) →
        ∃ record, result' = .ok (.server record.view) ∧ s'.Hosts c.manifests t.id record) := by
  obtain ⟨hdeleted, hfree, hnone⟩ := deleted_of_runs hs₁ hname hdelete
  have hbetween : s₁.holdings.Awaited := (hdelete.invariant Holdings.awaited_habit hawaited).2
  have hafter : s'.holdings.Awaited :=
    (hcreate.invariant (fun r s reply s' h => Holdings.awaited_habit r s reply s' h.1) hbetween).2
  exact ⟨hdeleted, hfree, created_of_runs hs₁ hs' hafter hvalid hplan hfree hnone hcreate⟩

/-- Whatever a cluster has come to and whatever is on record for a tenant under its own names, once
the cluster is no longer told to fail, the tenant's server can be deleted and created anew. -/
theorem recreated (hreachable : s.cluster.Reachable) (hkeeps : s.store.Keeps)
    (hrow : ∀ row, s.store.records t.id = some row → row.server.objectName = t.id.objectName)
    (hvalid : r.validate = .ok ms) (hplan : c.plans.find? t.subscription = some e)
    (hip : g'.address.isOk = true) :
    let deleted := (Command.delete.program c t).run (Estate.given g) s.clearFailures
    let created := ((Command.create r).program c t).run (Estate.given g') deleted.2
    deleted.1 = .ok (.deleted [t.id.deploymentName, t.id.claimName]) ∧
      deleted.2.store.find t.id = .ok none ∧
      (created.1 ≠ .error
          (.cluster (ProvisionError.stillPresent t.id.claimName c.settle.timeout).message) →
        ∃ record, created.1 = .ok (.server record.view) ∧
          created.2.Hosts c.manifests t.id record) := by
  have hsane : s.clearFailures.Sane := ⟨hkeeps, rfl⟩
  obtain ⟨hdelete, hsane₁⟩ := Estate.runs_given (Estate.gentle_given g) hsane
  obtain ⟨hcreate, hsane₂⟩ := Estate.runs_given (Estate.smooth_given hip) hsane₁
  exact recreated_of_runs hsane₁ hsane₂ ((hreachable.after (e := .clearFailures) trivial).awaited _)
    (objectName_of_rows hrow) hvalid hplan hdelete hcreate

/-- A row, a deployment that may not be deleted, and a claim that waits to go and is seen once more
when it has gone. -/
def wreck (t : TenantId) : Estate where
  cluster :=
    let claim : Claim := { metadata := { name := some t.claimName, finalizers := some ["kept"] } }
    let filled := ((SimulatedCluster.empty "longhall").insertClaim claim).insertDeployment
      (.named "longhall" t.deploymentName)
    ((filled.answer (.deleteClaim t.claimName)).2.linger t.claimName 1).failOn .deleteDeployment
      t.deploymentName
  store := .memory ⟨[(t, .first t ⟨2, 4, 4, 1, false⟩ default "203.0.113.7" 0)]⟩

/-- The claim is cleared away and waited for, and the server runs again. -/
theorem recreated_of_wreck :
    let t : Tenant := ⟨default, "premium"⟩
    let g : Givens := ⟨.ok "203.0.113.7", 0, "5ead"⟩
    let s := wreck t.id
    let deleted := (Command.delete.program sample t).run (Estate.given g) s.clearFailures
    let created := ((Command.create .sample).program sample t).run (Estate.given g) deleted.2
    s.cluster.terminating t.id.claimName = true ∧ deleted.1.isOk = true ∧
      ∃ record, created.1 = .ok (.server record.view) ∧
        created.2.Hosts sample.manifests t.id record := by
  intro t g s deleted created
  have hreachable : s.cluster.Reachable :=
    ⟨"longhall", [.insertClaim _, .insertDeployment _, .call _, .linger _ _, .failOn _ _],
      ⟨rfl, trivial⟩, rfl⟩
  have hvalid : ServerRequest.sample.validate = .ok [⟨.combat, "hard"⟩] := by decide +kernel
  have hrow : ∀ row, s.store.records t.id = some row → row.server.objectName = t.id.objectName := by
    intro row hrow
    obtain rfl : ServerRecord.first t.id ⟨2, 4, 4, 1, false⟩ default "203.0.113.7" 0 = row :=
      Option.some.inj hrow
    rfl
  obtain ⟨hdeleted, -, hcreated⟩ := recreated (c := sample) (g := g) hreachable trivial hrow hvalid
    (t := t) (by rfl) (show g.address.isOk = true from rfl)
  refine ⟨by decide +kernel, by decide +kernel, hcreated ?_⟩
  have hok : created.1.isOk = true := by
    show ((((Command.create .sample).program sample t).run (Estate.given g)) deleted.2).1.isOk = true
    rw [Command.program, Command.operation, create, clearLeftover, SettlePolicy.waitUntilAbsent,
      SettlePolicy.waitFor.eq_def, SettlePolicy.waitFor.eq_def _ _ (_ - _)]
    decide +kernel
  intro htimeout
  rw [show created.1 = _ from htimeout] at hok
  cases hok

end Controller

end Steading
