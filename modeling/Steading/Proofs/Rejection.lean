import Steading.Proofs.Confinement
import Steading.Proofs.Stages

/-!
# What failures tell

A request that is turned down has left no trace: at most a record has been read and an id been
drawn. Once anything has been asked of the cluster a command is not turned down any more, and if
the cluster has refused a call or could not tell the address, the failure is put down to the
cluster, unless the last that was asked is a call to the store that failed
(`Controller.failsAs_of_runs`).

Nothing is known of those who answer, the store included.
-/

namespace Steading

namespace Failure

/-- The operation is not possible as things are, or not at all. -/
def isRejection : Failure → Bool
  | validation _ | precondition _ | notFound _ => true
  | _ => false

def isCluster : Failure → Bool
  | cluster _ => true
  | _ => false

end Failure

/-- Reads a record or draws an id. -/
def Request.isLookup : Request → Bool
  | .store (.find _) | .freshId => true
  | _ => false

section

variable {σ : Type} {es lead : List (Exchange σ)} {f : Failure}

theorem Exchange.refusal?_of_isLookup {x : Exchange σ} (h : x.request.isLookup = true) :
    x.refusal? = none := by
  obtain ⟨s, r, reply⟩ := x
  cases r with
  | cluster | address => cases h
  | _ => rfl

/-- The last that was asked is a call to the store, and the failure is its own. -/
def StoreFails (es : List (Exchange σ)) (f : Failure) : Prop :=
  ∃ s c e, es.getLast? = some ⟨s, .store c, .error e⟩ ∧ f = .persistence e.message

/-- The cluster is to blame, or the store at last. -/
def Grave (es : List (Exchange σ)) (f : Failure) : Prop :=
  f.isCluster = true ∨ StoreFails es f

/-- How what an operation fails with goes with what it has asked. -/
structure FailsAs (es : List (Exchange σ)) (f : Failure) : Prop where
  untouched : f.isRejection = true → ∀ x ∈ es, x.request.isLookup = true
  blamed : (∃ x ∈ es, x.refusal? ≠ none) → Grave es f

/-- A failure that is no rejection. -/
structure Serious (es : List (Exchange σ)) (f : Failure) : Prop extends FailsAs es f where
  not_rejected : f.isRejection = false

theorem Grave.append (h : Grave es f) : Grave (lead ++ es) f := by
  obtain h | ⟨s, c, e, hlast, rfl⟩ := h
  · exact .inl h
  · exact .inr ⟨s, c, e, by rw [List.getLast?_append, hlast, Option.some_or], rfl⟩

theorem Grave.serious (h : Grave es f) : Serious es f := by
  have hf : f.isRejection = false := by
    obtain h | ⟨s, c, e, -, rfl⟩ := h
    · cases f <;> cases h
      rfl
    · rfl
  exact ⟨⟨fun hrejected => absurd (hrejected.symm.trans hf) (by simp), fun _ => h⟩, hf⟩

theorem FailsAs.of_lookups (h : ∀ x ∈ es, x.request.isLookup = true) (f : Failure) :
    FailsAs es f where
  untouched _ := h
  blamed := by
    rintro ⟨x, hx, hrefused⟩
    exact absurd (Exchange.refusal?_of_isLookup (h x hx)) hrefused

theorem Serious.of_accepted (h : ∀ x ∈ es, x.refusal? = none) (hf : f.isRejection = false) :
    Serious es f where
  untouched hrejected := absurd (hrejected.symm.trans hf) (by simp)
  blamed := by
    rintro ⟨x, hx, hrefused⟩
    exact absurd (h x hx) hrefused
  not_rejected := hf

/-- Refusals that are not among what was asked first are among what was asked then. -/
theorem FailsAs.blamed_append (hlead : ∀ x ∈ lead, x.refusal? = none) (h : FailsAs es f)
    (hrefused : ∃ x ∈ lead ++ es, x.refusal? ≠ none) : Grave (lead ++ es) f := by
  obtain ⟨x, hx, hrefused⟩ := hrefused
  rcases List.mem_append.1 hx with hx | hx
  · exact absurd (hlead x hx) hrefused
  · exact (h.blamed ⟨x, hx, hrefused⟩).append

theorem FailsAs.append (hlead : ∀ x ∈ lead, x.request.isLookup = true) (h : FailsAs es f) :
    FailsAs (lead ++ es) f where
  untouched hf := List.forall_mem_append.2 ⟨hlead, h.untouched hf⟩
  blamed := h.blamed_append fun x hx => Exchange.refusal?_of_isLookup (hlead x hx)

theorem Serious.append (hlead : ∀ x ∈ lead, x.refusal? = none) (h : Serious es f) :
    Serious (lead ++ es) f where
  untouched hf := absurd (hf.symm.trans h.not_rejected) (by simp)
  blamed := h.blamed_append hlead
  not_rejected := h.not_rejected

end

namespace Operation

variable {σ α β ε : Type} {may : Habit σ}

/-- Whenever the operation fails, what it has asked and the failure are as `why` says. -/
def Tells (may : Habit σ) (x : Operation α) (why : List (Exchange σ) → Failure → Prop) : Prop :=
  ∀ s es f s', x.run.Runs may s es (.error f) s' → why es f

/-- Whenever the operation succeeds, the cluster has refused it nothing. -/
def NeedsAll (may : Habit σ) (x : Operation α) : Prop :=
  ∀ s es a s', x.run.Runs may s es (.ok a) s' → ∀ e ∈ es, e.refusal? = none

section

variable {x : Operation α} {g : α → Operation β} {why why' : List (Exchange σ) → Failure → Prop}

theorem Tells.serious (hx : x.Tells may Grave) : x.Tells may Serious :=
  fun s es f s' run => (hx s es f s' run).serious

theorem Tells.failsAs (hx : x.Tells may Serious) : x.Tells may FailsAs :=
  fun s es f s' run => (hx s es f s' run).toFailsAs

theorem Tells.bind (hx : x.Tells may why) (hg : ∀ a, (g a).Tells may why')
    (hlead : ∀ {s lead a s'}, x.run.Runs may s lead (.ok a) s' → ∀ es f, why' es f →
      why (lead ++ es) f) : (x >>= g).Tells may why := by
  intro s es f s' run
  rcases runs_bind.1 run with ⟨lead, a, s₁, es, hx', hrest, rfl⟩ | ⟨f, hstop, hf⟩
  · exact hlead hx' _ _ (hg a _ _ _ _ hrest)
  · cases hf
    exact hx _ _ _ _ hstop

/-- While nothing but lookups is asked a failure may be of any kind. -/
theorem Tells.bind_lookups (hx : x.run.Asks (·.isLookup = true))
    (hg : ∀ a, (g a).Tells may FailsAs) : (x >>= g).Tells may FailsAs := by
  refine .bind (fun s es f s' run => .of_lookups (hx.of_runs run) f) hg fun run es f h => ?_
  exact h.append (hx.of_runs run)

theorem Tells.bind_serious (hx : x.Tells may Serious) (hok : x.NeedsAll may)
    (hg : ∀ a, (g a).Tells may Serious) : (x >>= g).Tells may Serious :=
  hx.bind hg fun run _ _ h => h.append (hok _ _ _ _ run)

theorem Tells.bind_grave (hx : x.Tells may Grave) (hg : ∀ a, (g a).Tells may Grave) :
    (x >>= g).Tells may Grave :=
  hx.bind hg fun _ _ _ h => h.append

theorem NeedsAll.bind (hx : x.NeedsAll may) (hg : ∀ a, (g a).NeedsAll may) :
    (x >>= g).NeedsAll may := by
  intro s es b s' run
  rcases runs_bind.1 run with ⟨lead, a, s₁, es, hx', hrest, rfl⟩ | ⟨f, -, hf⟩
  · exact List.forall_mem_append.2 ⟨hx _ _ _ _ hx', hg a _ _ _ _ hrest⟩
  · cases hf

end

theorem tells_pure (a : α) {why : List (Exchange σ) → Failure → Prop} :
    (pure a : Operation α).Tells may why := by
  intro s es f s' run
  obtain ⟨-, hf, -⟩ := Program.runs_pure.1 run
  cases hf

theorem tells_throw {f : Failure} {why : List (Exchange σ) → Failure → Prop} (h : why [] f) :
    (throw f : Operation α).Tells may why := by
  intro s es f' s' run
  obtain ⟨rfl, hf, -⟩ := Program.runs_pure.1 run
  cases hf
  exact h

theorem tells_throw_bind {f : Failure} (g : α → Operation β)
    {why : List (Exchange σ) → Failure → Prop} (h : why [] f) :
    (throw f >>= g : Operation β).Tells may why :=
  tells_throw h

theorem tells_lift (p : Program α) {why : List (Exchange σ) → Failure → Prop} :
    Tells may (ExceptT.lift p) why := by
  intro s es f s' run
  obtain ⟨a, -, hf⟩ := runs_lift.1 run
  cases hf

theorem tells_provision (p : Program (Except ProvisionError α)) :
    (provision p).Tells may Grave := by
  intro s es f s' run
  obtain ⟨result, -, hf⟩ := runs_ofProgram.1 run
  cases result <;> cases hf
  exact .inl rfl

theorem tells_call (c : ClusterCall) : (call c).Tells may Grave := by
  intro s es f s' run
  obtain ⟨reply, -, -, hf⟩ := runs_call.1 run
  cases reply <;> cases hf
  exact .inl rfl

theorem tells_store (c : StoreCall) : (store c).Tells may Grave := by
  intro s es f s' run
  obtain ⟨reply, rfl, -, hf⟩ := runs_store.1 run
  cases reply <;> cases hf
  exact .inr ⟨s, c, _, rfl, rfl⟩

theorem needsAll_call (c : ClusterCall) : (call c).NeedsAll may := by
  intro s es a s' run
  obtain ⟨reply, rfl, -, ha⟩ := runs_call.1 run
  cases reply <;> cases ha
  simp [Exchange.refusal?]

theorem needsAll_of_lookups {x : Operation α} (hx : x.run.Asks (·.isLookup = true)) :
    x.NeedsAll may := fun _ _ _ _ run e he =>
  Exchange.refusal?_of_isLookup (hx.of_runs run e he)

theorem needsAll_store (c : StoreCall) : (store c).NeedsAll may := by
  intro s es a s' run
  obtain ⟨reply, rfl, -⟩ := runs_store.1 run
  simp [Exchange.refusal?]

theorem needsAll_now : now.NeedsAll may := by
  intro s es a s' run
  obtain ⟨time, rfl, -⟩ := runs_now.1 run
  simp [Exchange.refusal?]

end Operation

variable {σ : Type} {may : Habit σ}

theorem tells_launchWorld (name : String) (w : WorldDetails) :
    (launchWorld name w).Tells may Serious := by
  intro s es f s' run
  generalize hresult : (Except.error f : Except Failure Unit) = result at run
  cases launch_of_runs run with
  | unseen =>
    cases hresult
    exact Grave.serious (.inl rfl)
  | gameless =>
    cases hresult
    exact .of_accepted (by simp [Exchange.refusal?]) rfl
  | @sent _ _ reply =>
    cases reply <;> cases hresult
    exact Grave.serious (.inl rfl)

theorem needsAll_launchWorld (name : String) (w : WorldDetails) :
    (launchWorld name w).NeedsAll may := by
  intro s es a s' run
  generalize hresult : (Except.ok a : Except Failure Unit) = result at run
  cases launch_of_runs run with
  | unseen | gameless => cases hresult
  | @sent _ _ reply =>
    cases reply <;> cases hresult
    simp [Exchange.refusal?]

namespace Controller

variable {c : Controller} {t : Tenant}

theorem tells_addressOrUndo (t : TenantId) : (c.addressOrUndo t).Tells may Grave := by
  rw [addressOrUndo]
  refine .bind_grave (Operation.tells_lift _) fun reply => ?_
  cases reply with
  | ok ip => exact Operation.tells_pure ip
  | error e =>
    exact .bind_grave (Operation.tells_lift _) fun _ => Operation.tells_throw (.inl rfl)

theorem tells_clearLeftover (t : TenantId) : (c.clearLeftover t).Tells may Grave := by
  rw [clearLeftover]
  refine .bind_grave (Operation.tells_lift _) fun there => ?_
  cases there
  · exact Operation.tells_pure ()
  · exact .bind_grave (Operation.tells_provision _) fun _ => Operation.tells_provision _

theorem tells_create {r : ServerRequest} : (c.create t r).Tells may FailsAs := by
  rw [create]
  refine .bind_lookups Operation.asks_ofExcept fun _ => ?_
  refine .bind_lookups (asks_findServer rfl) fun found => ?_
  split_ifs
  · exact Operation.tells_throw_bind _ (.of_lookups (by simp) _)
  refine .bind_lookups (asks_settleWorld rfl) fun plan => ?_
  obtain ⟨e, w⟩ := plan
  refine (Operation.Tells.serious ?_).failsAs
  refine .bind_grave (tells_clearLeftover t.id) fun _ => ?_
  refine .bind_grave (Operation.tells_provision _) fun _ => ?_
  refine .bind_grave (tells_addressOrUndo t.id) fun ip => ?_
  refine .bind_grave (Operation.tells_lift _) fun now => ?_
  exact .bind_grave (Operation.tells_store _) fun _ => Operation.tells_pure _

theorem tells_patch {r : ServerRequest} : (c.patch t r).Tells may FailsAs := by
  rw [patch]
  refine .bind_lookups Operation.asks_ofExcept fun _ => ?_
  refine .bind_lookups (asks_requireServer rfl) fun old => ?_
  refine .bind_lookups (asks_settleWorld rfl) fun plan => ?_
  obtain ⟨e, w⟩ := plan
  refine Operation.Tells.failsAs ?_
  refine .bind_serious (tells_launchWorld _ _) (needsAll_launchWorld _ _) fun _ => ?_
  refine .bind_serious (Operation.tells_store _).serious
    (Operation.needsAll_store _) fun found => ?_
  cases found
  · exact Operation.tells_throw_bind _ (.of_accepted (by simp) rfl)
  refine .bind_serious (Operation.tells_lift _) Operation.needsAll_now fun now => ?_
  exact .bind_serious (Operation.tells_store _).serious
    (Operation.needsAll_store _) fun _ => Operation.tells_pure _

theorem tells_scaleServer {t : TenantId} {r : ScaleRequest} :
    (scaleServer t r).Tells may FailsAs := by
  rw [scaleServer]
  refine .bind_lookups (asks_requireServer rfl) fun old => ?_
  cases old.server.state.scaleTarget r.replicas with
  | none => exact Operation.tells_throw (.of_lookups (by simp) _)
  | some state =>
    refine Operation.Tells.failsAs ?_
    refine .bind_serious (tells_launchWorld _ _) (needsAll_launchWorld _ _) fun _ => ?_
    refine .bind_serious (Operation.tells_call _).serious
      (Operation.needsAll_call _) fun _ => ?_
    refine .bind_serious (Operation.tells_lift _) Operation.needsAll_now fun now => ?_
    exact .bind_serious (Operation.tells_store _).serious
      (Operation.needsAll_store _) fun _ => Operation.tells_pure _

theorem tells_delete {t : TenantId} : (c.delete t).Tells may FailsAs := by
  have deletes : ∀ q : ActionQueue,
      (do
        let deleted ← .provision (Prod.fst <$> q.rollback)
        let _ ← .store (.delete t)
        return deleted : Operation (List String)).Tells may FailsAs := fun q =>
    Operation.Tells.failsAs <| Operation.Tells.serious <|
      .bind_grave (Operation.tells_provision _) fun _ =>
        .bind_grave (Operation.tells_store _) fun _ => Operation.tells_pure _
  rw [delete]
  refine .bind_lookups (asks_findServer rfl) fun found => ?_
  cases found with
  | some r => exact deletes _
  | none => exact deletes _

theorem tells_showServer {t : TenantId} : (showServer t).Tells may FailsAs :=
  .bind_lookups (asks_requireServer rfl) fun _ => Operation.tells_pure _

theorem failsAs_of_runs {command : Command} {s s' : σ} {es : List (Exchange σ)} {f : Failure}
    (run : (command.program c t).Runs may s es (.error f) s') : FailsAs es f := by
  have told : ∀ {α : Type} {x : Operation α} {g : α → Answer}, x.Tells may FailsAs →
      (g <$> x).run.Runs may s es (.error f) s' → FailsAs es f := by
    intro α x g hx run
    obtain ⟨result, hrun, hf⟩ := Operation.runs_map.1 run
    cases result <;> cases hf
    exact hx _ _ _ _ hrun
  cases command with
  | create r => exact told tells_create run
  | patch r => exact told tells_patch run
  | scale r => exact told tells_scaleServer run
  | delete => exact told tells_delete run
  | inspect => exact told tells_showServer run

/-- A rejected command has left no trace, a request that does not hold up is rejected whatever the
state is, and what the cluster fails in is never told as a rejection. -/
theorem rejections_touch_nothing (c : Controller) (t : Tenant) :
    (∀ {σ : Type} {may : Habit σ} {command : Command} {s s' : σ} {es : List (Exchange σ)}
        {f : Failure}, (command.program c t).Runs may s es (.error f) s' → FailsAs es f) ∧
      ∀ {r : ServerRequest} {e : ValidationError}, r.validate = .error e →
        (Command.create r).program c t = pure (.error (.ofValidation e)) ∧
          (Command.patch r).program c t = pure (.error (.ofValidation e)) := by
  refine ⟨failsAs_of_runs, fun {r e} hinvalid => ⟨?_, ?_⟩⟩
  · rw [Command.program, Command.operation, create, hinvalid]
    rfl
  · rw [Command.program, Command.operation, patch, hinvalid]
    rfl

/-- A server's deployment has gone missing, which is not the fault of who asks to change it. -/
theorem rejections_touch_nothing_of_missing_deployment :
    let t : Tenant := ⟨default, "premium"⟩
    let s : Site := ⟨.empty "longhall", ⟨[(t.id, .first t.id ⟨2, 4, 4, 1, false⟩ default "" 0)]⟩⟩
    (∃ es f s', ((Command.patch .sample).program sample t).Runs
        (Site.habit fun e => e.isNotFound = false) s es (.error f) s' ∧
      (∃ x ∈ es, x.refusal? = some (.notFound .deployment t.id.deploymentName)) ∧
        FailsAs es f ∧ f.isCluster = true) ∧
      (Command.patch { ServerRequest.sample with name := "" }).program sample t =
        pure (.error (.ofValidation .nameLength)) := by
  intro t s
  obtain ⟨hfails, hinvalid⟩ := rejections_touch_nothing sample t
  refine ⟨?_, (hinvalid rfl).2⟩
  let p := (Command.patch .sample).program sample t
  have run := runs_sampleOutside p s
  have hrefused : (p.trace sampleOutside s).any (fun x => decide
      (x.refusal? = some (.notFound .deployment t.id.deploymentName))) = true := by
    decide +kernel
  obtain ⟨x, hx, hrefused⟩ := List.any_eq_true.1 hrefused
  obtain ⟨f, hf, hcluster⟩ : ∃ f, (p.run sampleOutside s).1 = .error f ∧ f.isCluster = true :=
    ⟨_, rfl, by decide +kernel⟩
  rw [hf] at run
  exact ⟨_, f, _, run, ⟨x, hx, of_decide_eq_true hrefused⟩, hfails run, hcluster⟩

end Controller

end Steading
