import Steading.Proofs.Calls
import Steading.Proofs.Site

/-!
# Creations that break off

Whatever the cluster and the lookup of the address reply, a creation leaves nothing behind that no
record tells of and that it has not asked to be deleted (`Controller.attended_of_create`): a record
is only saved once both objects have been created and the address is known, and a creation that
breaks off before that has had both objects deleted after the last one it tried to create.

Nothing is known of the cluster here but what it replies. A store may fail, but then it is as it
was.
-/

namespace Steading

namespace Request

/-- Puts an object into the cluster. -/
def isCreation : Request → Bool
  | .cluster (.createClaim _) | .cluster (.createDeployment _) => true
  | _ => false

def isSave : Request → Bool
  | .store (.save _) => true
  | _ => false

def isWrite : Request → Bool
  | .store c => c.isWrite
  | _ => false

/-- The object that is to be deleted. -/
def deletion? : Request → Option (Kind × String)
  | .cluster (.deleteDeployment name) => some (.deployment, name)
  | .cluster (.deleteClaim name) => some (.claim, name)
  | _ => none

/-- What may be asked before anything is created. -/
def isPreliminary : Request → Bool
  | .address => false
  | r => !r.isCreation && !r.isWrite

variable {r : Request}

theorem isCreation_of_isPreliminary (h : r.isPreliminary = true) : r.isCreation = false := by
  cases r <;> simp_all [isPreliminary, isCreation]

theorem isWrite_of_isPreliminary (h : r.isPreliminary = true) : r.isWrite = false := by
  cases r <;> simp_all [isPreliminary, isWrite]

theorem isSave_of_isWrite (h : r.isWrite = false) : r.isSave = false := by
  cases r with
  | store c => cases c <;> simp_all [isWrite, isSave, StoreCall.isWrite]
  | _ => rfl

end Request

/-- The failure that a refused creation or a missing address is reported as. -/
def Exchange.failure? {σ : Type} : Exchange σ → Option Failure
  | ⟨_, .cluster (.createClaim c), .error e⟩ =>
    some (.cluster ("applying " ++ c.metadata.nameOrEmpty ++ " failed: " ++ e.message))
  | ⟨_, .cluster (.createDeployment d), .error e⟩ =>
    some (.cluster ("applying " ++ d.metadata.nameOrEmpty ++ " failed: " ++ e.message))
  | ⟨_, .address, .error e⟩ => some (.cluster e.message)
  | _ => none

section

variable {σ : Type} {x : Exchange σ}

theorem Exchange.failure?_of_isPreliminary (h : x.request.isPreliminary = true) :
    x.failure? = none := by
  obtain ⟨s, r, reply⟩ := x
  cases r with
  | cluster c =>
    cases c with
    | createClaim | createDeployment => cases h
    | _ => rfl
  | address => cases h
  | _ => rfl

theorem Exchange.failure?_of_accepted (h : x.refusal? = none) : x.failure? = none := by
  obtain ⟨s, r, reply⟩ := x
  cases r with
  | cluster c =>
    cases reply with
    | ok => cases c <;> rfl
    | error e => cases h
  | address =>
    cases reply with
    | ok => rfl
    | error e => cases h
  | _ => rfl

theorem Exchange.failure?_of_creation {a : Action} {e : ClusterError}
    (hx : x.request = a.creation) (he : x.refusal? = some e) (created : List String) :
    x.failure? = some (.cluster (ProvisionError.create a.name created e).message) := by
  obtain ⟨s, r, reply⟩ := x
  cases a <;>
  · obtain rfl : r = _ := hx
    cases reply with
    | ok => cases he
    | error e' =>
      obtain rfl := Option.some.inj he
      rfl

end

/-- The cluster and the address may reply anything. A call to the store is answered as records are,
or fails and leaves them alone. -/
def Records.habit : Habit Records
  | .store c, f, reply, f' =>
    (reply.toOption = (f.answer c).1 ∧ f' = (f.answer c).2) ∨ (∃ e, reply = .error e) ∧ f' = f
  | .cluster _, f, _, f' | .address, f, _, f' | .now, f, _, f' | .freshId, f, _, f'
  | .pause _, f, _, f' => f' = f

namespace Records

variable {f f' : Records}

theorem eq_of_habit {r : Request} {reply : r.Reply} (h : habit r f reply f')
    (hr : r.isWrite = false) : f' = f := by
  cases r with
  | store c =>
    rcases h with ⟨-, h⟩ | ⟨-, h⟩
    · cases c with
      | find t => exact h
      | _ => cases hr
    · exact h
  | _ => exact h

theorem eq_of_habit_error {c : StoreCall} {e : StoreError}
    (h : habit (.store c) f (.error e) f') : f' = f := by
  rcases h with ⟨hnone, rfl⟩ | ⟨-, h⟩
  · cases c with
    | save r =>
      simp only [answer] at hnone ⊢
      split
      · rfl
      · simp_all [Except.toOption]
    | update server =>
      simp only [answer] at hnone ⊢
      split
      · rfl
      · simp_all [Except.toOption]
    | updateWorld t world name details =>
      simp only [answer] at hnone
      split at hnone
      · split_ifs at hnone <;> cases hnone
      · cases hnone
    | find t => rfl
    | delete t => cases hnone
  · exact h

/-- Only what is written changes the records. -/
theorem eq_of_runs {α : Type} {p : Program α} {es : List (Exchange Records)} {a : α}
    {asked : Request → Prop} (hp : p.Asks asked) (hasked : ∀ r, asked r → r.isWrite = false)
    (run : p.Runs habit f es a f') : (∀ x ∈ es, x.state = f) ∧ f' = f := by
  have hensures : p.Ensures habit (fun _ f' => f' = f) (fun _ f' => f' = f) f := by
    refine hp.ensures ?_ (fun _ _ _ h => h) rfl
    rintro r _ reply f' hr h rfl
    exact eq_of_habit h (hasked r hr)
  exact hensures.of_runs run

end Records

/-- A site is no more than a store with a cluster that may reply anything. -/
theorem Site.habit_records {fault : ClusterError → Prop} (r : Request) (s : Site)
    (reply : r.Reply) (s' : Site) (h : habit fault r s reply s') :
    Records.habit r s.store.find? reply s'.store.find? := by
  cases r with
  | cluster c => exact congrArg MemoryStore.find? h.1
  | store c =>
    obtain ⟨-, rfl, hstore⟩ := h
    have hrecords := s.store.records_answer c
    rw [hstore]
    exact .inl ⟨congrArg Prod.fst hrecords, congrArg Prod.snd hrecords⟩
  | address | now | freshId | pause => rw [show s' = s from h]; rfl

/-- What a creation for a tenant has asked and come to, and the records before and after it. -/
structure Controller.Attended (c : Controller) (t : TenantId) {α : Type} (s : Records)
    (es : List (Exchange Records)) (result : Except Failure α) (s' : Records) : Prop where
  save_once : es.countP (·.request.isSave) ≤ 1
  /-- A record is saved last, right after both objects have been created and the address is
  known. -/
  saved : (∃ x ∈ es, x.request.isSave = true) → ∃ lead w ip time r reply,
    (∀ x ∈ lead, x.request.isPreliminary = true) ∧
      es = lead ++ [
        ⟨s, .cluster (.createClaim (tenantClaim c.manifests t)), .ok ()⟩,
        ⟨s, .cluster (.createDeployment (tenantDeployment c.manifests t w)), .ok ()⟩,
        ⟨s, .address, .ok ip⟩, ⟨s, .now, time⟩, ⟨s, .store (.save r), reply⟩]
  unchanged : ∀ failure, result = .error failure → s' = s
  /-- Unless the record cannot be saved, both objects are deleted again, and the failure is the
  first one. -/
  undone : ∀ failure, result = .error failure → (∃ x ∈ es, x.request.isCreation = true) →
    (∃ r e, ⟨s, .store (.save r), .error e⟩ ∈ es ∧ failure = .persistence e.message) ∨
      es.findSome? Exchange.failure? = some failure ∧
        ∃ before x after, es = before ++ x :: after ∧ x.request.isCreation = true ∧
          (∀ y ∈ after, y.request.isCreation = false) ∧
          after.filterMap (·.request.deletion?) =
            [(.deployment, t.deploymentName), (.claim, t.claimName)]

namespace Controller

variable {c : Controller} {t : TenantId} {α β : Type} {s s' : Records}
variable {es lead : List (Exchange Records)} {result : Except Failure α}

theorem countP_isSave (h : ∀ x ∈ es, x.request.isSave = false) :
    es.countP (·.request.isSave) = 0 :=
  List.countP_eq_zero.2 fun x hx => by simp [h x hx]

theorem not_isSave_of_isPreliminary (h : ∀ x ∈ lead, x.request.isPreliminary = true) :
    ∀ x ∈ lead, x.request.isSave = false := fun x hx =>
  Request.isSave_of_isWrite (Request.isWrite_of_isPreliminary (h x hx))

/-- As long as no record is to be saved, only the deletions matter. -/
theorem Attended.of_unsaved {failure : Failure} (hsave : ∀ x ∈ es, x.request.isSave = false)
    (h : (∃ x ∈ es, x.request.isCreation = true) →
      es.findSome? Exchange.failure? = some failure ∧
        ∃ before x after, es = before ++ x :: after ∧ x.request.isCreation = true ∧
          (∀ y ∈ after, y.request.isCreation = false) ∧
          after.filterMap (·.request.deletion?) =
            [(.deployment, t.deploymentName), (.claim, t.claimName)]) :
    c.Attended t s es (.error failure : Except Failure α) s where
  save_once := by
    have hnone := countP_isSave hsave
    omega
  saved := by
    rintro ⟨x, hx, hx'⟩
    rw [hsave x hx] at hx'
    cases hx'
  unchanged _ _ := rfl
  undone := by
    rintro failure' hfailure hcreation
    cases hfailure
    exact .inr (h hcreation)

theorem Attended.stopped (h : ∀ x ∈ lead, x.request.isPreliminary = true) (failure : Failure) :
    c.Attended t s lead (.error failure : Except Failure α) s := by
  refine .of_unsaved (not_isSave_of_isPreliminary h) ?_
  rintro ⟨x, hx, hcreation⟩
  rw [Request.isCreation_of_isPreliminary (h x hx)] at hcreation
  cases hcreation

/-- What is asked before anything is created does not matter. -/
theorem Attended.after (h : ∀ x ∈ lead, x.request.isPreliminary = true)
    (ha : c.Attended t s es result s') : c.Attended t s (lead ++ es) result s' where
  save_once := by
    have hnone := countP_isSave (not_isSave_of_isPreliminary h)
    have hes := ha.save_once
    rw [List.countP_append]
    omega
  saved := by
    rintro ⟨x, hx, hsave⟩
    rcases List.mem_append.1 hx with hx | hx
    · rw [not_isSave_of_isPreliminary h x hx] at hsave
      cases hsave
    · obtain ⟨lead', w, ip, time, r, reply, hlead', rfl⟩ := ha.saved ⟨x, hx, hsave⟩
      exact ⟨lead ++ lead', w, ip, time, r, reply, List.forall_mem_append.2 ⟨h, hlead'⟩,
        (List.append_assoc _ _ _).symm⟩
  unchanged := ha.unchanged
  undone := by
    rintro failure hfailure ⟨x, hx, hcreation⟩
    rcases List.mem_append.1 hx with hx | hx
    · rw [Request.isCreation_of_isPreliminary (h x hx)] at hcreation
      cases hcreation
    · rcases ha.undone failure hfailure ⟨x, hx, hcreation⟩ with ⟨r, e, hr, hfailure⟩ |
        ⟨hfirst, before, y, after, rfl, hundone⟩
      · exact .inl ⟨r, e, List.mem_append_right _ hr, hfailure⟩
      · have hnone : lead.findSome? Exchange.failure? = none :=
          List.findSome?_eq_none_iff.2 fun z hz => Exchange.failure?_of_isPreliminary (h z hz)
        refine .inr ⟨?_, lead ++ before, y, after, (List.append_assoc _ _ _).symm, hundone⟩
        rw [List.findSome?_append, hnone]
        exact hfirst

/-- Something could not be created, or the address is not known, and both objects have been
deleted. -/
theorem Attended.rolledBack (before lookup : List (Exchange Records))
    {after : List (Exchange Records)} {x : Exchange Records} {failure : Failure}
    (hbefore : ∀ y ∈ before, y.request.isSave = false) (hx : x.request.isCreation = true)
    (hlookup : ∀ y ∈ lookup, y.request = .address)
    (hafter : after.map (·.request) =
      [.cluster (.deleteDeployment t.deploymentName), .cluster (.deleteClaim t.claimName)])
    (hfirst : (before ++ x :: lookup).findSome? Exchange.failure? = some failure) :
    c.Attended t s (before ++ x :: (lookup ++ after)) (.error failure : Except Failure α) s := by
  obtain ⟨y, rest, rfl, hy, hrest⟩ := List.map_eq_cons_iff.1 hafter
  obtain ⟨z, rest, rfl, hz, hrest⟩ := List.map_eq_cons_iff.1 hrest
  obtain rfl := List.map_eq_nil_iff.1 hrest
  have hx' : x.request.isSave = false := by
    cases hr : x.request <;> simp_all [Request.isCreation, Request.isSave]
  refine .of_unsaved ?_ fun _ => ⟨?_, before, x, lookup ++ [y, z], rfl, hx, ?_, ?_⟩
  · simp only [List.forall_mem_append, List.forall_mem_cons]
    refine ⟨hbefore, hx', fun l hl => ?_, ?_⟩
    · rw [hlookup l hl]
      rfl
    · simp [hy, hz, Request.isSave]
  · rw [← List.cons_append, ← List.append_assoc, List.findSome?_append, hfirst]
    rfl
  · simp only [List.forall_mem_append, List.forall_mem_cons]
    refine ⟨fun l hl => ?_, ?_⟩
    · rw [hlookup l hl]
      rfl
    · simp [hy, hz, Request.isCreation]
  · have hnone : lookup.filterMap (·.request.deletion?) = [] := by
      refine List.filterMap_eq_nil_iff.2 fun l hl => ?_
      rw [hlookup l hl]
      rfl
    rw [List.filterMap_append, hnone]
    simp [hy, hz, Request.deletion?]

/-- Both objects are there and the address is known, and the record has been saved or could not
be. -/
theorem Attended.recorded {w : WorldDetails} {ip : String} {time : Int64} {r : ServerRecord}
    {reply : Except StoreError Unit}
    (h : ∀ failure, result = .error failure →
      s' = s ∧ ∃ e, reply = .error e ∧ failure = .persistence e.message) :
    c.Attended t s [
      ⟨s, .cluster (.createClaim (tenantClaim c.manifests t)), .ok ()⟩,
      ⟨s, .cluster (.createDeployment (tenantDeployment c.manifests t w)), .ok ()⟩,
      ⟨s, .address, .ok ip⟩, ⟨s, .now, time⟩, ⟨s, .store (.save r), reply⟩] result s' where
  save_once := by simp [Request.isSave]
  saved _ := ⟨[], w, ip, time, r, reply, by simp, rfl⟩
  unchanged failure hfailure := (h failure hfailure).1
  undone failure hfailure _ := by
    obtain ⟨-, e, rfl, hfailure⟩ := h failure hfailure
    exact .inl ⟨r, e, by simp, hfailure⟩

theorem Attended.map (g : α → β) (h : c.Attended t s es result s') :
    c.Attended t s es (result.map g) s' := by
  have herror : ∀ failure, result.map g = .error failure → result = .error failure := by
    intro failure hfailure
    cases result with
    | ok a => cases hfailure
    | error failure' =>
      cases hfailure
      rfl
  exact ⟨h.save_once, h.saved, fun failure hfailure => h.unchanged failure (herror _ hfailure),
    fun failure hfailure => h.undone failure (herror _ hfailure)⟩

theorem Attended.of_bind {x : Operation β} {f : β → Operation α}
    (hx : x.run.Asks (·.isPreliminary = true))
    (hf : ∀ b es, (f b).run.Runs Records.habit s es result s' → c.Attended t s es result s')
    (run : (x >>= f).run.Runs Records.habit s es result s') : c.Attended t s es result s' := by
  rcases Operation.runs_bind.1 run with ⟨lead, b, s₁, es₂, hlead, hrest, rfl⟩ |
    ⟨failure, hstop, rfl⟩
  · obtain ⟨-, rfl⟩ := Records.eq_of_runs hx (fun _ => Request.isWrite_of_isPreliminary) hlead
    exact (hf b es₂ hrest).after (hx.of_runs hlead)
  · obtain ⟨-, rfl⟩ := Records.eq_of_runs hx (fun _ => Request.isWrite_of_isPreliminary) hstop
    exact .stopped (hx.of_runs hstop) failure

def newObjects (c : Controller) (t : TenantId) (w : WorldDetails) : ActionQueue :=
  [.claim (tenantClaim c.manifests t), .deployment (tenantDeployment c.manifests t w)]

/-- Both objects are created, or one is refused and both are deleted. -/
theorem runs_createObjects {w : WorldDetails} {result : Except Failure (List String)}
    (run : (Operation.provision (Prod.fst <$> (c.newObjects t w).apply)).run.Runs
      Records.habit s es result s') :
    s' = s ∧
      ((∃ names, result = .ok names ∧ es = (c.newObjects t w).map (Action.accepted s)) ∨
        ∃ before x after failure, result = .error failure ∧ es = before ++ x :: after ∧
          (∀ y ∈ before, y.request.isSave = false ∧ y.failure? = none) ∧
          x.request.isCreation = true ∧ x.failure? = some failure ∧
          after.map (·.request) =
            [.cluster (.deleteDeployment t.deploymentName), .cluster (.deleteClaim t.claimName)]) := by
  obtain ⟨result, hrun, rfl⟩ := Operation.runs_ofProgram.1 run
  rw [ActionQueue.fst_apply] at hrun
  have hasks : (ActionQueue.createFrom (c.newObjects t w) [] (c.newObjects t w)).Asks
      (·.isWrite = false) :=
    ActionQueue.asks_createFrom (fun a _ => by cases a <;> rfl) (fun a _ => by cases a <;> rfl)
  obtain ⟨hstates, hs⟩ := Records.eq_of_runs hasks (fun _ h => h) hrun
  refine ⟨hs, ?_⟩
  rcases ActionQueue.runs_createFrom hrun with ⟨hcreated, rfl⟩ |
    ⟨done, a, later, before, x, after, e, -, rfl, hdone, hx, he, hafter, rfl⟩
  · exact .inl ⟨_, rfl, hcreated.eq_map hstates⟩
  · refine .inr ⟨before, x, after, _, rfl, rfl, fun y hy => ⟨?_, ?_⟩, ?_,
      Exchange.failure?_of_creation hx he _, hafter⟩
    · obtain ⟨b, -, hb⟩ := hdone.exists_creation hy
      rw [hb]
      cases b <;> rfl
    · exact Exchange.failure?_of_accepted (hdone.accepted y hy)
    · rw [hx]
      cases a <;> rfl

theorem runs_addressOrUndo {result : Except Failure String}
    (run : (c.addressOrUndo t).run.Runs Records.habit s es result s') :
    s' = s ∧
      ((∃ ip, result = .ok ip ∧ es = [⟨s, .address, .ok ip⟩]) ∨
        ∃ x after failure, result = .error failure ∧ es = x :: after ∧ x.request = .address ∧
          x.failure? = some failure ∧ after.map (·.request) =
            [.cluster (.deleteDeployment t.deploymentName),
              .cluster (.deleteClaim t.claimName)]) := by
  rw [addressOrUndo] at run
  rcases Operation.runs_bind.1 run with ⟨es₁, reply, s₁, es₂, hlookup, hrest, rfl⟩ |
    ⟨failure, hlookup, rfl⟩
  · obtain ⟨reply', hlookup, hreply⟩ := Operation.runs_lift.1 hlookup
    cases hreply
    obtain ⟨rfl, rfl⟩ := Program.runs_request.1 hlookup
    cases reply with
    | ok ip =>
      obtain ⟨rfl, rfl, rfl⟩ := Program.runs_pure.1 hrest
      exact ⟨rfl, .inl ⟨ip, rfl, rfl⟩⟩
    | error e =>
      rcases Operation.runs_bind.1 hrest with ⟨ys, _, s₂, es₃, hundo, hthrow, rfl⟩ |
        ⟨failure, hundo, -⟩
      · obtain ⟨_, hundo, -⟩ := Operation.runs_lift.1 hundo
        obtain ⟨rfl, rfl, rfl⟩ := Program.runs_pure.1 hthrow
        have hys := ActionQueue.runs_rollback hundo
        have hasks : (deletionQueue c.manifests.ns t.deploymentName t.claimName).rollback.Asks
            (·.isWrite = false) :=
          ActionQueue.asks_rollback fun a _ => by cases a <;> rfl
        obtain ⟨-, rfl⟩ := Records.eq_of_runs hasks (fun _ h => h) hundo
        exact ⟨rfl, .inr ⟨_, ys, _, rfl, by rw [List.append_nil]; rfl, rfl, rfl, hys⟩⟩
      · obtain ⟨_, -, hnone⟩ := Operation.runs_lift.1 hundo
        cases hnone
  · obtain ⟨_, -, hnone⟩ := Operation.runs_lift.1 hlookup
    cases hnone

/-- Once the objects are there, the time is asked for and the record is saved. -/
theorem runs_record {r : Int64 → ServerRecord} {result : Except Failure ServerView}
    (run : (do
        let now ← Operation.now
        Operation.store (.save (r now))
        return (r now).view : Operation ServerView).run.Runs Records.habit s es result s') :
    ∃ time reply, es = [⟨s, .now, time⟩, ⟨s, .store (.save (r time)), reply⟩] ∧
      ∀ failure, result = .error failure →
        s' = s ∧ ∃ e, reply = .error e ∧ failure = .persistence e.message := by
  rcases Operation.runs_bind.1 run with ⟨es₁, time, s₁, es₂, hnow, hrest, rfl⟩ | ⟨_, hnow, -⟩
  · obtain ⟨_, rfl, rfl, hresult⟩ := Operation.runs_now.1 hnow
    cases hresult
    rcases Operation.runs_bind.1 hrest with ⟨es₁, _, s₁, es₂, hsave, hend, rfl⟩ |
      ⟨failure, hsave, rfl⟩
    · obtain ⟨reply, rfl, -, -⟩ := Operation.runs_store.1 hsave
      obtain ⟨rfl, rfl, rfl⟩ := Program.runs_pure.1 hend
      refine ⟨time, reply, rfl, ?_⟩
      rintro failure hfailure
      cases hfailure
    · obtain ⟨reply, rfl, hhabit, hreply⟩ := Operation.runs_store.1 hsave
      refine ⟨time, reply, rfl, ?_⟩
      rintro failure' hfailure
      cases hfailure
      cases reply with
      | ok => cases hreply
      | error e =>
        cases hreply
        exact ⟨Records.eq_of_habit_error hhabit, e, rfl, rfl⟩
  · obtain ⟨_, -, -, hresult⟩ := Operation.runs_now.1 hnow
    cases hresult

/-- What is done once nothing is in the way. -/
theorem attended_establish {w : WorldDetails} {r : String → Int64 → ServerRecord}
    {result : Except Failure ServerView}
    (run : (do
        let _ ← Operation.provision (Prod.fst <$> (c.newObjects t w).apply)
        let ip ← c.addressOrUndo t
        let now ← Operation.now
        Operation.store (.save (r ip now))
        return (r ip now).view : Operation ServerView).run.Runs Records.habit s es result s') :
    c.Attended t s es result s' := by
  rcases Operation.runs_bind.1 run with ⟨es₁, names, s₁, es₂, hobjects, hlookup, rfl⟩ |
    ⟨failure, hobjects, rfl⟩
  · obtain ⟨rfl, ⟨_, -, rfl⟩ | ⟨_, _, _, _, hresult, -⟩⟩ := runs_createObjects hobjects
    · rcases Operation.runs_bind.1 hlookup with ⟨es₃, ip, s₂, es₄, haddress, hrecord, rfl⟩ |
        ⟨failure, haddress, rfl⟩
      · obtain ⟨rfl, ⟨_, -, rfl⟩ | ⟨_, _, _, hresult, -⟩⟩ := runs_addressOrUndo haddress
        · obtain ⟨time, reply, rfl, hreply⟩ := runs_record hrecord
          exact .recorded hreply
        · cases hresult
      · obtain ⟨rfl, ⟨_, hresult, -⟩ | ⟨x, after, failure, hresult, rfl, hx, hfailure, hafter⟩⟩ :=
          runs_addressOrUndo haddress
        · cases hresult
        · cases hresult
          refine .rolledBack [_] [x] (by simp [Request.isSave, Action.accepted]) rfl (by simp [hx])
            hafter ?_
          rw [List.singleton_append, List.findSome?_cons, List.findSome?_cons, List.findSome?_cons,
            hfailure]
          rfl
    · cases hresult
  · obtain ⟨rfl, ⟨_, hresult, -⟩ |
      ⟨before, x, after, failure, hresult, rfl, hbefore, hx, hfailure, hafter⟩⟩ :=
        runs_createObjects hobjects
    · cases hresult
    · -- An object has been refused, and the address is never asked for.
      cases hresult
      refine .rolledBack before [] (fun y hy => (hbefore y hy).1) hx (by simp) hafter ?_
      have hnone : before.findSome? Exchange.failure? = none :=
        List.findSome?_eq_none_iff.2 fun y hy => (hbefore y hy).2
      rw [List.findSome?_append, hnone, List.findSome?_cons, hfailure]
      rfl

theorem attended_create {t : Tenant} {r : ServerRequest} {result : Except Failure ServerView}
    (run : (c.create t r).run.Runs Records.habit s es result s') :
    c.Attended t.id s es result s' := by
  rw [create] at run
  refine .of_bind Operation.asks_ofExcept (fun _ _ hfind => ?_) run
  refine .of_bind (asks_findServer rfl) (fun found _ hsettle => ?_) hfind
  cases found with
  | some old =>
    obtain ⟨rfl, rfl, rfl⟩ := Program.runs_pure.1 hsettle
    exact .stopped (by simp) _
  | none =>
    simp only [Option.isSome_none, Bool.false_eq_true, ↓reduceIte] at hsettle
    refine .of_bind (asks_settleWorld rfl) (fun plan _ hclear => ?_) hsettle
    refine .of_bind (asks_clearLeftover rfl rfl rfl fun _ => rfl) (fun _ _ hcreate => ?_) hclear
    exact attended_establish hcreate

theorem attended_of_create {t : Tenant} {r : ServerRequest} {result : Except Failure Answer}
    (run : ((Command.create r).program c t).Runs Records.habit s es result s') :
    c.Attended t.id s es result s' := by
  obtain ⟨result, hcreate, rfl⟩ := Operation.runs_map.1 run
  exact (attended_create hcreate).map Answer.server

/-- The claim is created and the deployment is refused. -/
theorem attended_of_refused_deployment : ∃ es failure s',
    ((Command.create .sample).program sample ⟨default, "premium"⟩).Runs Records.habit .empty es
      (.error failure) s' ∧ (∃ x ∈ es, x.request.isCreation = true) ∧
        sample.Attended default .empty es (.error failure : Except Failure Answer) s' := by
  let p := (Command.create .sample).program sample ⟨default, "premium"⟩
  let o := Site.outside (· == .createDeployment) "203.0.113.7" 0 "5ead"
  have hsite : p.Runs (Site.habit fun e => e.isNotFound = false) (.empty "longhall")
      (p.trace o (.empty "longhall")) (p.run o (.empty "longhall")).1
      (p.run o (.empty "longhall")).2 :=
    p.runs_run o (Site.habit_outside (fun _ _ => rfl) _ _ _ _) _
  have run := hsite.map Site.habit_records
  have hcreation : (p.trace o (.empty "longhall")).any (·.request.isCreation) = true := by
    decide +kernel
  have herror : (p.run o (.empty "longhall")).1.isOk = false := by decide +kernel
  obtain ⟨x, hx, hcreation⟩ := List.any_eq_true.1 hcreation
  rcases hresult : (p.run o (.empty "longhall")).1 with failure | a
  · rw [hresult] at run
    exact ⟨_, failure, _, run, ⟨_, List.mem_map_of_mem hx, hcreation⟩, attended_of_create run⟩
  · rw [hresult] at herror
    cases herror

end Controller

end Steading
