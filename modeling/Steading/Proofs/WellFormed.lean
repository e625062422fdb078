import Steading.Proofs.Ceiling
import Steading.Proofs.Estate

/-!
# Records stay well formed

The port and the limits of a server are written down twice, once with its row and once with its
world, and the two are written by different calls. Between commands they agree whatever the
commands came to (`Holdings.Aligned.outcome`). With what is known of names and of worlds, every
record that is found is well formed, and it keeps the time it was created until its tenant removes
it (`Controller.Conducts.wellFormed`).
-/

namespace Steading

/-- What the server's row says agrees with its world: the port is the world's, and what the world
asks for is within what the plan allowed. -/
structure ServerRecord.Aligned (r : ServerRecord) : Prop where
  port : r.server.port = r.world.port
  cpu : r.world.cpu ≤ r.server.cpuLimit
  memory : r.world.memory ≤ r.server.memoryLimit

/-- A record as it should be found under a tenant. -/
structure ServerRecord.WellFormed (r : ServerRecord) (t : TenantId) : Prop extends r.Aligned where
  tenant : r.server.tenant = t
  claimName : r.server.claimName = t.claimName
  deploymentName : r.server.deploymentName = t.deploymentName
  ports : 1024 ≤ r.server.port ∧ r.server.port ≤ 65534
  trimmed : Text.trim r.world.name = r.world.name
  named : r.world.name ≠ ""
  unquoted : '"' ∉ r.world.name.toList
  keys : (r.world.modifiers.map (·.key)).Nodup
  canonical : ∀ m ∈ r.world.modifiers, m.IsCanonical
  identified : r.world.instanceId ≠ ""

/-- A world that can be launched: it keeps the rules, and an id has been drawn for it. -/
structure WorldDetails.Complete (w : WorldDetails) : Prop extends w.Sound where
  identified : w.instanceId ≠ ""

theorem WorldDetails.complete_of_ofRequest {r : ServerRequest} {e : Entitlements} {id : String}
    {w : WorldDetails} (hid : id ≠ "") (h : ofRequest r e id = .ok w) : w.Complete where
  toSound := sound_of_ofRequest h
  identified := (instanceId_of_ofRequest h).symm ▸ hid

namespace ServerRecord

variable {r : ServerRequest} {e : Entitlements} {id : String} {w : WorldDetails}

theorem aligned_first (h : WorldDetails.ofRequest r e id = .ok w) (t : TenantId) (ip : String)
    (now : Int64) : (ServerRecord.first t e w ip now).Aligned where
  port := rfl
  cpu := (WorldDetails.within_of_ofRequest h).1
  memory := (WorldDetails.within_of_ofRequest h).2

theorem aligned_patched (h : WorldDetails.ofRequest r e id = .ok w) (old : ServerRecord)
    (now : Int64) : (old.patched e w now).Aligned where
  port := rfl
  cpu := (WorldDetails.within_of_ofRequest h).1
  memory := (WorldDetails.within_of_ofRequest h).2

theorem Aligned.moved {old : ServerRecord} (h : old.Aligned) (state : ServerState) (now : Int64) :
    (old.moved state now).Aligned where
  port := h.port
  cpu := h.cpu
  memory := h.memory

end ServerRecord

namespace Holdings

def Aligned (s : Holdings) : Prop :=
  ∀ t r, s.records t = some r → r.Aligned

variable {c : Controller} {fault : ClusterError → Prop} {t : Tenant} {command : Command}
variable {result : Except Failure Answer} {s s' : Holdings}

theorem Aligned.change (h : s.Aligned) {t : TenantId} {r : Option ServerRecord}
    (hrecords : s'.records = setAt s.records t r) (hr : ∀ r', r = some r' → r'.Aligned) :
    s'.Aligned := by
  rw [Aligned, hrecords]
  exact forall_setAt h hr

theorem Aligned.of_records (h : s.Aligned) (hrecords : s'.records = s.records) : s'.Aligned := by
  rw [Aligned, hrecords]
  exact h

/-- A command writes down the port and the limits in both places or in neither. -/
theorem Aligned.outcome (h : s.Aligned) (ho : c.Outcome fault t s command result s') :
    s'.Aligned := by
  cases ho with
  | created free plan world cleared added =>
    obtain ⟨-, -, rfl⟩ := added
    refine h.change (congrArg (setAt · _ _) cleared.records) fun r hr => ?_
    rw [← Option.some.inj hr]
    exact ServerRecord.aligned_first world _ _ _
  | notCreated h' =>
    rcases h' with rfl | ⟨-, h'⟩
    · exact h
    · exact h.of_records h'.records
  | patched found plan world launched =>
    refine h.change rfl fun r hr => ?_
    rw [← Option.some.inj hr]
    exact ServerRecord.aligned_patched world _ _
  | notPatched => exact h
  | scaled found target launched =>
    refine h.change rfl fun r hr => ?_
    rw [← Option.some.inj hr]
    exact (h _ _ found).moved _ _
  | notScaled h' => rcases h' with rfl | ⟨_, _, _, _, rfl⟩ <;> exact h
  | deleted h' => exact h.change (congrArg (setAt · _ _) h'.records) fun r hr => by cases hr
  | notDeleted h' => exact h.of_records h'.records
  | inspected found => exact h
  | notInspected => exact h

end Holdings

/-- Whether the record of a tenant has been removed. -/
def Deed.removes (d : Deed) (t : TenantId) : Bool :=
  match d.command with
  | .delete => d.tenant.id = t && d.result.isOk
  | _ => false

/-- A record that is not removed keeps the time it was created. -/
theorem Controller.Outcome.createdAt {c : Controller} {fault : ClusterError → Prop} {t : Tenant}
    {command : Command} {result : Except Failure Answer} {s s' : Holdings}
    (ho : c.Outcome fault t s command result s') {t' : TenantId} {r : ServerRecord}
    (hr : s.records t' = some r) (hkept : (Deed.mk t command result).removes t' = false) :
    ∃ r', s'.records t' = some r' ∧ r'.server.createdAt = r.server.createdAt := by
  have rewritten : ∀ {s₁ : Holdings} {old new : ServerRecord}, s₁.records = s.records →
      s.records t.id = some old → new.server.createdAt = old.server.createdAt →
        ∃ r', (s₁.putRecord t.id (some new)).records t' = some r' ∧
          r'.server.createdAt = r.server.createdAt := by
    intro s₁ old new hrecords found hcreated
    by_cases ht : t' = t.id
    · subst ht
      obtain rfl := Option.some.inj (found.symm.trans hr)
      exact ⟨new, setAt_same _ _ _, hcreated⟩
    · exact ⟨r, (setAt_of_ne ht).trans ((congrFun hrecords t').trans hr), rfl⟩
  have unchanged : s'.records = s.records →
      ∃ r', s'.records t' = some r' ∧ r'.server.createdAt = r.server.createdAt := fun h =>
    ⟨r, (congrFun h t').trans hr, rfl⟩
  cases ho with
  | created free plan world cleared added =>
    obtain ⟨-, -, rfl⟩ := added
    have ht : t' ≠ t.id := by
      rintro rfl
      rw [hr] at free
      cases free
    exact ⟨r, (setAt_of_ne ht).trans ((congrFun cleared.records t').trans hr), rfl⟩
  | notCreated h' =>
    rcases h' with rfl | ⟨-, h'⟩
    · exact unchanged rfl
    · exact unchanged h'.records
  | patched found plan world launched => exact rewritten rfl found rfl
  | notPatched => exact unchanged rfl
  | scaled found target launched => exact rewritten rfl found rfl
  | notScaled h' =>
    rcases h' with rfl | ⟨_, _, _, _, rfl⟩ <;> exact unchanged rfl
  | deleted h' =>
    have ht : t' ≠ t.id := by
      rintro rfl
      simp [Deed.removes, Except.isOk, Except.toBool] at hkept
    exact ⟨r, (setAt_of_ne ht).trans ((congrFun h'.records t').trans hr), rfl⟩
  | notDeleted h' => exact unchanged h'.records
  | inspected found => exact unchanged rfl
  | notInspected => exact unchanged rfl

namespace Estate

/-- Nothing has been stored yet, and what deployments there are go by their own names. -/
structure Fresh (s : Estate) : Prop where
  store : s.store.IsEmpty
  deployments : ∀ name d, s.cluster.deployments name = some d → d.metadata.nameOrEmpty = name

/-- What commands keep up of an estate. -/
structure WellKept (s : Estate) : Prop where
  keeps : s.store.Keeps
  worlds : ∀ t r, s.store.records t = some r → r.world.Complete
  keyed : s.holdings.Keyed
  agrees : s.holdings.Agrees
  aligned : s.holdings.Aligned

variable {s s' : Estate}

theorem Fresh.wellKept (h : s.Fresh) : s.WellKept := by
  have hnone : ∀ t r, s.store.records t ≠ some r := by
    intro t r hr
    rw [h.store.records_eq] at hr
    cases hr
  exact {
    keeps := h.store.keeps
    worlds := fun t r hr => absurd hr (hnone t r)
    keyed := ⟨h.deployments, fun t r hr => absurd hr (hnone t r)⟩
    agrees := ⟨fun t r hr => absurd hr (hnone t r), fun t r d hr => absurd hr (hnone t r)⟩
    aligned := fun t r hr => absurd hr (hnone t r) }

theorem WellKept.of_runs {c : Controller} {t : Tenant} {command : Command}
    {xs : List (Exchange Estate)} {result : Except Failure Answer} (h : s.WellKept)
    (run : (command.program c t).Runs (habit (fun _ => True) (· ≠ "")) s xs result s') :
    s'.WellKept ∧ c.Outcome (fun _ => True) t s.holdings command result s'.holdings := by
  obtain ⟨hrun, hkeeps⟩ := runs_holdings h.keeps run
  have houtcome := (Controller.outcome_of_runs h.keyed hrun).2
  have hwrites := Controller.writes_of_runs
    (fun hid hw => WorldDetails.complete_of_ofRequest hid.1 hw) run
  exact ⟨{
    keeps := hkeeps
    worlds := Holdings.worlds_of_runs hrun (List.forall_mem_map.2 hwrites) h.worlds
    keyed := (hrun.invariant Holdings.keyed_habit h.keyed).2
    agrees := h.agrees.outcome houtcome
    aligned := h.aligned.outcome houtcome }, houtcome⟩

theorem WellKept.record_wellFormed (h : s.WellKept) {t : TenantId} {r : ServerRecord}
    (hr : s.store.records t = some r) : r.WellFormed t := by
  have hworld := h.worlds t r hr
  have hnamed := h.agrees.named t r hr
  have haligned := h.aligned t r hr
  exact {
    toAligned := haligned
    tenant := h.keyed.records t r hr
    claimName := congrFun hnamed .claim
    deploymentName := congrFun hnamed .deployment
    ports := haligned.port ▸ hworld.port
    trimmed := hworld.trimmed
    named := hworld.named
    unquoted := hworld.unquoted
    keys := hworld.keys
    canonical := hworld.isCanonical
    identified := hworld.identified }

/-- Surroundings in which some calls to the cluster fail and all else goes well. -/
def outside (fails : ClusterOp → Bool) (time : Int64) : Outside Estate where
  answer
    | .cluster c, s =>
      if fails c.op then
        (.error (.api c.kind c.target (some 500) "injected failure"),
          { s with cluster := s.cluster.record c })
      else
        (((s.cluster.record c).perform c).1,
          { s with cluster := ((s.cluster.record c).perform c).2 })
    | .address, s => (.ok "203.0.113.7", s)
    | .store c, s => ((s.store.answer c).1, { s with store := (s.store.answer c).2 })
    | .now, s => (time, s)
    | .freshId, s => ("5ead", s)
    | .pause _, s => ((), s)

theorem habit_outside (fails : ClusterOp → Bool) (time : Int64) (r : Request) (s : Estate) :
    habit (fun _ => True) (· ≠ "") r s ((outside fails time).answer r s).1
      ((outside fails time).answer r s).2 := by
  cases r with
  | cluster c =>
    by_cases h : fails c.op = true
    · simp only [outside, h, ↓reduceIte]
      exact ⟨rfl, .inr ⟨_, trivial, rfl, rfl⟩⟩
    · simp only [outside, h, Bool.false_eq_true, ↓reduceIte]
      exact ⟨rfl, .inl ⟨rfl, rfl⟩⟩
  | store c => exact ⟨rfl, rfl, rfl⟩
  | freshId => exact ⟨(by decide : "5ead" ≠ ""), rfl⟩
  | address | now | pause => rfl

end Estate

namespace Controller

variable {c : Controller} {ds : List Deed} {s₀ s s' : Estate}

theorem Conducts.wellKept (h : c.Conducts s ds s') (hs : s.WellKept) : s'.WellKept := by
  induction h with
  | start => exact hs
  | next t command _ run ih => exact (ih.of_runs run).1

theorem Conducts.createdAt (h : c.Conducts s ds s') (hs : s.WellKept) {t : TenantId}
    {r : ServerRecord} (hr : s.store.records t = some r) (hkept : ∀ d ∈ ds, d.removes t = false) :
    ∃ r', s'.store.records t = some r' ∧ r'.server.createdAt = r.server.createdAt := by
  induction h with
  | start => exact ⟨r, hr, rfl⟩
  | next t' command h run ih =>
    obtain ⟨hds, hd⟩ := List.forall_mem_append.1 hkept
    obtain ⟨r₁, hr₁, hcreated₁⟩ := ih hds
    have houtcome := ((h.wellKept hs).of_runs run).2
    obtain ⟨r₂, hr₂, hcreated₂⟩ := houtcome.createdAt hr₁ (hd _ (List.mem_singleton_self _))
    exact ⟨r₂, hr₂, hcreated₂.trans hcreated₁⟩

/-- Whatever is looked up after any commands can be read, and if it is a record, it is well formed
and will be found with the time it was created until it is removed. -/
theorem Conducts.wellFormed (h₀ : s₀.Fresh) (h : c.Conducts s₀ ds s) (t : TenantId) :
    ∃ found, s.store.find t = .ok found ∧ ∀ r, found = some r → r.WellFormed t ∧
      ∀ ds' s', c.Conducts s ds' s' → (∀ d ∈ ds', d.removes t = false) →
        ∃ r', s'.store.find t = .ok (some r') ∧ r'.server.createdAt = r.server.createdAt := by
  have hs := h.wellKept h₀.wellKept
  refine ⟨_, hs.keeps.find_eq t, fun r hr => ⟨hs.record_wellFormed hr, ?_⟩⟩
  intro ds' s' h' hkept
  obtain ⟨r', hr', hcreated⟩ := h'.createdAt hs hr hkept
  refine ⟨r', ?_, hcreated⟩
  rw [(h'.wellKept hs).keeps.find_eq, hr']

theorem Conducts.next_outside (h : c.Conducts s ds s') (fails : ClusterOp → Bool) (time : Int64)
    (t : Tenant) (command : Command) :
    c.Conducts s (ds ++ [⟨t, command, ((command.program c t).run (Estate.outside fails time) s').1⟩])
      ((command.program c t).run (Estate.outside fails time) s').2 :=
  h.next t command (Program.runs_run _ (Estate.habit_outside fails time) _ _)

/-- A server is created and patched and its removal fails, all over tables: the record is still
there. -/
theorem Conducts.wellFormed_of_failed_delete :
    ∃ s₀ ds s ds' s' r r', Estate.Fresh s₀ ∧ sample.Conducts s₀ ds s ∧ sample.Conducts s ds' s' ∧
      ds.map (·.result.isOk) = [true] ∧ ds'.map (·.result.isOk) = [true, false] ∧
      s.store.find default = .ok (some r) ∧ r.WellFormed default ∧
      s'.store.find default = .ok (some r') ∧ r'.server.createdAt = r.server.createdAt := by
  let t : Tenant := ⟨default, "premium"⟩
  let s₀ : Estate := ⟨.empty "longhall", .tables .empty⟩
  let s := ((Command.program sample t (.create .sample)).run (Estate.outside (fun _ => false) 7) s₀).2
  have fresh : s₀.Fresh := ⟨.tables, fun _ _ h => by cases h⟩
  have created : sample.Conducts s₀ _ s :=
    Conducts.start.next_outside (fun _ => false) 7 t (.create .sample)
  have patched : sample.Conducts s _ _ :=
    Conducts.start.next_outside (fun _ => false) 8 t (.patch .sample)
  have removed := patched.next_outside (· == .deleteClaim) 9 t .delete
  obtain ⟨found, hfound, hall⟩ := created.wellFormed fresh t.id
  have hread : (s.store.find t.id).toOption.join.isSome = true := by decide +kernel
  rw [hfound] at hread
  obtain ⟨r, rfl⟩ := Option.isSome_iff_exists.1 hread
  obtain ⟨hwell, hkept⟩ := hall r rfl
  obtain ⟨r', hr', hcreated⟩ := hkept _ _ removed (by decide +kernel)
  exact ⟨_, _, _, _, _, r, r', fresh, created, removed, by decide +kernel, by decide +kernel, hfound,
    hwell, hr', hcreated⟩

end Controller

end Steading
