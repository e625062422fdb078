import Steading.Proofs.Agreement
import Steading.Proofs.Rejection

/-!
# Scaling as a machine of two states

A server runs with one replica or is terminated with none, and scaling goes from either to the
other. `Controller.Serves.scales_exactly` says when it does: if there is a record and the move is
one of the two, if the deployment is there with a game container, and if the cluster refuses none
of the calls. Where it does not, the most that has happened is that the arguments of the game were
set anew.
-/

namespace Steading

/-- Down to no replica, and up to one. -/
inductive ServerState.Moves : ServerState → Int32 → ServerState → Prop
  | down : Moves .running 0 .terminated
  | up : Moves .terminated 1 .running

theorem ServerState.moves_iff {state state' : ServerState} {n : Int32} :
    state.Moves n state' ↔ state.scaleTarget n = some state' := by
  constructor
  · rintro (_ | _) <;> rfl
  · intro h
    cases state <;> rw [scaleTarget] at h <;> split_ifs at h with hn <;> cases h <;> rw [hn]
    · exact .down
    · exact .up

namespace Holdings

/-- A tenant's server is on record in a state that can be left so, and its deployment has a game
container. -/
structure Scalable (s : Holdings) (t : TenantId) (n : Int32) : Prop where
  record : ∃ old state, s.records t = some old ∧ old.server.state.Moves n state
  deployment : ∃ d, s.deployments t.deploymentName = some d ∧ d.game?.isSome = true

/-- A scaling that has succeeded, by its answer and by what is held then. -/
inductive Scaled (s : Holdings) (t : TenantId) (n : Int32) : Answer → Holdings → Prop
  | intro {old : ServerRecord} {state : ServerState} {now : Int64} {d d' : Deployment}
      (found : s.records t = some old) (moves : old.server.state.Moves n state)
      (there : s.deployments t.deploymentName = some d)
      (reargued : d.Reargued [old.world.launchArgs] d')
      (replicas : (d'.scaled n).spec.bind (·.replicas) = some n)
      (args : (d'.scaled n).gameArgs? = some [old.world.launchArgs]) :
      s.Scaled t n (.server (old.moved state now).view)
        ((s.putDeployment t.deploymentName (some (d'.scaled n))).putRecord t
          (some (old.moved state now)))

/-- What may be held when a scaling has failed. -/
inductive Unscaled (s : Holdings) (t : TenantId) : Holdings → Prop
  | untouched : s.Unscaled t s
  | relaunched {d d' : Deployment} {args : List String}
      (there : s.deployments t.deploymentName = some d) (reargued : d.Reargued args d')
      (replicas : d'.spec.bind (·.replicas) = d.spec.bind (·.replicas)) :
      s.Unscaled t (s.putDeployment t.deploymentName (some d'))

end Holdings

section

variable {t : TenantId} {r : ScaleRequest}

theorem needsAll_scaleServer {σ : Type} {may : Habit σ} : (scaleServer t r).NeedsAll may := by
  rw [scaleServer]
  refine .bind (Operation.needsAll_of_lookups (asks_requireServer rfl)) fun old => ?_
  cases old.server.state.scaleTarget r.replicas with
  | none => exact Operation.needsAll_of_lookups (Program.asks_pure _)
  | some state =>
    refine .bind (needsAll_launchWorld _ _) fun _ => ?_
    refine .bind (Operation.needsAll_call _) fun _ => ?_
    refine .bind Operation.needsAll_now fun now => ?_
    refine .bind (Operation.needsAll_store _) fun _ => ?_
    exact Operation.needsAll_of_lookups (Program.asks_pure _)

variable {fault : ClusterError → Prop} {s s' : Holdings} {es : List (Exchange Holdings)}

/-- Where scaling is possible it only fails if the cluster refuses a call. -/
theorem refused_of_failed_scale (hs : s.Keyed) {old : ServerRecord} {state : ServerState}
    {d : Deployment} (found : s.records t = some old)
    (target : old.server.state.scaleTarget r.replicas = some state)
    (launched : s.Relaunched old.server.deploymentName old.world.launchArgs d) {f : Failure}
    (run : (scaleServer t r).run.Runs (Holdings.habit fault) s es (.error f) s') :
    ∃ x ∈ es, x.refusal? ≠ none := by
  rw [scaleServer] at run
  rcases (Operation.runs_bind.1 run).symm with
    ⟨f', hrecord, -⟩ | ⟨_, old', s₁, _, hrecord, run₁, rfl⟩
  · obtain ⟨-, hold, -⟩ := Holdings.runs_requireServer hrecord
    rw [found] at hold
    cases hold
  obtain ⟨-, hold, rfl⟩ := Holdings.runs_requireServer hrecord
  rw [found] at hold
  cases hold
  rw [target] at run₁
  rcases (Operation.runs_bind.1 run₁).symm with ⟨f', hlaunch, -⟩ | ⟨_, _, s₂, _, hlaunch, run₂, rfl⟩
  · rcases Holdings.runs_launchWorld hs hlaunch with
      ⟨_, hok, -⟩ | ⟨_, -, -, -, ⟨x, hx, hrefused⟩ | hnone⟩
    · cases hok
    · exact ⟨x, List.mem_append_right _ hx, hrefused⟩
    · exact absurd launched (hnone d)
  obtain ⟨d', -, -, rfl⟩ | ⟨_, hf, -⟩ := Holdings.runs_launchWorld hs hlaunch
  · rcases (Operation.runs_bind.1 run₂).symm with ⟨f', hscale, -⟩ | ⟨_, _, s₃, _, hscale, run₃, rfl⟩
    · obtain ⟨reply, rfl, -, hreply⟩ := Operation.runs_call.1 hscale
      cases reply with
      | ok => cases hreply
      | error e =>
        exact ⟨_, List.mem_append_right _ (List.mem_append_right _ (List.mem_singleton_self _)),
          Option.some_ne_none e⟩
    · obtain ⟨reply, -, hmoved, hreply⟩ := Operation.runs_call.1 hscale
      cases reply with
      | error e => cases hreply
      | ok =>
        obtain ⟨_, -, rfl⟩ := hmoved
        -- Only the record is left to be written, and that cannot fail.
        obtain ⟨_, hf, -⟩ := Holdings.runs_rewrite (fun now => old.moved state now) run₃ found
          (fun _ => hs.records t old found) (fun _ => rfl) (fun _ => rfl)
        cases hf
  · cases hf

end

theorem Exchange.refusal?_map {σ τ : Type} (φ : σ → τ) (x : Exchange σ) :
    (x.map φ).refusal? = x.refusal? := by
  obtain ⟨s, r, reply⟩ := x
  cases r with
  | cluster | address => cases reply <;> rfl
  | _ => rfl

namespace Controller

variable {c : Controller} {fault : ClusterError → Prop} {ns : String} {events : List Event}
variable {s s' : Site} {t : Tenant} {r : ScaleRequest} {xs : List (Exchange Site)}

theorem scaled_of_outcome {a : Answer} {s s' : Holdings} (hs : s.Agrees)
    (h : c.Outcome fault t s (.scale r) (.ok a) s') :
    s.Scalable t.id r.replicas ∧ s.Scaled t.id r.replicas a s' := by
  cases h with
  | @scaled _ old state _ d' found target launched =>
    obtain ⟨d, there, hset⟩ := launched
    rw [hs.deploymentName_eq found] at there ⊢
    have moves := ServerState.moves_iff.2 target
    have hgame : d.game?.isSome = true := by
      rw [← d.isSome_setGameArgs? old.world.launchArgs, hset]
      rfl
    have hscaled : (d.scaled r.replicas).setGameArgs? old.world.launchArgs =
        some (d'.scaled r.replicas) := by
      rw [Deployment.setGameArgs?_scaled, hset, Option.map_some]
    exact ⟨⟨⟨old, state, found, moves⟩, d, there, hgame⟩,
      .intro found moves there (Deployment.reargued_of_setGameArgs? hset) rfl
        (Deployment.gameArgs?_of_setGameArgs? hscaled)⟩

theorem unscaled_of_outcome {f : Failure} {s s' : Holdings} (hs : s.Agrees)
    (h : c.Outcome fault t s (.scale r) (.error f) s') : s.Unscaled t.id s' := by
  cases h with
  | notScaled h =>
    obtain rfl | ⟨old, d', found, ⟨d, there, hset⟩, rfl⟩ := h
    · exact .untouched
    · rw [hs.deploymentName_eq found] at there ⊢
      exact .relaunched there (Deployment.reargued_of_setGameArgs? hset)
        (Deployment.replicas_of_setGameArgs? hset)

/-- Where scaling is possible it succeeds, unless the cluster refuses a call. -/
theorem scaled_of_scalable {s s' : Holdings} (hkeyed : s.Keyed) (hs : s.Agrees)
    (h : s.Scalable t.id r.replicas) {es : List (Exchange Holdings)}
    {result : Except Failure Answer}
    (run : ((Command.scale r).program c t).Runs (Holdings.habit fault) s es result s')
    (accepted : ∀ x ∈ es, x.refusal? = none) : result.isOk = true := by
  obtain ⟨⟨old, state, found, moves⟩, d, there, hgame⟩ := h
  obtain ⟨view, hscale, rfl⟩ := Operation.runs_map.1 run
  cases view with
  | ok v => rfl
  | error f =>
    rw [← d.isSome_setGameArgs? old.world.launchArgs] at hgame
    obtain ⟨d', hset⟩ := Option.isSome_iff_exists.1 hgame
    rw [← hs.deploymentName_eq found] at there
    obtain ⟨x, hx, hrefused⟩ := refused_of_failed_scale hkeyed found
      (ServerState.moves_iff.1 moves) ⟨d, there, hset⟩ hscale
    exact absurd (accepted x hx) hrefused

/-- However a site has come about, a scaling succeeds exactly if it is one of the two moves of a
server whose deployment can be launched and the cluster refuses nothing. A success is told, and a
failure leaves the record, the claim and the replicas alone. -/
theorem Serves.scales_exactly (h : c.Serves fault (.empty ns) events s)
    {result : Except Failure Answer}
    (run : ((Command.scale r).program c t).Runs (Site.habit fault) s xs result s') :
    (result.isOk = true ↔
        s.holdings.Scalable t.id r.replicas ∧ ∀ x ∈ xs, x.refusal? = none) ∧
      (∀ a, result = .ok a → s.holdings.Scaled t.id r.replicas a s'.holdings) ∧
      ∀ f, result = .error f → s.holdings.Unscaled t.id s'.holdings := by
  obtain ⟨-, -, houtcome⟩ := outcome_of_runs_site h.keyed run
  refine ⟨⟨fun hok => ?_, fun ⟨hscalable, accepted⟩ => ?_⟩, ?_, ?_⟩
  · cases result with
    | error f => cases hok
    | ok a =>
      obtain ⟨view, hscale, hview⟩ := Operation.runs_map.1 run
      cases view with
      | error f => cases hview
      | ok v =>
        exact ⟨(scaled_of_outcome h.agrees houtcome).1, needsAll_scaleServer _ _ _ _ hscale⟩
  · refine scaled_of_scalable h.keyed h.agrees hscalable (Site.runs_holdings run) ?_
    refine List.forall_mem_map.2 fun x hx => ?_
    rw [Exchange.refusal?_map]
    exact accepted x hx
  · rintro a rfl
    exact (scaled_of_outcome h.agrees houtcome).2
  · rintro f rfl
    exact unscaled_of_outcome h.agrees houtcome

/-- A server that has been created can be scaled down. -/
theorem Serves.scales_exactly_of_founded :
    ∃ xs result s', ((Command.scale ⟨0⟩).program sample sampleTenant).Runs
        (Site.habit fun e => e.isNotFound = false) founded xs result s' ∧
      result.isOk = true ∧ founded.holdings.Scalable default 0 ∧
        ∀ x ∈ xs, x.refusal? = none := by
  obtain ⟨events, h⟩ := exists_serves_founded
  let p := (Command.scale ⟨0⟩).program sample sampleTenant
  have run := runs_sampleOutside p founded
  have hok : (p.run sampleOutside founded).1.isOk = true := by decide +kernel
  exact ⟨_, _, _, run, hok, (h.scales_exactly run).1.1 hok⟩

end Controller

end Steading
