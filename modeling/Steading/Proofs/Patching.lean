import Steading.Proofs.Agreement
import Steading.Proofs.Stages

/-!
# Patching at once

A patch writes three times, the deployment and the two halves of the record. All that can fail
comes before the first of the three has gone through (`Controller.patch_of_runs`), so a patch
leaves either everything as it was or everything that it names changed, and nothing else
(`Controller.Serves.patches_at_once`).
-/

namespace Steading

/-- The id that was drawn, if one was. -/
def Exchange.freshId? {σ : Type} : Exchange σ → Option String
  | ⟨_, .freshId, id⟩ => some id
  | _ => none

theorem Exchange.freshId?_map {σ τ : Type} (φ : σ → τ) (x : Exchange σ) :
    (x.map φ).freshId? = x.freshId? := by
  obtain ⟨s, r, reply⟩ := x
  cases r <;> rfl

/-- A patch that has succeeded, by its answer and by what is held then. -/
inductive Holdings.Patched (s : Holdings) (t : TenantId) (r : ServerRequest) (e : Entitlements)
    (id : String) : Answer → Holdings → Prop
  | intro {old : ServerRecord} {w : WorldDetails} {now : Int64} {d d' : Deployment}
      (found : s.records t = some old) (world : WorldDetails.ofRequest r e id = .ok w)
      (there : s.deployments t.deploymentName = some d) (reargued : d.Reargued [w.launchArgs] d')
      (args : d'.gameArgs? = some [w.launchArgs])
      (replicas : d'.spec.bind (·.replicas) = d.spec.bind (·.replicas)) :
      s.Patched t r e id (.server (old.patched e w now).view)
        ((s.putDeployment t.deploymentName (some d')).putRecord t (some (old.patched e w now)))

theorem Failure.ofValidation_ne_persistence (e : ValidationError) (text : String) :
    ofValidation e ≠ persistence text := by
  simp [ofValidation]

namespace Operation

/-- An operation that goes on after another has broken off cleanly before it, or has got that
far. -/
theorem bind_cases {σ α β : Type} {may : Habit σ} {s s' : σ} {es : List (Exchange σ)}
    {x : Operation α} {g : α → Operation β} {result : Except Failure β}
    (run : (x >>= g).run.Runs may s es result s') {clean : Failure → σ → Prop}
    {ok : List (Exchange σ) → α → σ → Prop}
    (hx : ∀ {es result s'}, x.run.Runs may s es result s' →
      (∃ f, result = .error f ∧ clean f s') ∨ ∃ a, result = .ok a ∧ ok es a s') :
    (∃ f, result = .error f ∧ clean f s') ∨
      ∃ lead a s₁ rest, ok lead a s₁ ∧ (g a).run.Runs may s₁ rest result s' ∧
        es = lead ++ rest := by
  rcases runs_bind.1 run with ⟨lead, a, s₁, rest, hlead, hrest, rfl⟩ | ⟨f, hfail, rfl⟩
  · obtain ⟨f, hf, -⟩ | ⟨a', ha, hok⟩ := hx hlead
    · cases hf
    · cases ha
      exact .inr ⟨lead, a, s₁, rest, hok, hrest, rfl⟩
  · obtain ⟨f', hf, hclean⟩ | ⟨a, ha, -⟩ := hx hfail
    · cases hf
      exact .inl ⟨f, rfl, hclean⟩
    · cases ha

end Operation

namespace Holdings

variable {fault : ClusterError → Prop} {s s' : Holdings} {es : List (Exchange Holdings)}

/-- Nothing has happened, and it is not the store that failed. -/
def Spared (s : Holdings) (f : Failure) (s' : Holdings) : Prop :=
  s' = s ∧ ∀ text, f ≠ .persistence text

theorem checked_of_runs {α : Type} {x : Except ValidationError α} {result : Except Failure α}
    (run : (Operation.check x).run.Runs (habit fault) s es result s') :
    (∃ f, result = .error f ∧ s.Spared f s') ∨ ∃ a, result = .ok a ∧ s' = s := by
  obtain ⟨-, rfl, rfl⟩ := Operation.runs_check.1 run
  cases x with
  | error e => exact .inl ⟨_, rfl, rfl, Failure.ofValidation_ne_persistence e⟩
  | ok a => exact .inr ⟨a, rfl, rfl⟩

theorem known_of_runs {t : TenantId} {result : Except Failure ServerRecord}
    (run : (requireServer t).run.Runs (habit fault) s es result s') :
    (∃ f, result = .error f ∧ s.Spared f s') ∨
      ∃ old, result = .ok old ∧ s.records t = some old ∧ s' = s := by
  obtain ⟨-, rfl, rfl⟩ := runs_requireServer run
  cases s'.records t with
  | none => exact .inl ⟨_, rfl, rfl, by simp⟩
  | some old => exact .inr ⟨old, rfl, rfl, rfl⟩

theorem launched_of_runs (hs : s.Keyed) {name : String} {w : WorldDetails}
    {result : Except Failure Unit}
    (run : (launchWorld name w).run.Runs (habit fault) s es result s') :
    (∃ f, result = .error f ∧ s.Spared f s') ∨ ∃ u, result = .ok u ∧
      ∃ d, s.Relaunched name w.launchArgs d ∧ s' = s.putDeployment name (some d) := by
  obtain ⟨d, rfl, launched, rfl⟩ | ⟨f, rfl, hf, rfl, -⟩ := runs_launchWorld hs run
  · exact .inr ⟨(), rfl, d, launched, rfl⟩
  · exact .inl ⟨f, rfl, rfl, hf⟩

/-- Where the record is the one that was read, both halves of it are written and nothing can go
wrong any more. -/
theorem runs_rewriteWorld {t : TenantId} {old : ServerRecord} {w : WorldDetails} {f : Failure}
    (r : Int64 → ServerRecord) {result : Except Failure ServerView}
    (run : (do
      let found ← .store (.updateWorld t old.world.world old.world.name w)
      if !found then throw f
      let now ← .now
      .store (.update (r now).server)
      return (r now).view : Operation ServerView).run.Runs (habit fault) s es result s')
    (hold : s.records t = some old) (ht : ∀ now, (r now).server.tenant = t)
    (hworld : ∀ now, (r now).world = w)
    (hcreated : ∀ now, (r now).server.createdAt = old.server.createdAt) :
    ∃ now, result = .ok (r now).view ∧ s' = s.putRecord t (some (r now)) := by
  have hanswer := Records.answer_updateWorld hold w
  rcases Operation.runs_bind.1 run with ⟨_, there, s₁, es₁, hstore, hrest, rfl⟩ | ⟨f', hstore, -⟩
  · obtain ⟨-, hthere, rfl⟩ := runs_store hanswer hstore
    cases hthere
    obtain ⟨now, rfl, rfl⟩ := runs_rewrite (t := t) r hrest (setAt_same _ _ _) ht hworld hcreated
    exact ⟨now, rfl, putRecord_putRecord s t _ _⟩
  · obtain ⟨-, hf, -⟩ := runs_store hanswer hstore
    cases hf

end Holdings

namespace Controller

variable {c : Controller} {t : Tenant} {r : ServerRequest} {fault : ClusterError → Prop}

/-- A world is settled under the tenant's plan with the id that is drawn. -/
theorem settled_of_runs {s s' : Holdings} {es : List (Exchange Holdings)}
    {result : Except Failure (Entitlements × WorldDetails)}
    (run : (c.settleWorld t r).run.Runs (Holdings.habit fault) s es result s') :
    (∃ f, result = .error f ∧ s.Spared f s') ∨
      ∃ ew, result = .ok ew ∧ c.plans.find? t.subscription = some ew.1 ∧
        (∃ id, (∃ x ∈ es, x.freshId? = some id) ∧ WorldDetails.ofRequest r ew.1 id = .ok ew.2) ∧
        s' = s := by
  rcases runs_settleWorld run with ⟨f, hplan, -, rfl, rfl⟩ | ⟨e, id, hplan, rfl, rfl, rfl⟩
  · rw [PlanTable.entitlements] at hplan
    split at hplan <;> cases hplan
    exact .inl ⟨_, rfl, rfl, by simp⟩
  · have hplan : c.plans.find? t.subscription = some e := by
      rw [PlanTable.entitlements] at hplan
      split at hplan <;> cases hplan
      assumption
    cases hw : WorldDetails.ofRequest r e id with
    | error e => exact .inl ⟨_, rfl, rfl, Failure.ofValidation_ne_persistence e⟩
    | ok w => exact .inr ⟨(e, w), rfl, hplan, ⟨id, ⟨_, List.mem_singleton_self _, rfl⟩, hw⟩, rfl⟩

theorem patch_of_runs {s s' : Holdings} (hs : s.Keyed) {es : List (Exchange Holdings)}
    {result : Except Failure ServerView}
    (run : (c.patch t r).run.Runs (Holdings.habit fault) s es result s') :
    (∃ f, result = .error f ∧ s.Spared f s') ∨
      ∃ old e id w now d, s.records t.id = some old ∧
        c.plans.find? t.subscription = some e ∧ (∃ x ∈ es, x.freshId? = some id) ∧
        WorldDetails.ofRequest r e id = .ok w ∧
        s.Relaunched old.server.deploymentName w.launchArgs d ∧
        result = .ok (old.patched e w now).view ∧
        s' = (s.putDeployment old.server.deploymentName (some d)).putRecord t.id
          (some (old.patched e w now)) := by
  rw [patch] at run
  rcases Operation.bind_cases run Holdings.checked_of_runs with
    hfail | ⟨_, _, s₁, _, rfl, run₁, rfl⟩
  · exact .inl hfail
  rcases Operation.bind_cases run₁ Holdings.known_of_runs with
    hfail | ⟨_, old, s₂, _, ⟨found, rfl⟩, run₂, rfl⟩
  · exact .inl hfail
  rcases Operation.bind_cases run₂ settled_of_runs with
    hfail | ⟨_, ⟨e, w⟩, s₃, _, ⟨plan, ⟨id, ⟨x, hx, hid⟩, world⟩, rfl⟩, run₃, rfl⟩
  · exact .inl hfail
  rcases Operation.bind_cases run₃ (Holdings.launched_of_runs hs) with
    hfail | ⟨_, _, s₄, _, ⟨d, launched, rfl⟩, run₄, rfl⟩
  · exact .inl hfail
  obtain ⟨now, rfl, rfl⟩ := Holdings.runs_rewriteWorld (old.patched e w) run₄ found
    (fun _ => hs.records t.id old found) (fun _ => rfl) fun _ => rfl
  refine .inr ⟨old, e, id, w, now, d, found, plan, ⟨x, ?_, hid⟩, world, launched, rfl, rfl⟩
  exact List.mem_append_right _ (List.mem_append_right _ (List.mem_append_left _ hx))

variable {ns : String} {events : List Event} {s s' : Site} {xs : List (Exchange Site)}

/-- However a site has come about, a patch that fails has changed nothing, and one that succeeds
has launched the deployment into the world that is on record then. -/
theorem Serves.patches_at_once (h : c.Serves fault (.empty ns) events s)
    {result : Except Failure Answer}
    (run : ((Command.patch r).program c t).Runs (Site.habit fault) s xs result s') :
    (∀ f, result = .error f → s.holdings.Spared f s'.holdings) ∧
      ∀ a, result = .ok a → ∃ e id, c.plans.find? t.subscription = some e ∧
        (∃ x ∈ xs, x.freshId? = some id) ∧ s.holdings.Patched t.id r e id a s'.holdings := by
  obtain ⟨view, hpatch, rfl⟩ := Operation.runs_map.1 (Site.runs_holdings run)
  obtain ⟨f, rfl, hspared⟩ |
    ⟨old, e, id, w, now, d', found, plan, hid, world, ⟨d, there, hset⟩, rfl, hs'⟩ :=
      patch_of_runs h.keyed hpatch
  · refine ⟨fun f' hf => ?_, fun a ha => ?_⟩
    · cases hf
      exact hspared
    · cases ha
  · refine ⟨fun f' hf => (by cases hf), fun a ha => ?_⟩
    cases ha
    have hdrawn : ∃ x ∈ xs, x.freshId? = some id := by
      obtain ⟨x, hx, hx'⟩ := hid
      obtain ⟨y, hy, rfl⟩ := List.mem_map.1 hx
      exact ⟨y, hy, by rwa [Exchange.freshId?_map] at hx'⟩
    rw [h.agrees.deploymentName_eq found] at there hs'
    rw [hs']
    exact ⟨e, id, plan, hdrawn, .intro found world there (Deployment.reargued_of_setGameArgs? hset)
      (Deployment.gameArgs?_of_setGameArgs? hset) (Deployment.replicas_of_setGameArgs? hset)⟩

/-- The players of a server that has been created go to another world. -/
theorem Serves.patches_at_once_of_founded :
    let r := { ServerRequest.sample with world := "Niflheim" }
    ∃ xs a s' e id, ((Command.patch r).program sample sampleTenant).Runs
        (Site.habit fun e => e.isNotFound = false) founded xs (.ok a) s' ∧
      founded.holdings.Patched default r e id a s'.holdings := by
  intro r
  obtain ⟨events, h⟩ := exists_serves_founded
  let p := (Command.patch r).program sample sampleTenant
  have run := runs_sampleOutside p founded
  have hok : (p.run sampleOutside founded).1.isOk = true := by decide +kernel
  rcases hresult : (p.run sampleOutside founded).1 with f | a
  · rw [hresult] at hok
    cases hok
  · rw [hresult] at run
    obtain ⟨e, id, -, -, hpatched⟩ := (h.patches_at_once run).2 a rfl
    exact ⟨_, a, _, e, id, run, hpatched⟩

end Controller

end Steading
