import Steading.Proofs.Site

/-!
# What is left of a removed server

A deletion takes an object as deleted when the cluster has accepted that it goes. Of a deployment
that is true; a claim with finalizers is kept until they are cleared, and nobody clears them then.
So when a deletion removes the record, and when it succeeds, the deployment is gone, and the claim
is gone exactly if it had no finalizers (`Controller.removed_of_delete`).
-/

namespace Steading

namespace Holdings

/-- A tenant's deployment is gone, and the claim is unless it had finalizers; then it waits to
go. -/
structure Removed (t : TenantId) (s s' : Holdings) : Prop where
  deployment : s'.deployments (s.objectName t .deployment) = none
  claim_iff : s'.claims (s.objectName t .claim) = none ↔
    ∀ c, s.claims (s.objectName t .claim) = some c → c.hasFinalizers = false
  waiting : ∀ c, s.claims (s.objectName t .claim) = some c → c.hasFinalizers = true →
    s'.claims (s.objectName t .claim) = some c ∧ s'.terminating (s.objectName t .claim) = true

variable {s s' : Holdings} {t : TenantId}

theorem removed_foldl_drop (s : Holdings) (ns : String) (t : TenantId) :
    s.Removed t ((s.toDelete ns t).foldl drop s) := by
  have hfold : (s.toDelete ns t).foldl drop s =
      if (s.claims (s.objectName t .claim)).any Claim.hasFinalizers then
        (s.putDeployment (s.objectName t .deployment) none).setTerminating
          (s.objectName t .claim) true
      else (s.putDeployment (s.objectName t .deployment) none).putClaim
        (s.objectName t .claim) none := rfl
  rw [hfold]
  split_ifs with hfinalizers
  · obtain ⟨c, hc, hcf⟩ := (Option.any_eq_true _ _).1 hfinalizers
    refine ⟨setAt_same _ _ _, ⟨fun hnone => ?_, fun hnone => ?_⟩, fun c' hc' _ => ?_⟩
    · exact absurd (hc.symm.trans hnone) (by simp)
    · exact absurd (hnone c hc) (by simp [hcf])
    · exact ⟨hc', setAt_same _ _ _⟩
  · rw [Bool.not_eq_true, Option.any_eq_false] at hfinalizers
    refine ⟨setAt_same _ _ _, ⟨fun _ => hfinalizers, fun _ => setAt_same _ _ _⟩,
      fun c hc hcf => ?_⟩
    rw [hfinalizers c hc] at hcf
    cases hcf

theorem Removed.putRecord (h : s.Removed t s') (r : Option ServerRecord) :
    s.Removed t (s'.putRecord t r) :=
  ⟨h.deployment, h.claim_iff, h.waiting⟩

end Holdings

namespace Controller

variable {c : Controller} {fault : ClusterError → Prop} {t : Tenant}

theorem removed_of_delete (hfault : ∀ e, fault e → e.isNotFound = false) {s s' : Site}
    {xs : List (Exchange Site)} {result : Except Failure Answer}
    (run : (Command.delete.program c t).Runs (Site.habit fault) s xs result s') :
    (∀ x ∈ xs, x.request = .store (.delete t.id) → s.holdings.Removed t.id x.state.holdings) ∧
      ∀ a, result = .ok a → s.holdings.Removed t.id s'.holdings := by
  have hnotFound : ∀ e, ¬ (fault e ∧ e.isNotFound = true) := by
    rintro e ⟨he, hn⟩
    rw [hfault e he] at hn
    cases hn
  have hdropped : ∀ {s₁ : Holdings}, s.holdings.Drops (fun e => fault e ∧ e.isNotFound = true)
      (s.holdings.toDelete c.manifests.ns t.id) s₁ → s.holdings.Removed t.id s₁ := by
    intro s₁ h
    rw [h.eq_foldl hnotFound]
    exact s.holdings.removed_foldl_drop _ _
  obtain ⟨horderly, houtcome⟩ := outcome_of_delete (Site.runs_holdings run)
  refine ⟨fun x hx hrequest => hdropped ((List.forall_mem_map.1 horderly x hx).2 hrequest),
    fun a ha => ?_⟩
  subst ha
  generalize s'.holdings = held at houtcome ⊢
  cases houtcome with
  | deleted h => exact (hdropped h).putRecord none

/-- A server has been created, and its claim is under protection. -/
def guarded : Site :=
  let s := (Event.ofOutside (Site.outside (fun _ => false) "203.0.113.7" 0 "5ead") sample
    ⟨default, "premium"⟩ (.create .sample) (.empty "longhall")).after
  let name := TenantId.claimName default
  let finalizers := ["kubernetes.io/pvc-protection"]
  { s with cluster :=
      s.cluster.insertClaim { metadata := { name := some name, finalizers := some finalizers } } }

theorem exists_run_delete_guarded :
    ∃ xs a s', (Command.delete.program sample ⟨default, "premium"⟩).Runs
        (Site.habit fun e => e.isNotFound = false) guarded xs (.ok a) s' ∧
      (s'.cluster.claims (guarded.holdings.objectName default .claim)).isSome = true := by
  let p := Command.delete.program sample ⟨default, "premium"⟩
  let o := Site.outside (fun _ => false) "203.0.113.7" 0 "5ead"
  have run : p.Runs (Site.habit fun e => e.isNotFound = false) guarded _ _ _ :=
    p.runs_run o (Site.habit_outside (fun _ _ => rfl) _ _ _ _) guarded
  have hclaim : ((p.run o guarded).2.cluster.claims
      (guarded.holdings.objectName default .claim)).isSome = true := by decide +kernel
  have hok : (p.run o guarded).1.isOk = true := by decide +kernel
  rcases hresult : (p.run o guarded).1 with f | a
  · rw [hresult] at hok
    cases hok
  · rw [hresult] at run
    exact ⟨_, a, _, run, hclaim⟩

/-- The guarded server is deleted, and its claim waits to go. -/
theorem removed_of_delete_of_guarded :
    ∃ xs a s', (Command.delete.program sample ⟨default, "premium"⟩).Runs
        (Site.habit fun e => e.isNotFound = false) guarded xs (.ok a) s' ∧
      guarded.holdings.Removed default s'.holdings := by
  obtain ⟨xs, a, s', run, -⟩ := exists_run_delete_guarded
  exact ⟨xs, a, s', run, (removed_of_delete (fun _ he => he) run).2 a rfl⟩

/-- The claim of the guarded server outlives the server's record. -/
theorem exists_claim_after_delete :
    ¬ ∀ (c : Controller) (fault : ClusterError → Prop) (t : Tenant) (s s' : Site)
      (xs : List (Exchange Site)) (a : Answer), (∀ e, fault e → e.isNotFound = false) →
        (Command.delete.program c t).Runs (Site.habit fault) s xs (.ok a) s' →
          s'.cluster.deployments (s.holdings.objectName t.id .deployment) = none ∧
            s'.cluster.claims (s.holdings.objectName t.id .claim) = none := by
  intro h
  obtain ⟨xs, a, s', run, hclaim⟩ := exists_run_delete_guarded
  rw [(h _ _ _ _ _ _ _ (fun _ he => he) run).2] at hclaim
  cases hclaim

end Controller

end Steading
