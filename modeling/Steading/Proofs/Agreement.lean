import Steading.Proofs.Site

/-!
# Records and deployments agree

However commands follow each other and whatever fails on the way, a tenant's deployment is launched
into the world that is on record, with as many replicas as the recorded state has, and holds what
is on record as granted (`Controller.Serves.deployment_shows_record`).

A deployment without a record, as a creation or a removal that broke off may leave it, shows
nothing; but a record is only ever written for a deployment that has just been created or is
already shown (`Holdings.Agrees`).
-/

namespace Steading

theorem TenantId.deploymentName_injective : Function.Injective TenantId.deploymentName := by
  rintro ⟨text, _, _⟩ ⟨text', _, _⟩ h
  obtain rfl : text = text' := (String.append_right_inj _).1 h
  rfl

def ServerState.replicas : ServerState → Int32
  | .running => 1
  | .terminated => 0

theorem ServerState.replicas_of_scaleTarget {state state' : ServerState} {replicas : Int32}
    (h : state.scaleTarget replicas = some state') : state'.replicas = replicas := by
  cases state <;> rw [scaleTarget] at h <;> split_ifs at h with hr <;>
    rw [hr, ← Option.some.inj h, ServerState.replicas]

/-- The amounts granted, as a cluster has them written. -/
def Server.amounts (s : Server) : Texts :=
  [("cpu", toString s.cpu), ("memory", toString s.memory ++ "Gi")]

/-- The deployment is as the record says it was last changed. -/
structure Deployment.Shows (d : Deployment) (r : ServerRecord) : Prop where
  args : d.gameArgs? = some [r.world.launchArgs]
  replicas : d.spec.bind (·.replicas) = some r.server.state.replicas
  resources : d.game?.bind (·.resources) =
    some { requests := some r.server.amounts, limits := some r.server.amounts }

namespace Deployment.Shows

theorem first (m : ManifestConfig) (t : TenantId) (e : Entitlements) (w : WorldDetails)
    (ip : String) (now : Int64) : (tenantDeployment m t w).Shows (.first t e w ip now) where
  args := rfl
  replicas := rfl
  resources := rfl

theorem relaunched {d d' : Deployment} {r r' : ServerRecord} (h : d.Shows r)
    (hd : d.setGameArgs? r'.world.launchArgs = some d') (hstate : r'.server.state = r.server.state)
    (hamounts : r'.server.amounts = r.server.amounts) : d'.Shows r' := by
  obtain ⟨game, hgame, hgame'⟩ := game?_of_setGameArgs? hd
  have hresources := h.resources
  rw [hgame] at hresources
  refine ⟨gameArgs?_of_setGameArgs? hd, ?_, ?_⟩
  · rw [replicas_of_setGameArgs? hd, h.replicas, hstate]
  · rw [hgame', hamounts]
    exact hresources

theorem scaled {d : Deployment} {r : ServerRecord} (h : d.Shows r) (state : ServerState)
    (now : Int64) : (d.scaled state.replicas).Shows (r.moved state now) := by
  rcases hspec : d.spec with _ | spec
  · have hreplicas := h.replicas
    rw [hspec] at hreplicas
    cases hreplicas
  · have hgame : (d.scaled state.replicas).game? = d.game? := by
      rw [game?, game?, containers, containers, hspec]
      simp [Deployment.scaled, hspec]
    refine ⟨?_, ?_, ?_⟩
    · rw [gameArgs?, hgame]
      exact h.args
    · rfl
    · rw [hgame]
      exact h.resources

end Deployment.Shows

namespace Holdings

/-- Records have the names that their tenants' objects have, and every deployment of a tenant on
record is as the record says. -/
structure Agrees (s : Holdings) : Prop where
  named : ∀ t r, s.records t = some r → r.server.objectName = t.objectName
  shown : ∀ t r d, s.records t = some r → s.deployments t.deploymentName = some d → d.Shows r

theorem Agrees.empty : empty.Agrees where
  named _ _ h := by cases h
  shown _ _ _ h := by cases h

variable {s s' : Holdings}

theorem Agrees.objectName_eq (h : s.Agrees) (t : TenantId) : s.objectName t = t.objectName := by
  rcases ht : s.records t with _ | r
  · exact objectName_of_none ht
  · exact (objectName_of_record ht).trans (h.named t r ht)

theorem Agrees.deploymentName_eq (h : s.Agrees) {t : TenantId} {r : ServerRecord}
    (hr : s.records t = some r) : r.server.deploymentName = t.deploymentName :=
  congrFun (h.named t r hr) .deployment

theorem Agrees.sameBut_drops (h : s.Agrees) {fault : ClusterError → Prop} {ns : String}
    {t : TenantId} (hd : s.Drops fault (s.toDelete ns t) s') :
    s.SameBut (fun kind name => name = t.objectName kind) s' := by
  rw [toDelete, h.objectName_eq] at hd
  exact hd.sameBut (forall_mem_deletionQueue (fun kind name => name = t.objectName kind) rfl rfl)

/-- A change to one tenant's record and deployment need only be looked at for that tenant. -/
theorem Agrees.change (h : s.Agrees) {t : TenantId} {r : Option ServerRecord}
    (hrecords : s'.records = setAt s.records t r)
    (hothers : ∀ name, name ≠ t.deploymentName → s'.deployments name = s.deployments name)
    (hnamed : ∀ r', r = some r' → r'.server.objectName = t.objectName)
    (hshown : ∀ r' d, r = some r' → s'.deployments t.deploymentName = some d → d.Shows r') :
    s'.Agrees := by
  refine ⟨hrecords ▸ forall_setAt h.named hnamed, fun t' r' d hr hd => ?_⟩
  rw [hrecords] at hr
  by_cases ht : t' = t
  · subst ht
    exact hshown r' d ((setAt_same _ _ _).symm.trans hr) hd
  · rw [hothers _ (TenantId.deploymentName_injective.ne ht)] at hd
    exact h.shown t' r' d ((setAt_of_ne ht).symm.trans hr) hd

/-- A record may be rewritten together with its deployment. -/
theorem Agrees.rewrite (h : s.Agrees) {t : TenantId} {old r : ServerRecord} {d : Deployment}
    (found : s.records t = some old) (hr : r.server.objectName = old.server.objectName)
    (hd : d.Shows r) :
    ((s.putDeployment old.server.deploymentName (some d)).putRecord t (some r)).Agrees := by
  have hname : old.server.deploymentName = t.deploymentName :=
    congrFun (h.named t old found) .deployment
  rw [hname]
  refine h.change rfl (fun name hn => setAt_of_ne hn) (fun r' hr' => ?_) fun r' d' hr' hd' => ?_
  · rw [← Option.some.inj hr', hr]
    exact h.named t old found
  · rw [← Option.some.inj hr', ← Option.some.inj ((setAt_same _ _ _).symm.trans hd')]
    exact hd

theorem Agrees.shows_of_relaunched (h : s.Agrees) {t : TenantId} {old r : ServerRecord}
    {d : Deployment} (found : s.records t = some old)
    (launched : s.Relaunched old.server.deploymentName r.world.launchArgs d)
    (hstate : r.server.state = old.server.state)
    (hamounts : r.server.amounts = old.server.amounts) : d.Shows r := by
  obtain ⟨before, hbefore, hd⟩ := launched
  have hname : old.server.deploymentName = t.deploymentName :=
    congrFun (h.named t old found) .deployment
  rw [hname] at hbefore
  exact (h.shown t old before found hbefore).relaunched hd hstate hamounts

/-- No command puts a record and a deployment at odds. -/
theorem Agrees.outcome {c : Controller} {fault : ClusterError → Prop} {t : Tenant}
    {command : Command} {result : Except Failure Answer} (h : s.Agrees)
    (ho : c.Outcome fault t s command result s') : s'.Agrees := by
  cases ho with
  | created free plan world cleared added =>
    obtain ⟨-, -, rfl⟩ := added
    refine h.change (congrArg (setAt · _ _) cleared.records) (fun name hn => ?_)
      (fun r hr => ?_) fun r d hr hd => ?_
    · exact (setAt_of_ne hn).trans (cleared.deployments name (by simp))
    · rw [← Option.some.inj hr]
      rfl
    · rw [← Option.some.inj hr, ← Option.some.inj ((setAt_same _ _ _).symm.trans hd)]
      exact .first _ _ _ _ _ _
  | notCreated h' =>
    rcases h' with rfl | ⟨free, h'⟩
    · exact h
    · exact h.change (h'.records.trans (setAt_self free).symm) h'.deployments
        (fun r hr => by cases hr) fun r d hr => by cases hr
  | patched found plan world launched =>
    exact h.rewrite found rfl (h.shows_of_relaunched found launched rfl rfl)
  | notPatched => exact h
  | scaled found target launched =>
    rw [← ServerState.replicas_of_scaleTarget target]
    exact h.rewrite found rfl ((h.shows_of_relaunched found launched rfl rfl).scaled _ _)
  | notScaled h' =>
    rcases h' with rfl | ⟨old, d, found, launched, rfl⟩
    · exact h
    · rw [← putRecord_self (s := s.putDeployment old.server.deploymentName (some d)) found]
      exact h.rewrite found rfl (h.shows_of_relaunched found launched rfl rfl)
  | deleted h' =>
    exact h.change (congrArg (setAt · _ _) h'.records) (h.sameBut_drops h').deployments
      (fun r hr => by cases hr) fun r d hr => by cases hr
  | notDeleted h' =>
    refine h.change (h'.records.trans (setAt_self rfl).symm) (h.sameBut_drops h').deployments
      (h.named t.id) fun r d hr hd => ?_
    rcases h'.deployments t.id.deploymentName with hsame | hnone
    · exact h.shown t.id r d hr (hsame ▸ hd)
    · rw [hnone] at hd
      cases hd
  | inspected found => exact h
  | notInspected => exact h

end Holdings

namespace Controller

variable {c : Controller} {fault : ClusterError → Prop} {ns : String} {es : List Event} {s : Site}

theorem Serves.agrees (h : c.Serves fault (.empty ns) es s) : s.holdings.Agrees :=
  (h.invariant Holdings.Agrees.outcome Holdings.Keyed.empty Holdings.Agrees.empty).2

theorem Serves.deployment_shows_record (h : c.Serves fault (.empty ns) es s) {t : TenantId}
    {r : ServerRecord} {d : Deployment} (hr : s.store.find? t = some r)
    (hd : s.cluster.deployments t.deploymentName = some d) : d.Shows r :=
  h.agrees.shown t r d hr hd

/-- A server is created, and then cannot be scaled. -/
theorem Serves.deployment_shows_record_of_failed_scale :
    ∃ es s r d, sample.Serves (fun e => e.isNotFound = false) (.empty "longhall") es s ∧
      es.map (·.result.isOk) = [true, false] ∧ s.store.find? default = some r ∧
      s.cluster.deployments (TenantId.deploymentName default) = some d ∧ d.Shows r := by
  obtain ⟨es, s, h, hes, hr, hd⟩ : ∃ es s,
      sample.Serves (fun e => e.isNotFound = false) (.empty "longhall") es s ∧
      es.map (·.result.isOk) = [true, false] ∧ (s.store.find? default).isSome = true ∧
      (s.cluster.deployments (TenantId.deploymentName default)).isSome = true := by
    have created : sample.Serves (fun e => e.isNotFound = false) (.empty "longhall") _ _ :=
      Serves.start.next_outside (fun _ _ => rfl) (· == .scaleDeployment) "203.0.113.7" 0 "5ead"
        ⟨default, "premium"⟩ (.create .sample)
    have scaled := created.next_outside (fun _ _ => rfl) (· == .scaleDeployment)
      "203.0.113.7" 0 "5ead" ⟨default, "premium"⟩ (.scale ⟨0⟩)
    exact ⟨_, _, scaled, by decide +kernel, by decide +kernel, by decide +kernel⟩
  obtain ⟨r, hr⟩ := Option.isSome_iff_exists.1 hr
  obtain ⟨d, hd⟩ := Option.isSome_iff_exists.1 hd
  exact ⟨es, s, r, d, h, hes, hr, hd, h.deployment_shows_record hr hd⟩

end Controller

end Steading
