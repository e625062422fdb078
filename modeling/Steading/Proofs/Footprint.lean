import Steading.Proofs.Agreement

/-!
# What belongs to a tenant

A tenant has a row in the store, and in the cluster a deployment and a claim by names that no other
tenant's have. A request about one tenant is answered from what belongs to that tenant
(`Site.SameFor.answer`) and changes nothing that belongs to another (`Site.sameFor_answer`), unless
the cluster is told to fail in another way.
-/

namespace Steading

namespace TenantId

theorem claimName_injective : Function.Injective claimName := by
  rintro ⟨text, _, _⟩ ⟨text', _, _⟩ h
  obtain rfl : text = text' :=
    (String.append_right_inj _).1 ((String.append_left_inj _).1 h)
  rfl

theorem objectName_injective (kind : Kind) : Function.Injective (objectName · kind) := by
  cases kind
  · exact deploymentName_injective
  · exact claimName_injective

end TenantId

/-- The tenant whose record a call is about. -/
def StoreCall.tenant : StoreCall → TenantId
  | find t | updateWorld t _ _ _ | delete t => t
  | save r => r.server.tenant
  | update server => server.tenant

/-- About nothing that belongs to another tenant. -/
def Request.Of (t : TenantId) : Request → Prop
  | cluster c => c.target = t.objectName c.kind
  | store c => c.tenant = t
  | _ => True

namespace SimulatedCluster

variable {s s' : SimulatedCluster} {t : TenantId} {c : ClusterCall}

/-- What belongs to a tenant does not differ, nor which calls are made to fail. -/
structure SameFor (t : TenantId) (s s' : SimulatedCluster) : Prop where
  failing : s'.failing = s.failing
  deployment : s'.deployments t.deploymentName = s.deployments t.deploymentName
  claim : s'.claims t.claimName = s.claims t.claimName
  terminating : s'.terminating t.claimName = s.terminating t.claimName
  lingering : s'.lingering t.claimName = s.lingering t.claimName

namespace SameFor

theorem refl (t : TenantId) (s : SimulatedCluster) : s.SameFor t s :=
  ⟨rfl, rfl, rfl, rfl, rfl⟩

theorem symm (h : s.SameFor t s') : s'.SameFor t s :=
  ⟨h.failing.symm, h.deployment.symm, h.claim.symm, h.terminating.symm, h.lingering.symm⟩

theorem trans {s₁ : SimulatedCluster} (h₁ : s.SameFor t s₁) (h₂ : s₁.SameFor t s') :
    s.SameFor t s' where
  failing := h₂.failing.trans h₁.failing
  deployment := h₂.deployment.trans h₁.deployment
  claim := h₂.claim.trans h₁.claim
  terminating := h₂.terminating.trans h₁.terminating
  lingering := h₂.lingering.trans h₁.lingering

theorem record (h : s.SameFor t s') (c : ClusterCall) : (s.record c).SameFor t (s'.record c) :=
  ⟨h.failing, h.deployment, h.claim, h.terminating, h.lingering⟩

theorem putClaim (h : s.SameFor t s') (name : String) (c : Option Claim) :
    (s.putClaim name c).SameFor t (s'.putClaim name c) :=
  { h with claim := setAt_congr h.claim name c }

theorem putDeployment (h : s.SameFor t s') (name : String) (d : Option Deployment) :
    (s.putDeployment name d).SameFor t (s'.putDeployment name d) :=
  { h with deployment := setAt_congr h.deployment name d }

theorem setTerminating (h : s.SameFor t s') (name : String) (b : Bool) :
    (s.setTerminating name b).SameFor t (s'.setTerminating name b) :=
  { h with terminating := setAt_congr h.terminating name b }

theorem linger (h : s.SameFor t s') (name : String) (lookups : Nat) :
    (s.linger name lookups).SameFor t (s'.linger name lookups) :=
  { h with lingering := setAt_congr h.lingering name lookups }

/-- A call about a tenant's object is answered from what belongs to the tenant. -/
theorem perform (h : s.SameFor t s') (hc : c.target = t.objectName c.kind) :
    (s'.perform c).1 = (s.perform c).1 ∧ (s.perform c).2.SameFor t (s'.perform c).2 := by
  cases c with
  | createClaim c =>
    have hclaim : s'.claims c.metadata.nameOrEmpty = s.claims c.metadata.nameOrEmpty := by
      rw [show c.metadata.nameOrEmpty = t.claimName from hc, h.claim]
    simp only [SimulatedCluster.perform, hclaim]
    split
    · exact ⟨rfl, h⟩
    · exact ⟨rfl, h.putClaim _ _⟩
  | getClaim name =>
    obtain rfl : name = t.claimName := hc
    simp only [SimulatedCluster.perform, h.claim, h.lingering]
    split
    · exact ⟨rfl, h⟩
    · split
      · exact ⟨rfl, h⟩
      · exact ⟨rfl, h.linger _ _⟩
  | deleteClaim name =>
    obtain rfl : name = t.claimName := hc
    simp only [SimulatedCluster.perform, h.claim]
    split
    · exact ⟨rfl, h⟩
    · split
      · exact ⟨rfl, h.setTerminating _ _⟩
      · exact ⟨rfl, h.putClaim _ _⟩
  | clearFinalizers name =>
    obtain rfl : name = t.claimName := hc
    simp only [SimulatedCluster.perform, h.claim, h.terminating]
    split
    · exact ⟨rfl, h⟩
    · split
      · exact ⟨rfl, (h.putClaim _ _).setTerminating _ _⟩
      · exact ⟨rfl, h.putClaim _ _⟩
  | createDeployment d =>
    have hdeployment : s'.deployments d.metadata.nameOrEmpty =
        s.deployments d.metadata.nameOrEmpty := by
      rw [show d.metadata.nameOrEmpty = t.deploymentName from hc, h.deployment]
    simp only [SimulatedCluster.perform, hdeployment]
    split
    · exact ⟨rfl, h⟩
    · exact ⟨rfl, h.putDeployment _ _⟩
  | getDeployment name =>
    obtain rfl : name = t.deploymentName := hc
    simp only [SimulatedCluster.perform, h.deployment]
    split <;> exact ⟨rfl, h⟩
  | replaceDeployment d =>
    have hdeployment : s'.deployments d.metadata.nameOrEmpty =
        s.deployments d.metadata.nameOrEmpty := by
      rw [show d.metadata.nameOrEmpty = t.deploymentName from hc, h.deployment]
    simp only [SimulatedCluster.perform, hdeployment]
    split
    · exact ⟨rfl, h⟩
    · exact ⟨rfl, h.putDeployment _ _⟩
  | deleteDeployment name | scaleDeployment name _ =>
    obtain rfl : name = t.deploymentName := hc
    simp only [SimulatedCluster.perform, h.deployment]
    split
    · exact ⟨rfl, h⟩
    · exact ⟨rfl, h.putDeployment _ _⟩

theorem answer (h : s.SameFor t s') (hc : c.target = t.objectName c.kind) :
    (s'.answer c).1 = (s.answer c).1 ∧ (s.answer c).2.SameFor t (s'.answer c).2 := by
  by_cases hfailing : s.failing c.op c.target = true
  · rw [answer_of_failing hfailing, answer_of_failing (h.failing ▸ hfailing)]
    exact ⟨rfl, h.record c⟩
  · rw [answer_of_not_failing hfailing, answer_of_not_failing (h.failing ▸ hfailing)]
    exact (h.record c).perform hc

end SameFor

theorem lingering_answer {name : String} (hne : c.kind = .claim → name ≠ c.target) :
    (s.answer c).2.lingering name = s.lingering name := by
  by_cases hfailing : s.failing c.op c.target = true
  · rw [answer_of_failing hfailing]
    rfl
  · rw [answer_of_not_failing hfailing]
    cases c with
    | getClaim name' =>
      simp only [perform]
      repeat' split
      · rfl
      · rfl
      · exact setAt_of_ne (hne rfl)
    | _ =>
      simp only [perform]
      repeat' split
      all_goals rfl

/-- A call about one tenant's object leaves other tenants' alone. -/
theorem sameFor_answer {t' : TenantId} (hc : c.target = t.objectName c.kind) (hne : t' ≠ t) :
    s.SameFor t' (s.answer c).2 := by
  have hbut : (s.holdings .empty).SameBut (fun kind name => name = t.objectName kind)
      ((s.answer c).2.holdings .empty) :=
    Holdings.sameBut_habit (r := .cluster c) hc (s.habit_answer .empty c)
  have hother : ∀ kind, ¬ t'.objectName kind = t.objectName kind := fun kind =>
    (TenantId.objectName_injective kind).ne hne
  refine ⟨s.failing_answer c, hbut.deployments _ (hother .deployment), hbut.claims _ (hother .claim),
    hbut.terminating _ (hother .claim), lingering_answer fun hkind => ?_⟩
  rw [hc, hkind]
  exact hother .claim

end SimulatedCluster

namespace Records

variable {f g : Records} {c : StoreCall} {t : TenantId}

theorem answer_of_ne (h : t ≠ c.tenant) : (f.answer c).2 t = f t := by
  cases c with
  | find => rfl
  | save r =>
    simp only [answer]
    split
    · rfl
    · exact setAt_of_ne h
  | update server =>
    simp only [answer]
    split
    · rfl
    · exact setAt_of_ne h
  | updateWorld t' world name details =>
    simp only [answer]
    repeat' split
    · exact setAt_of_ne h
    · rfl
    · rfl
  | delete t' => exact setAt_of_ne h

theorem answer_congr (h : g c.tenant = f c.tenant) :
    (g.answer c).2 c.tenant = (f.answer c).2 c.tenant := by
  cases c with
  | find => exact h
  | save r =>
    simp only [answer, show g r.server.tenant = f r.server.tenant from h]
    split
    · exact h
    · exact setAt_congr h _ _
  | update server =>
    simp only [answer, show g server.tenant = f server.tenant from h]
    split
    · exact h
    · exact setAt_congr h _ _
  | updateWorld t' world name details =>
    simp only [answer, show g t' = f t' from h]
    repeat' split
    · exact setAt_congr h _ _
    · exact h
    · exact h
  | delete t' => exact setAt_congr h _ _

end Records

namespace MemoryStore

variable {s s' : MemoryStore} {c : StoreCall} {t : TenantId}

theorem find?_answer (s : MemoryStore) (c : StoreCall) :
    (s.answer c).2.find? = (Records.answer s.find? c).2 :=
  congrArg Prod.snd (s.records_answer c)

theorem answer_congr (h : s'.find? c.tenant = s.find? c.tenant) :
    (s'.answer c).1 = (s.answer c).1 := by
  cases c with
  | find t => exact congrArg Except.ok h
  | save r =>
    simp only [answer, show s'.find? r.server.tenant = s.find? r.server.tenant from h]
    split <;> rfl
  | update server =>
    simp only [answer, show s'.find? server.tenant = s.find? server.tenant from h]
    split <;> rfl
  | updateWorld t world name details =>
    simp only [answer, show s'.find? t = s.find? t from h]
    repeat' split
    all_goals rfl
  | delete t => exact congrArg (fun o => Except.ok o.isSome) h

end MemoryStore

/-- What an operation is told that is not kept anywhere. -/
structure Givens where
  address : Except ClusterError String
  time : Int64
  freshId : String

namespace Site

/-- Surroundings in which the cluster fails as it is told to, and all that is not kept is given. -/
def given (g : Givens) : Outside Site where
  answer
    | .cluster c, s => ((s.cluster.answer c).1, { s with cluster := (s.cluster.answer c).2 })
    | .address, s => (g.address, s)
    | .store c, s => ((s.store.answer c).1, { s with store := (s.store.answer c).2 })
    | .now, s => (g.time, s)
    | .freshId, s => (g.freshId, s)
    | .pause _, s => ((), s)

theorem habit_given (g : Givens) (r : Request) (s : Site) :
    habit (fun _ => True) r s ((given g).answer r s).1 ((given g).answer r s).2 := by
  cases r with
  | cluster c =>
    refine ⟨rfl, ?_⟩
    by_cases hfailing : s.cluster.failing c.op c.target = true
    · exact .inr ⟨_, trivial, congrArg Prod.fst (SimulatedCluster.answer_of_failing hfailing),
        congrArg Prod.snd (SimulatedCluster.answer_of_failing hfailing)⟩
    · have hanswer := SimulatedCluster.answer_of_not_failing hfailing
      exact .inl ⟨congrArg Prod.fst hanswer, congrArg Prod.snd hanswer⟩
  | store c => exact ⟨rfl, rfl, rfl⟩
  | address | now | freshId | pause => rfl

/-- A tenant's row and objects do not differ, nor which calls are made to fail. -/
structure SameFor (t : TenantId) (s s' : Site) : Prop where
  cluster : s.cluster.SameFor t s'.cluster
  row : s'.store.find? t = s.store.find? t

variable {s s' : Site} {t : TenantId} {r : Request}

namespace SameFor

theorem refl (t : TenantId) (s : Site) : s.SameFor t s :=
  ⟨.refl t s.cluster, rfl⟩

theorem symm (h : s.SameFor t s') : s'.SameFor t s :=
  ⟨h.cluster.symm, h.row.symm⟩

theorem trans {s₁ : Site} (h₁ : s.SameFor t s₁) (h₂ : s₁.SameFor t s') : s.SameFor t s' :=
  ⟨h₁.cluster.trans h₂.cluster, h₂.row.trans h₁.row⟩

theorem answer (h : s.SameFor t s') (hr : r.Of t) (g : Givens) :
    ((given g).answer r s').1 = ((given g).answer r s).1 ∧
      ((given g).answer r s).2.SameFor t ((given g).answer r s').2 := by
  cases r with
  | cluster c =>
    obtain ⟨hreply, hcluster⟩ := h.cluster.answer hr
    exact ⟨hreply, hcluster, h.row⟩
  | store c =>
    obtain rfl : c.tenant = t := hr
    refine ⟨MemoryStore.answer_congr h.row, h.cluster, ?_⟩
    simp only [given]
    rw [MemoryStore.find?_answer, MemoryStore.find?_answer]
    exact Records.answer_congr h.row
  | address | now | freshId | pause => exact ⟨rfl, h⟩

end SameFor

/-- A request about one tenant changes nothing that belongs to another. -/
theorem sameFor_answer {t' : TenantId} (hr : r.Of t) (hne : t' ≠ t) (g : Givens) (s : Site) :
    s.SameFor t' ((given g).answer r s).2 := by
  cases r with
  | cluster c => exact ⟨SimulatedCluster.sameFor_answer hr hne, rfl⟩
  | store c =>
    obtain rfl : c.tenant = t := hr
    refine ⟨.refl t' s.cluster, ?_⟩
    simp only [given]
    rw [MemoryStore.find?_answer]
    exact Records.answer_of_ne hne
  | address | now | freshId | pause => exact .refl t' s

end Site

end Steading
