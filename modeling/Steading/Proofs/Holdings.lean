import Steading.Proofs.Records
import Steading.Proofs.Run

/-!
# Holdings

What a cluster and a store hold between them: claims and deployments by name, which claims are only
waiting to go, and records by tenant. `Holdings.Gives` says what the cluster is like for a call to
go through and what it is like afterwards, `Holdings.Refuses` when it cannot go through.

`Holdings.habit` takes any call to the cluster to fail, with an error from some set of faults or
because it cannot go through; a call that fails changes nothing. Of the address, the time and fresh
ids nothing is known.
-/

namespace Steading

structure Holdings where
  claims : String → Option Claim
  deployments : String → Option Deployment
  terminating : String → Bool
  records : Records

namespace Holdings

def empty : Holdings :=
  ⟨fun _ => none, fun _ => none, fun _ => false, .empty⟩

def putClaim (s : Holdings) (name : String) (c : Option Claim) : Holdings :=
  { s with claims := setAt s.claims name c }

def putDeployment (s : Holdings) (name : String) (d : Option Deployment) : Holdings :=
  { s with deployments := setAt s.deployments name d }

def setTerminating (s : Holdings) (name : String) (b : Bool) : Holdings :=
  { s with terminating := setAt s.terminating name b }

def putRecord (s : Holdings) (t : TenantId) (r : Option ServerRecord) : Holdings :=
  { s with records := setAt s.records t r }

@[simp]
theorem putDeployment_putDeployment (s : Holdings) (name : String) (d d' : Option Deployment) :
    (s.putDeployment name d).putDeployment name d' = s.putDeployment name d' := by
  rw [putDeployment, putDeployment, setAt_setAt, putDeployment]

@[simp]
theorem putRecord_putRecord (s : Holdings) (t : TenantId) (r r' : Option ServerRecord) :
    (s.putRecord t r).putRecord t r' = s.putRecord t r' := by
  rw [putRecord, putRecord, setAt_setAt, putRecord]

theorem putRecord_self {s : Holdings} {t : TenantId} {r : Option ServerRecord}
    (h : s.records t = r) : s.putRecord t r = s := by
  rw [putRecord, setAt_self h]

/-- What it takes for a call to go through, and what has become of everything then. A lookup may
also see a claim that is gone. -/
def Gives (s : Holdings) : (c : ClusterCall) → c.Reply → Holdings → Prop
  | .createClaim c, _, s' =>
    s.claims c.metadata.nameOrEmpty = none ∧ s' = s.putClaim c.metadata.nameOrEmpty (some c)
  | .getClaim _, _, s' => s' = s
  | .deleteClaim name, _, s' =>
    ∃ c, s.claims name = some c ∧
      s' = if c.hasFinalizers then s.setTerminating name true else s.putClaim name none
  | .clearFinalizers name, _, s' =>
    ∃ c, s.claims name = some c ∧
      s' = if s.terminating name then (s.putClaim name none).setTerminating name false
        else s.putClaim name (some c.withoutFinalizers)
  | .createDeployment d, _, s' =>
    s.deployments d.metadata.nameOrEmpty = none ∧
      s' = s.putDeployment d.metadata.nameOrEmpty (some d)
  | .getDeployment name, d, s' => s.deployments name = some d ∧ s' = s
  | .replaceDeployment d, _, s' =>
    (∃ old, s.deployments d.metadata.nameOrEmpty = some old) ∧
      s' = s.putDeployment d.metadata.nameOrEmpty (some d)
  | .deleteDeployment name, _, s' =>
    (∃ d, s.deployments name = some d) ∧ s' = s.putDeployment name none
  | .scaleDeployment name replicas, _, s' =>
    ∃ d, s.deployments name = some d ∧ s' = s.putDeployment name (some (d.scaled replicas))

/-- Whether there is an object that goes by a name. -/
def has (s : Holdings) : Kind → String → Bool
  | .claim, name => (s.claims name).isSome
  | .deployment, name => (s.deployments name).isSome

/-- Why a call cannot go through: what it should create is there, or what it is about is not. -/
def Refuses (s : Holdings) (c : ClusterCall) (e : ClusterError) : Prop :=
  match c with
  | .createClaim _ | .createDeployment _ =>
    s.has c.kind c.target = true ∧ e = SimulatedCluster.conflict c.kind c.target
  | _ => s.has c.kind c.target = false ∧ e = .notFound c.kind c.target

/-- A call to the cluster goes through or fails without a trace, a call to the store is answered as
records are, and all else only gets a reply. -/
def habit (fault : ClusterError → Prop) : Habit Holdings
  | .cluster c, s, reply, s' =>
    match reply with
    | .ok a => s.Gives c a s'
    | .error e => (fault e ∨ s.Refuses c e) ∧ s' = s
  | .store c, s, reply, s' =>
    reply.toOption = (s.records.answer c).1 ∧ s' = { s with records := (s.records.answer c).2 }
  | .address, s, _, s' | .now, s, _, s' | .freshId, s, _, s' | .pause _, s, _, s' => s' = s

/-- Every deployment goes by its own name, and every record by its own tenant. -/
structure Keyed (s : Holdings) : Prop where
  deployments : ∀ name d, s.deployments name = some d → d.metadata.nameOrEmpty = name
  records : ∀ t r, s.records t = some r → r.server.tenant = t

/-- No record differs, nor any object that is not `touched`. -/
structure SameBut (touched : Kind → String → Prop) (s s' : Holdings) : Prop where
  records : s'.records = s.records
  deployments : ∀ name, ¬ touched .deployment name → s'.deployments name = s.deployments name
  claims : ∀ name, ¬ touched .claim name → s'.claims name = s.claims name
  terminating : ∀ name, ¬ touched .claim name → s'.terminating name = s.terminating name

namespace SameBut

variable {touched touched' : Kind → String → Prop} {s s₁ s₂ : Holdings}

theorem of_eq (h : s₁ = s) : s.SameBut touched s₁ := by
  subst h
  exact ⟨rfl, fun _ _ => rfl, fun _ _ => rfl, fun _ _ => rfl⟩

theorem trans (h₁ : s.SameBut touched s₁) (h₂ : s₁.SameBut touched s₂) : s.SameBut touched s₂ where
  records := h₂.records.trans h₁.records
  deployments name hn := (h₂.deployments name hn).trans (h₁.deployments name hn)
  claims name hn := (h₂.claims name hn).trans (h₁.claims name hn)
  terminating name hn := (h₂.terminating name hn).trans (h₁.terminating name hn)

theorem mono (ht : ∀ kind name, touched kind name → touched' kind name)
    (h : s.SameBut touched s₁) : s.SameBut touched' s₁ where
  records := h.records
  deployments name hn := h.deployments name (mt (ht _ _) hn)
  claims name hn := h.claims name (mt (ht _ _) hn)
  terminating name hn := h.terminating name (mt (ht _ _) hn)

theorem putDeployment {name : String} (h : touched .deployment name) (d : Option Deployment) :
    s.SameBut touched (s.putDeployment name d) where
  records := rfl
  deployments _ hn := setAt_of_ne fun heq => hn (heq ▸ h)
  claims _ _ := rfl
  terminating _ _ := rfl

theorem putClaim {name : String} (h : touched .claim name) (c : Option Claim) :
    s.SameBut touched (s.putClaim name c) where
  records := rfl
  deployments _ _ := rfl
  claims _ hn := setAt_of_ne fun heq => hn (heq ▸ h)
  terminating _ _ := rfl

theorem setTerminating {name : String} (h : touched .claim name) (b : Bool) :
    s.SameBut touched (s.setTerminating name b) where
  records := rfl
  deployments _ _ := rfl
  claims _ _ := rfl
  terminating _ hn := setAt_of_ne fun heq => hn (heq ▸ h)

end SameBut

/-- A call touches at most the object it is about. -/
theorem Gives.sameBut {s s' : Holdings} {c : ClusterCall} {a : c.Reply} (h : s.Gives c a s')
    {touched : Kind → String → Prop} (ht : touched c.kind c.target) : s.SameBut touched s' := by
  cases c with
  | createClaim c => exact h.2 ▸ .putClaim ht _
  | getClaim name => exact .of_eq h
  | deleteClaim name =>
    obtain ⟨c, -, rfl⟩ := h
    split_ifs
    · exact .setTerminating ht _
    · exact .putClaim ht _
  | clearFinalizers name =>
    obtain ⟨c, -, rfl⟩ := h
    split_ifs
    · exact (SameBut.putClaim ht _).trans (.setTerminating ht _)
    · exact .putClaim ht _
  | createDeployment d => exact h.2 ▸ .putDeployment ht _
  | getDeployment name => exact .of_eq h.2
  | replaceDeployment d => exact h.2 ▸ .putDeployment ht _
  | deleteDeployment name => exact h.2 ▸ .putDeployment ht _
  | scaleDeployment name replicas =>
    obtain ⟨d, -, rfl⟩ := h
    exact .putDeployment ht _

theorem Keyed.putDeployment {s : Holdings} (h : s.Keyed) {name : String} {d : Option Deployment}
    (hd : ∀ d', d = some d' → d'.metadata.nameOrEmpty = name) : (s.putDeployment name d).Keyed where
  deployments := forall_setAt h.deployments hd
  records := h.records

theorem Gives.keyed {s s' : Holdings} {c : ClusterCall} {a : c.Reply} (h : s.Gives c a s')
    (hs : s.Keyed) : s'.Keyed := by
  cases c with
  | createClaim c => exact h.2 ▸ ⟨hs.deployments, hs.records⟩
  | getClaim name => exact (show s' = s from h) ▸ hs
  | deleteClaim name =>
    obtain ⟨c, -, rfl⟩ := h
    split_ifs <;> exact ⟨hs.deployments, hs.records⟩
  | clearFinalizers name =>
    obtain ⟨c, -, rfl⟩ := h
    split_ifs <;> exact ⟨hs.deployments, hs.records⟩
  | createDeployment d =>
    rw [h.2]
    exact hs.putDeployment fun d' hd' => by rw [← Option.some.inj hd']
  | getDeployment name => exact h.2 ▸ hs
  | replaceDeployment d =>
    rw [h.2]
    exact hs.putDeployment fun d' hd' => by rw [← Option.some.inj hd']
  | deleteDeployment name =>
    rw [h.2]
    exact hs.putDeployment fun d' hd' => by cases hd'
  | scaleDeployment name replicas =>
    obtain ⟨d, hd, rfl⟩ := h
    refine hs.putDeployment fun d' hd' => ?_
    rw [← Option.some.inj hd']
    exact hs.deployments name d hd

theorem Keyed.empty : empty.Keyed where
  deployments _ _ h := by cases h
  records _ _ h := by cases h

theorem keyed_habit {fault : ClusterError → Prop} (r : Request) (s : Holdings) (reply : r.Reply)
    (s' : Holdings) (h : habit fault r s reply s') (hs : s.Keyed) : s'.Keyed := by
  cases r with
  | cluster c =>
    rcases reply with e | a
    · exact h.2 ▸ hs
    · exact Gives.keyed h hs
  | store c =>
    rw [h.2]
    exact ⟨hs.deployments, Records.keyed_answer hs.records⟩
  | address | now | freshId | pause => exact (show s' = s from h) ▸ hs

end Holdings

/-- The requests that touch no record, and no object but those `touched`. -/
def Request.Within (touched : Kind → String → Prop) : Request → Prop
  | cluster c => touched c.kind c.target
  | store _ => False
  | _ => True

namespace Holdings

theorem sameBut_habit {fault : ClusterError → Prop} {touched : Kind → String → Prop}
    {r : Request} {s : Holdings} {reply : r.Reply} {s' : Holdings} (hr : r.Within touched)
    (h : habit fault r s reply s') : s.SameBut touched s' := by
  cases r with
  | cluster c =>
    rcases reply with e | a
    · exact .of_eq h.2
    · exact Gives.sameBut h hr
  | store c => exact hr.elim
  | address | now | freshId | pause => exact .of_eq h

end Holdings

theorem Program.ensures_call {fault : ClusterError → Prop} {allowed : Request → Holdings → Prop}
    {c : ClusterCall} {post : Except ClusterError c.Reply → Holdings → Prop} {s : Holdings} :
    (call c).Ensures (Holdings.habit fault) allowed post s ↔
      allowed (.cluster c) s ∧ (∀ a s', s.Gives c a s' → post (.ok a) s') ∧
        ∀ e, fault e ∨ s.Refuses c e → post (.error e) s := by
  refine (ensures_request (.cluster c) post s).trans (and_congr_right' ?_)
  refine ⟨fun h => ⟨fun a s' ha => h (.ok a) s' ha,
    fun e he => h (.error e) s ⟨he, rfl⟩⟩, fun ⟨hok, herr⟩ reply s' hr => ?_⟩
  cases reply with
  | ok a => exact hok a s' hr
  | error e =>
    obtain ⟨he, rfl⟩ := hr
    exact herr e he

/-- What a cluster and a store hold. -/
def SimulatedCluster.holdings (s : SimulatedCluster) (f : Records) : Holdings :=
  ⟨s.claims, s.deployments, s.terminating, f⟩

namespace SimulatedCluster

variable (fault : ClusterError → Prop) (f : Records)

/-- A call that is not made to fail keeps to the habit. -/
theorem habit_perform (s : SimulatedCluster) (c : ClusterCall) :
    Holdings.habit fault (.cluster c) (s.holdings f) (s.perform c).1
      ((s.perform c).2.holdings f) := by
  cases c with
  | createClaim c =>
    rcases h : s.claims c.metadata.nameOrEmpty with _ | old <;> simp only [perform, h]
    · exact ⟨h, rfl⟩
    · exact ⟨.inr ⟨congrArg Option.isSome h, rfl⟩, rfl⟩
  | getClaim name =>
    rcases h : s.claims name with _ | c <;> simp only [perform, h]
    · split_ifs
      · exact ⟨.inr ⟨congrArg Option.isSome h, rfl⟩, rfl⟩
      · exact rfl
    · exact rfl
  | deleteClaim name =>
    rcases h : s.claims name with _ | c <;> simp only [perform, h]
    · exact ⟨.inr ⟨congrArg Option.isSome h, rfl⟩, rfl⟩
    · split_ifs with hc
      · exact ⟨c, h, (if_pos hc).symm⟩
      · exact ⟨c, h, (if_neg hc).symm⟩
  | clearFinalizers name =>
    rcases h : s.claims name with _ | c <;> simp only [perform, h]
    · exact ⟨.inr ⟨congrArg Option.isSome h, rfl⟩, rfl⟩
    · split_ifs with ht
      · exact ⟨c, h, (if_pos ht).symm⟩
      · exact ⟨c, h, (if_neg ht).symm⟩
  | createDeployment d =>
    rcases h : s.deployments d.metadata.nameOrEmpty with _ | old <;> simp only [perform, h]
    · exact ⟨h, rfl⟩
    · exact ⟨.inr ⟨congrArg Option.isSome h, rfl⟩, rfl⟩
  | getDeployment name =>
    rcases h : s.deployments name with _ | d <;> simp only [perform, h]
    · exact ⟨.inr ⟨congrArg Option.isSome h, rfl⟩, rfl⟩
    · exact ⟨h, rfl⟩
  | replaceDeployment d =>
    rcases h : s.deployments d.metadata.nameOrEmpty with _ | old <;> simp only [perform, h]
    · exact ⟨.inr ⟨congrArg Option.isSome h, rfl⟩, rfl⟩
    · exact ⟨⟨old, h⟩, rfl⟩
  | deleteDeployment name =>
    rcases h : s.deployments name with _ | d <;> simp only [perform, h]
    · exact ⟨.inr ⟨congrArg Option.isSome h, rfl⟩, rfl⟩
    · exact ⟨⟨d, h⟩, rfl⟩
  | scaleDeployment name replicas =>
    rcases h : s.deployments name with _ | d <;> simp only [perform, h]
    · exact ⟨.inr ⟨congrArg Option.isSome h, rfl⟩, rfl⟩
    · exact ⟨d, h, rfl⟩

/-- Every answer is one that a cluster may give in which any call may fail. -/
theorem habit_answer (s : SimulatedCluster) (c : ClusterCall) :
    Holdings.habit (fun _ => True) (.cluster c) (s.holdings f) (s.answer c).1
      ((s.answer c).2.holdings f) := by
  by_cases hfailing : s.failing c.op c.target = true
  · rw [answer_of_failing hfailing]
    exact ⟨.inl trivial, rfl⟩
  · rw [answer_of_not_failing hfailing]
    exact habit_perform _ f (s.record c) c

end SimulatedCluster

end Steading
