import Steading.Cluster

/-!
# A simulated cluster

A cluster in memory that records every call and can be told to fail. Deleting a claim that has
finalizers only marks it as terminating; it goes once they are cleared. A claim that is gone may
still be seen by a number of lookups.
-/

namespace Steading

/-- The calls without their arguments, as they are recorded and as failures are set up for them. -/
inductive ClusterOp
  | createClaim
  | getClaim
  | deleteClaim
  | clearFinalizers
  | createDeployment
  | getDeployment
  | replaceDeployment
  | deleteDeployment
  | scaleDeployment
  deriving DecidableEq, Inhabited

namespace ClusterOp

def all : List ClusterOp :=
  [createClaim, getClaim, deleteClaim, clearFinalizers, createDeployment, getDeployment,
    replaceDeployment, deleteDeployment, scaleDeployment]

def name : ClusterOp → String
  | createClaim => "CreatePvc"
  | getClaim => "GetPvc"
  | deleteClaim => "DeletePvc"
  | clearFinalizers => "ClearFinalizers"
  | createDeployment => "CreateDeployment"
  | getDeployment => "GetDeployment"
  | replaceDeployment => "ReplaceDeployment"
  | deleteDeployment => "DeleteDeployment"
  | scaleDeployment => "ScaleDeployment"

def ofName? (s : String) : Option ClusterOp :=
  all.find? (·.name == s)

def isMutation : ClusterOp → Bool
  | getClaim | getDeployment => false
  | _ => true

end ClusterOp

def ClusterCall.op : ClusterCall → ClusterOp
  | createClaim _ => .createClaim
  | getClaim _ => .getClaim
  | deleteClaim _ => .deleteClaim
  | clearFinalizers _ => .clearFinalizers
  | createDeployment _ => .createDeployment
  | getDeployment _ => .getDeployment
  | replaceDeployment _ => .replaceDeployment
  | deleteDeployment _ => .deleteDeployment
  | scaleDeployment _ _ => .scaleDeployment

structure RecordedCall where
  op : ClusterOp
  name : String
  deriving DecidableEq, Inhabited

def RecordedCall.text (c : RecordedCall) : String :=
  c.op.name ++ " " ++ c.name

/-- The function that differs from `f` at `a` at most, where it is `b`. -/
def setAt {α β : Type} [DecidableEq α] (f : α → β) (a : α) (b : β) : α → β :=
  fun x => if x = a then b else f x

section

variable {α β : Type} [DecidableEq α]

@[simp]
theorem setAt_same (f : α → β) (a : α) (b : β) : setAt f a b a = b :=
  if_pos rfl

theorem setAt_of_ne {f : α → β} {a x : α} {b : β} (h : x ≠ a) : setAt f a b x = f x :=
  if_neg h

@[simp]
theorem setAt_setAt (f : α → β) (a : α) (b b' : β) : setAt (setAt f a b) a b' = setAt f a b' := by
  funext x
  by_cases hx : x = a
  · rw [hx, setAt_same, setAt_same]
  · rw [setAt_of_ne hx, setAt_of_ne hx, setAt_of_ne hx]

theorem setAt_congr {f g : α → β} {x : α} (h : g x = f x) (a : α) (b : β) :
    setAt g a b x = setAt f a b x := by
  by_cases hx : x = a
  · rw [hx, setAt_same, setAt_same]
  · rw [setAt_of_ne hx, setAt_of_ne hx, h]

theorem map_setAt {γ : Type} (g : α → β → γ) (f : α → β) (a : α) (b : β) :
    (fun x => g x (setAt f a b x)) = setAt (fun x => g x (f x)) a (g a b) := by
  funext x
  by_cases hx : x = a
  · rw [hx, setAt_same, setAt_same]
  · rw [setAt_of_ne hx, setAt_of_ne hx]

theorem setAt_self {f : α → β} {a : α} {b : β} (h : f a = b) : setAt f a b = f := by
  funext x
  by_cases hx : x = a
  · rw [hx, setAt_same, h]
  · exact setAt_of_ne hx

/-- What is true of all that was there and of what is put in its place is true of all that is there
then. -/
theorem forall_setAt {p : α → β → Prop} {f : α → Option β} {a : α} {o : Option β}
    (hf : ∀ x b, f x = some b → p x b) (ho : ∀ b, o = some b → p a b) :
    ∀ x b, setAt f a o x = some b → p x b := by
  intro x b hb
  by_cases hx : x = a
  · subst hx
    exact ho b ((setAt_same _ _ _).symm.trans hb)
  · exact hf x b ((setAt_of_ne hx).symm.trans hb)

end

structure SimulatedCluster where
  ns : String
  claims : String → Option Claim
  deployments : String → Option Deployment
  terminating : String → Bool
  /-- How many more lookups see a claim that is gone. -/
  lingering : String → Nat
  failing : ClusterOp → String → Bool
  log : List RecordedCall

namespace SimulatedCluster

def empty (ns : String) : SimulatedCluster where
  ns := ns
  claims := fun _ => none
  deployments := fun _ => none
  terminating := fun _ => false
  lingering := fun _ => 0
  failing := fun _ _ => false
  log := []

def failOn (s : SimulatedCluster) (op : ClusterOp) (name : String) : SimulatedCluster :=
  { s with failing := setAt s.failing op (setAt (s.failing op) name true) }

def clearFailures (s : SimulatedCluster) : SimulatedCluster :=
  { s with failing := fun _ _ => false }

def linger (s : SimulatedCluster) (name : String) (lookups : Nat) : SimulatedCluster :=
  { s with lingering := setAt s.lingering name lookups }

/-- Puts a claim, or nothing, in the place of whatever goes by a name. -/
def putClaim (s : SimulatedCluster) (name : String) (c : Option Claim) : SimulatedCluster :=
  { s with claims := setAt s.claims name c }

def putDeployment (s : SimulatedCluster) (name : String) (d : Option Deployment) :
    SimulatedCluster :=
  { s with deployments := setAt s.deployments name d }

def setTerminating (s : SimulatedCluster) (name : String) (b : Bool) : SimulatedCluster :=
  { s with terminating := setAt s.terminating name b }

/-- Puts a claim in without a call. -/
def insertClaim (s : SimulatedCluster) (c : Claim) : SimulatedCluster :=
  s.putClaim c.metadata.nameOrEmpty (some c)

def insertDeployment (s : SimulatedCluster) (d : Deployment) : SimulatedCluster :=
  s.putDeployment d.metadata.nameOrEmpty (some d)

def forgetCalls (s : SimulatedCluster) : SimulatedCluster :=
  { s with log := [] }

def mutations (s : SimulatedCluster) : List RecordedCall :=
  s.log.filter (·.op.isMutation)

def record (s : SimulatedCluster) (c : ClusterCall) : SimulatedCluster :=
  { s with log := s.log ++ [⟨c.op, c.target⟩] }

def conflict (kind : Kind) (name : String) : ClusterError :=
  .api kind name (some 409) "already exists"

/-- What a call does that is not made to fail. -/
def perform (s : SimulatedCluster) :
    (c : ClusterCall) → Except ClusterError c.Reply × SimulatedCluster
  | .createClaim c =>
    let name := c.metadata.nameOrEmpty
    match s.claims name with
    | some _ => (.error (conflict .claim name), s)
    | none => (.ok (), s.putClaim name (some c))
  | .getClaim name =>
    match s.claims name with
    | some c => (.ok c, s)
    | none =>
      if s.lingering name = 0 then (.error (.notFound .claim name), s)
      else (.ok { metadata := { name := some name } }, s.linger name (s.lingering name - 1))
  | .deleteClaim name =>
    match s.claims name with
    | none => (.error (.notFound .claim name), s)
    | some c =>
      if c.hasFinalizers then (.ok (), s.setTerminating name true)
      else (.ok (), s.putClaim name none)
  | .clearFinalizers name =>
    match s.claims name with
    | none => (.error (.notFound .claim name), s)
    | some c =>
      if s.terminating name then (.ok (), (s.putClaim name none).setTerminating name false)
      else (.ok (), s.putClaim name (some c.withoutFinalizers))
  | .createDeployment d =>
    let name := d.metadata.nameOrEmpty
    match s.deployments name with
    | some _ => (.error (conflict .deployment name), s)
    | none => (.ok (), s.putDeployment name (some d))
  | .getDeployment name =>
    match s.deployments name with
    | some d => (.ok d, s)
    | none => (.error (.notFound .deployment name), s)
  | .replaceDeployment d =>
    let name := d.metadata.nameOrEmpty
    match s.deployments name with
    | none => (.error (.notFound .deployment name), s)
    | some _ => (.ok (), s.putDeployment name (some d))
  | .deleteDeployment name =>
    match s.deployments name with
    | none => (.error (.notFound .deployment name), s)
    | some _ => (.ok (), s.putDeployment name none)
  | .scaleDeployment name replicas =>
    match s.deployments name with
    | none => (.error (.notFound .deployment name), s)
    | some d => (.ok (), s.putDeployment name (some (d.scaled replicas)))

/-- Every call is recorded, one that is made to fail too. -/
def answer (s : SimulatedCluster) (c : ClusterCall) :
    Except ClusterError c.Reply × SimulatedCluster :=
  let s := s.record c
  if s.failing c.op c.target then
    (.error (.api c.kind c.target (some 500) "injected failure"), s)
  else s.perform c

theorem failing_perform (s : SimulatedCluster) (c : ClusterCall) :
    (s.perform c).2.failing = s.failing := by
  cases c <;> simp only [perform] <;> repeat' split
  all_goals rfl

theorem failing_answer (s : SimulatedCluster) (c : ClusterCall) :
    (s.answer c).2.failing = s.failing := by
  simp only [answer]
  split
  · rfl
  · exact failing_perform _ c

theorem answer_of_failing {s : SimulatedCluster} {c : ClusterCall}
    (h : s.failing c.op c.target = true) :
    s.answer c = (.error (.api c.kind c.target (some 500) "injected failure"), s.record c) :=
  if_pos h

theorem answer_of_not_failing {s : SimulatedCluster} {c : ClusterCall}
    (h : ¬ s.failing c.op c.target = true) :
    s.answer c = (s.record c).perform c :=
  if_neg h

end SimulatedCluster

end Steading
