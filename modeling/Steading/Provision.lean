import Steading.Program
import Steading.Settle

/-!
# Provisioning

Objects are put into the cluster one after the other, in the order they were queued. If one cannot
be created, every queued object is deleted again, the newest first, whether it had been created or
not. A queue can also be rolled back on purpose, which deletes what it can and reports the rest.
-/

namespace Steading

/-- An object to create, or to delete by its name. -/
inductive Action
  | deployment (d : Deployment)
  | claim (c : Claim)

namespace Action

def kind : Action → Kind
  | deployment _ => .deployment
  | claim _ => .claim

def name : Action → String
  | deployment d => d.metadata.nameOrEmpty
  | claim c => c.metadata.nameOrEmpty

def create : Action → Program (Except ClusterError Unit)
  | deployment d => .call (.createDeployment d)
  | claim c => .call (.createClaim c)

def delete : Action → Program (Except ClusterError Unit)
  | deployment d => .call (.deleteDeployment d.metadata.nameOrEmpty)
  | claim c => .call (.deleteClaim c.metadata.nameOrEmpty)

/-- Deletes the object; one that is not there is as good as deleted. -/
def undo (a : Action) : Program (Except ClusterError Unit) := do
  match ← a.delete with
  | .ok () => return .ok ()
  | .error e => return if e.isNotFound then .ok () else .error e

end Action

inductive ProvisionError
  /-- An object could not be created; those before it had been. -/
  | create (name : String) (created : List String) (cause : ClusterError)
  | rollback (deleted failed : List String)
  | stillPresent (name : String) (timeout : Duration)
  | cluster (cause : ClusterError)
  deriving DecidableEq, Inhabited

def ProvisionError.message : ProvisionError → String
  | create name _ cause => "applying " ++ name ++ " failed: " ++ cause.message
  | rollback _ failed => "rollback incomplete: " ++ "; ".intercalate failed
  | stillPresent name timeout => name ++ " still present after " ++ toString timeout.secs ++ "s"
  | cluster cause => cause.message

/-- Objects that wait to be created or deleted, the oldest first. -/
abbrev ActionQueue : Type :=
  List Action

namespace ActionQueue

/-- Deletes what can be deleted and says nothing of the rest. -/
def undoAll : List Action → Program Unit
  | [] => return ()
  | a :: rest => do
    let _ ← a.undo
    undoAll rest

/-- Creates the objects that are left of a queue, and undoes the whole queue on a failure. -/
def createFrom (q : ActionQueue) (created : List String) :
    List Action → Program (Except ProvisionError (List String))
  | [] => return .ok created
  | a :: rest => do
    match ← a.create with
    | .ok () => createFrom q (created ++ [a.name]) rest
    | .error e => do
      undoAll q.reverse
      return .error (.create a.name created e)

/-- Creates the queued objects; the queue is empty afterwards, however it went. -/
def apply (q : ActionQueue) : Program (Except ProvisionError (List String) × ActionQueue) := do
  return (← createFrom q [] q, [])

/-- Deletes the objects that are left, behind those `deleted` and those that `failed`. -/
def deleteFrom (deleted failed : List String) :
    List Action → Program (Except ProvisionError (List String))
  | [] => return if failed.isEmpty then .ok deleted else .error (.rollback deleted failed)
  | a :: rest => do
    match ← a.undo with
    | .ok () => deleteFrom (deleted ++ [a.name]) failed rest
    | .error e => deleteFrom deleted (failed ++ [e.message]) rest

/-- Deletes the queued objects; the queue is empty afterwards, however it went. -/
def rollback (q : ActionQueue) : Program (Except ProvisionError (List String) × ActionQueue) := do
  return (← deleteFrom [] [] q, [])

end ActionQueue

/-- Whether a claim is there; one that cannot be looked up counts as absent. -/
def claimExists (name : String) : Program Bool := do
  match ← .call (.getClaim name) with
  | .ok _ => return true
  | .error _ => return false

/-- Clears the finalizers of a claim and deletes it; a claim that is not there is left alone. -/
def removeStuckClaim (name : String) : Program (Except ProvisionError Unit) := do
  match ← .call (.clearFinalizers name) with
  | .error e => return if e.isNotFound then .ok () else .error (.cluster e)
  | .ok () =>
    match ← .call (.deleteClaim name) with
    | .error e => return if e.isNotFound then .ok () else .error (.cluster e)
    | .ok () => return .ok ()

namespace SettlePolicy

/-- Thirty years, for deadlines too far away to be written down. -/
def forever : Nat :=
  86400 * 365 * 30 * 1000000000

/-- How long may be waited, in nanoseconds. A point in time has its seconds in 63 bits. -/
def patience (p : SettlePolicy) : Nat :=
  if p.timeout.secs < 0x8000000000000000 then p.timeout.nanos else forever

/-- How often in a row a pause may be empty. That a lookup takes time too is not told here: where the
pauses of a policy are empty and nothing else goes by, so many lookups stand for all the time that
is left. No setting makes such a policy. -/
def emptyPauses : Nat :=
  100000

/-- Looks for a claim until it is gone or nothing is `left` of the time. Between two lookups it
pauses for `backoff`, or for what is left if that is less; the next pause is twice as long, up to
the longest of the policy. -/
def waitFor (p : SettlePolicy) (name : String) (left : Nat) (backoff : Duration) (empty : Nat) :
    Program (Except ProvisionError Unit) := do
  if ← claimExists name then
    if left = 0 then return .error (.stillPresent name p.timeout)
    else if 0 < backoff.nanos then
      .ask (.pause (min backoff.nanos left)) fun _ =>
        waitFor p name (left - min backoff.nanos left) (min backoff.double p.maxBackoff) empty
    else
      match empty with
      | 0 => return .error (.stillPresent name p.timeout)
      | empty + 1 =>
        .ask (.pause 0) fun _ => waitFor p name left (min backoff.double p.maxBackoff) empty
  else return .ok ()
  termination_by (left, empty)

/-- Waits for a claim to go. -/
def waitUntilAbsent (p : SettlePolicy) (name : String) : Program (Except ProvisionError Unit) :=
  waitFor p name p.patience p.initialBackoff emptyPauses

end SettlePolicy

end Steading
