import Steading.Manifest.GameArgs
import Steading.Plan
import Steading.Provision
import Steading.Server.Scale

/-!
# The life of a server

A tenant has no server, or one that runs, or one that is terminated. `create` leads from none to
running, `scale` between running and terminated, `delete` back to none from anywhere, and `patch`
changes how the server is launched.

Requests are checked before anything is read, and nothing is asked of the cluster before the record
says that the operation is possible. The record is written last: after the cluster side is there,
and only once it is gone.
-/

namespace Steading

/-- A program that may break off with a failure. -/
abbrev Operation (α : Type) : Type :=
  ExceptT Failure Program α

namespace Operation

variable {ε α : Type}

/-- Gives the errors of a program their kind. -/
def ofProgram (failure : ε → Failure) (p : Program (Except ε α)) : Operation α :=
  ExceptT.mk (Except.mapError failure <$> p)

def ofExcept (failure : ε → Failure) (r : Except ε α) : Operation α :=
  ExceptT.mk (pure (r.mapError failure))

def call (c : ClusterCall) : Operation c.Reply :=
  ofProgram (fun e => .cluster e.message) (.call c)

def provision (p : Program (Except ProvisionError α)) : Operation α :=
  ofProgram (fun e => .cluster e.message) p

def store (c : StoreCall) : Operation c.Reply :=
  ofProgram (fun e => .persistence e.message) (.request (.store c))

def now : Operation Int64 :=
  ExceptT.lift (.request .now)

def check (r : Except ValidationError α) : Operation α :=
  ofExcept .ofValidation r

end Operation

/-- What all operations have in common: what tenants may use, what their objects look like, and how
long the removal of a claim is waited for. -/
structure Controller where
  plans : PlanTable
  manifests : ManifestConfig
  settle : SettlePolicy
  deriving Inhabited

def findServer (t : TenantId) : Operation (Option ServerRecord) :=
  .store (.find t)

def requireServer (t : TenantId) : Operation ServerRecord := do
  match ← findServer t with
  | some r => return r
  | none => throw (.notFound ("no server for tenant " ++ t.text))

/-- The tenant's server as its record has it. -/
def showServer (t : TenantId) : Operation ServerView := do
  return (← requireServer t).view

/-- The names of the deployment and of the claim go with a tenant's objects in this order: what is
deleted first comes first. -/
def deletionQueue (ns deployment claim : String) : ActionQueue :=
  [.deployment (.named ns deployment), .claim (.named ns claim)]

/-- Points the game container of a deployment at a world. -/
def launchWorld (deployment : String) (w : WorldDetails) : Operation Unit := do
  let d ← .call (.getDeployment deployment)
  match d.setGameArgs? w.launchArgs with
  | some d => .call (.replaceDeployment d)
  | none => throw (.internal ("deployment " ++ deployment ++ " has no game container"))

namespace Controller

variable (c : Controller)

/-- The world that a request comes to under the tenant's plan, and that plan. -/
def settleWorld (t : Tenant) (r : ServerRequest) : Operation (Entitlements × WorldDetails) := do
  let e ← .ofExcept id (c.plans.entitlements t.subscription)
  let instanceId ← ExceptT.lift (.request .freshId)
  return (e, ← .check (WorldDetails.ofRequest r e instanceId))

/-- Clears away a claim that an earlier server left behind. -/
def clearLeftover (t : TenantId) : Operation Unit := do
  if ← ExceptT.lift (claimExists t.claimName) then
    .provision (removeStuckClaim t.claimName)
    .provision (c.settle.waitUntilAbsent t.claimName)

/-- The address of a server whose objects have just been created. Without one they are deleted
again: nobody could reach the server, and no record tells of it yet. -/
def addressOrUndo (t : TenantId) : Operation String := do
  match ← ExceptT.lift (.request .address) with
  | .ok ip => return ip
  | .error e =>
    let _ ← ExceptT.lift (deletionQueue c.manifests.ns t.deploymentName t.claimName).rollback
    throw (.cluster e.message)

def create (t : Tenant) (r : ServerRequest) : Operation ServerView := do
  let _ ← .check r.validate
  if (← findServer t.id).isSome then
    throw (.precondition ("server already exists for tenant " ++ t.id.text))
  let (e, world) ← c.settleWorld t r
  c.clearLeftover t.id
  let queue : ActionQueue :=
    [.claim (tenantClaim c.manifests t.id), .deployment (tenantDeployment c.manifests t.id world)]
  let _ ← .provision (Prod.fst <$> queue.apply)
  let ip ← c.addressOrUndo t.id
  let now ← .now
  let server : Server := {
    tenant := t.id
    ip := ip
    port := world.port
    cpu := world.cpu
    memory := world.memory
    cpuLimit := e.cpu
    memoryLimit := e.memoryGi
    claimName := t.id.claimName
    deploymentName := t.id.deploymentName
    state := .running
    createdAt := now
    updatedAt := now }
  .store (.save ⟨server, world⟩)
  return ServerRecord.view ⟨server, world⟩

/-- What was granted stays as it is on the deployment: only the arguments of the game change. -/
def patch (t : Tenant) (r : ServerRequest) : Operation ServerView := do
  let _ ← .check r.validate
  let old ← requireServer t.id
  let (e, world) ← c.settleWorld t r
  launchWorld old.server.deploymentName world
  let found ← .store (.updateWorld t.id old.world.world old.world.name world)
  if !found then
    throw (.persistence ("world " ++ Text.quoted old.world.world ++ " of server " ++
      Text.quoted old.world.name ++ " not found for tenant " ++ t.id.text))
  let now ← .now
  let server := { old.server with
    port := world.port
    cpuLimit := e.cpu
    memoryLimit := e.memoryGi
    updatedAt := now }
  .store (.update server)
  return ServerRecord.view ⟨server, world⟩

end Controller

/-- The arguments of the game are restored first, in case somebody else has changed them. -/
def scaleServer (t : TenantId) (r : ScaleRequest) : Operation ServerView := do
  let old ← requireServer t
  match old.server.state.scaleTarget r.replicas with
  | none =>
    throw (.precondition ("cannot scale a " ++ old.server.state.name ++ " server to " ++
      toString r.replicas ++ " replicas"))
  | some target =>
    launchWorld old.server.deploymentName old.world
    .call (.scaleDeployment old.server.deploymentName r.replicas)
    let now ← .now
    let server := { old.server with state := target, updatedAt := now }
    .store (.update server)
    return ServerRecord.view ⟨server, old.world⟩

/-- Deletes the objects by the names on record, or by those that the tenant's objects would have;
the record goes last. -/
def Controller.delete (c : Controller) (t : TenantId) : Operation (List String) := do
  let queue :=
    match ← findServer t with
    | some r => deletionQueue c.manifests.ns r.server.deploymentName r.server.claimName
    | none => deletionQueue c.manifests.ns t.deploymentName t.claimName
  let deleted ← .provision (Prod.fst <$> queue.rollback)
  let _ ← .store (.delete t)
  return deleted

/-- An operation that a tenant asks for. -/
inductive Command
  | create (r : ServerRequest)
  | patch (r : ServerRequest)
  | scale (r : ScaleRequest)
  | delete
  | inspect

/-- A server, or the names of what was deleted. -/
inductive Answer
  | server (v : ServerView)
  | deleted (names : List String)
  deriving DecidableEq, Inhabited

namespace Command

/-- Only reading a record needs no exclusive access to the tenant. -/
def isExclusive : Command → Bool
  | inspect => false
  | _ => true

def operation (c : Controller) (t : Tenant) : Command → Operation Answer
  | create r => .server <$> c.create t r
  | patch r => .server <$> c.patch t r
  | scale r => .server <$> scaleServer t.id r
  | delete => .deleted <$> c.delete t.id
  | inspect => .server <$> showServer t.id

def program (c : Controller) (t : Tenant) (command : Command) :
    Program (Except Failure Answer) :=
  (command.operation c t).run

end Command

end Steading
