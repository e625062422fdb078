import Steading.Cluster.Http
import Steading.CommandLine.Arguments
import Steading.Lifecycle
import Steading.Store.Tables
import Steading.World.Yaml

/-!
# From an invocation to an operation

What a run needs is fetched in a fixed order: the tenant, the request, the cluster, the records and
the plans. The first thing that is missing ends the run, and nothing behind it is looked at. Only
the records are needed to show a server.
-/

namespace Steading

namespace CommandLine

/-- What keeps an operation from starting. -/
inductive StartError
  | tenantMissing
  | tenant (e : ValidationError)
  | requestUnreadable (source : Source)
  | requestMalformed
  | clusterUnknown
  | storeUnreachable (path : String)
  | storeMalformed
  | plansUnreadable (path : String)
  | plansMalformed
  deriving DecidableEq, Inhabited

def StartError.message : StartError → String
  | tenantMissing => "--tenant (or LONGHALL_TENANT) is required"
  | tenant e => e.message
  | requestUnreadable .input => "reading request from stdin"
  | requestUnreadable (.file path) => "reading " ++ path
  | requestMalformed => "parsing server request"
  | clusterUnknown => "creating kube client from default config"
  | storeUnreachable path => "opening sqlite db at " ++ path
  | storeMalformed => "creating tables"
  | plansUnreadable path => "reading plan table " ++ path
  | plansMalformed => "parsing plan table"

/-- What a run finds around it, once it looks. -/
structure Surroundings (m : Type → Type) where
  env : String → Option String
  /-- The text of a file that can be read. -/
  file : String → m (Option String)
  input : m (Option String)
  /-- Whether it is known how to reach a cluster. -/
  knowsCluster : m Bool
  /-- The records that are kept at a path. -/
  store : String → m (Except StartError TableStore)

/-- How the address of a server is found. -/
inductive AddressSource
  | fixed (address : String)
  | service (url : String)
  deriving DecidableEq, Inhabited

/-- Everything an operation needs. -/
structure Session where
  tenant : Tenant
  command : Command
  controller : Controller
  cluster : HttpCluster
  address : AddressSource
  store : TableStore

section

variable {m : Type → Type} [Monad m] (s : Surroundings m)

namespace Surroundings

def text : Source → m (Option String)
  | .input => s.input
  | .file path => s.file path

def request (source : Source) : ExceptT StartError m ServerRequest := do
  match ← s.text source with
  | none => throw (.requestUnreadable source)
  | some text =>
    match ServerRequest.ofText? text with
    | some r => return r
    | none => throw .requestMalformed

/-- The table of plans at a path, or the one that comes with the program. -/
def plans : Option String → ExceptT StartError m PlanTable
  | none => return .builtin
  | some path => do
    match ← s.file path with
    | none => throw (.plansUnreadable path)
    | some text =>
      match PlanTable.ofText? text with
      | some plans => return plans
      | none => throw .plansMalformed

end Surroundings

def Job.command : Job → ExceptT StartError m Command
  | create source => Command.create <$> s.request source
  | patch source => Command.patch <$> s.request source
  | scale r => return .scale r
  | delete => return .delete
  | inspect => return .inspect

end

/-- The path of a name in a directory. -/
def joinPath (directory name : String) : String :=
  if directory.isEmpty || directory.endsWith "/" then directory ++ name
  else directory ++ "/" ++ name

/-- The directory that is made for the records if nothing says where they are. -/
def storeDirectory? (env : String → Option String) : Option String :=
  match env "LONGHALL_DB_PATH", env "HOME" with
  | none, some home => some (joinPath home ".longhall")
  | _, _ => none

/-- Where the records are if the settings do not say it. A setting of nothing but blanks is taken
as it is. -/
def defaultStorePath (env : String → Option String) : String :=
  match env "LONGHALL_DB_PATH" with
  | some path => path
  | none =>
    match storeDirectory? env with
    | some directory => joinPath directory "longhall.db"
    | none => "longhall.db"

def storePath (env : String → Option String) : String :=
  (Settings.fromLookup env).dbPath.getD (defaultStorePath env)

/-- Nothing is kept at some paths: every run finds them empty. -/
def isKept (path : String) : Bool :=
  path != "" && path != ":memory:"

namespace Invocation

def requireTenant (i : Invocation) : Except StartError Tenant :=
  match i.tenant with
  | none => .error .tenantMissing
  | some raw =>
    match TenantId.parse raw with
    | .ok id => .ok ⟨id, i.subscription⟩
    | .error e => .error (.tenant e)

/-- The settings, with what the invocation puts in their place. -/
def settings (env : String → Option String) (i : Invocation) : Settings :=
  let settings := Settings.fromLookup env
  let ns := i.ns.getD settings.manifests.ns
  { settings with manifests := { settings.manifests with ns := ns } }

def start {m : Type → Type} [Monad m] (s : Surroundings m) (i : Invocation) :
    ExceptT StartError m Session := do
  let settings := i.settings s.env
  let tenant ← ExceptT.mk (pure i.requireTenant)
  let command ← i.job.command s
  if command.isExclusive then
    if !(← s.knowsCluster) then throw .clusterUnknown
  let store ← ExceptT.mk (s.store (storePath s.env))
  let plans ← if command.isExclusive then s.plans settings.plansPath else pure .builtin
  return {
    tenant := tenant
    command := command
    controller := ⟨plans, settings.manifests, settings.settle⟩
    cluster := ⟨settings.manifests.ns, settings.callTimeout⟩
    address := match i.ingressIp with
      | some ip => .fixed ip
      | none => .service settings.ingressUrl
    store := store }

end Invocation

def Session.program (s : Session) : Program (Except Failure Answer) :=
  s.command.program s.controller s.tenant

end CommandLine

end Steading
