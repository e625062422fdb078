import Steading.Server.State
import Steading.Tenant
import Steading.World.Details

/-!
# Servers and their records

One server a tenant: what was provisioned and how large, and with it the launch configuration it
was provisioned with.
-/

namespace Steading

/-- `cpu` and `memory` are what was granted; the limits are what the plan allowed when the server
was last created or changed. -/
structure Server where
  tenant : TenantId
  ip : String
  port : UInt16
  cpu : UInt32
  memory : UInt32
  cpuLimit : UInt32
  memoryLimit : UInt32
  claimName : String
  deploymentName : String
  state : ServerState
  createdAt : Int64
  updatedAt : Int64
  deriving DecidableEq, Inhabited

structure ServerRecord where
  server : Server
  world : WorldDetails
  deriving DecidableEq, Inhabited

/-- What callers get back: a record without its instance id. -/
structure ServerView where
  server : Server
  world : WorldDetails
  deriving DecidableEq, Inhabited

def ServerRecord.view (r : ServerRecord) : ServerView :=
  ⟨r.server, r.world.redacted⟩

open Json

namespace Server

def fields : List String :=
  ["tenant", "server_ip", "port", "cpu_requests", "memory_requests", "cpu_limit", "memory_limit",
    "pvc_name", "deployment_name", "state", "created_at", "updated_at"]

def toJson (s : Server) : Json :=
  .obj [("tenant", s.tenant.toJson), ("server_ip", .str s.ip), ("port", uint16 s.port),
    ("cpu_requests", uint32 s.cpu), ("memory_requests", uint32 s.memory),
    ("cpu_limit", uint32 s.cpuLimit), ("memory_limit", uint32 s.memoryLimit),
    ("pvc_name", .str s.claimName), ("deployment_name", .str s.deploymentName),
    ("state", s.state.toJson), ("created_at", int64 s.createdAt), ("updated_at", int64 s.updatedAt)]

def ofJson? (j : Json) : Option Server :=
  match slots fields j with
  | some [tenant, ip, port, cpu, memory, cpuLimit, memoryLimit, claim, deployment, state, created,
      updated] => do
    return {
      tenant := ← tenant.required TenantId.ofJson?
      ip := ← ip.required str?
      port := ← port.required uint16?
      cpu := ← cpu.required uint32?
      memory := ← memory.required uint32?
      cpuLimit := ← cpuLimit.required uint32?
      memoryLimit := ← memoryLimit.required uint32?
      claimName := ← claim.required str?
      deploymentName := ← deployment.required str?
      state := ← state.required ServerState.ofJson?
      createdAt := ← created.required int64?
      updatedAt := ← updated.required int64? }
  | _ => none

end Server

def ServerRecord.toJson (r : ServerRecord) : Json :=
  .obj [("server", r.server.toJson), ("world", r.world.toJson)]

def ServerRecord.ofJson? (j : Json) : Option ServerRecord :=
  match slots ["server", "world"] j with
  | some [server, world] => do
    return ⟨← server.required Server.ofJson?, ← world.required WorldDetails.ofJson?⟩
  | _ => none

def ServerView.toJson (v : ServerView) : Json :=
  .obj [("server", v.server.toJson), ("world", v.world.toJson)]

def ServerView.ofJson? (j : Json) : Option ServerView :=
  match slots ["server", "world"] j with
  | some [server, world] => do
    return ⟨← server.required Server.ofJson?, ← world.required WorldDetails.ofJson?⟩
  | _ => none

end Steading
