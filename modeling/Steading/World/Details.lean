import Steading.Entitlement
import Steading.World.Request

/-!
# World details

The launch configuration of a server: a request whose open fields are filled in and whose demands
are held below the entitlements. The instance id tells one launch configuration from the next and
is not for callers to see.
-/

namespace Steading

structure WorldDetails where
  name : String
  world : String
  port : UInt16
  password : String
  crossplay : Bool
  isPublic : Bool
  saveInterval : UInt32
  backupCount : UInt32
  initialBackup : UInt32
  backupInterval : UInt32
  cpu : UInt32
  memory : UInt32
  instanceId : String
  modifiers : List Modifier
  deriving DecidableEq, Inhabited

namespace WorldDetails

def defaultPort : UInt16 := 2456
def defaultBackups : UInt32 := 4
def defaultInitialBackup : UInt32 := 7200
def defaultBackupInterval : UInt32 := 43200
def defaultSaveInterval : UInt32 := 1800

/-- What a faultless request comes to. -/
def fill (r : ServerRequest) (e : Entitlements) (instanceId : String)
    (modifiers : List Modifier) : WorldDetails where
  name := Text.trim r.name
  world := r.world
  port := r.port.getD defaultPort
  password := r.password
  crossplay := r.crossplay
  isPublic := r.isPublic
  saveInterval := r.saveInterval.getD defaultSaveInterval
  backupCount := clampToCeiling (some (r.backupCount.getD defaultBackups)) e.maxBackups
  initialBackup := r.initialBackup.getD defaultInitialBackup
  backupInterval := r.backupInterval.getD defaultBackupInterval
  cpu := clampToCeiling r.cpu e.cpu
  memory := clampToCeiling r.memory e.memoryGi
  instanceId := instanceId
  modifiers := modifiers

def ofRequest (r : ServerRequest) (e : Entitlements) (instanceId : String) :
    Except ValidationError WorldDetails :=
  match r.validate with
  | .ok modifiers => .ok (fill r e instanceId modifiers)
  | .error fault => .error fault

/-- What callers get to see. -/
def redacted (w : WorldDetails) : WorldDetails :=
  { w with instanceId := "" }

open Json

def fields : List String :=
  ["name", "world", "port", "password", "crossplay", "public", "save_interval_secs",
    "backup_count", "initial_backup_secs", "backup_interval_secs", "cpu_requests",
    "memory_requests", "instance_id", "modifiers"]

/-- An empty instance id is left out. -/
def toJson (w : WorldDetails) : Json :=
  .obj ([("name", .str w.name), ("world", .str w.world), ("port", uint16 w.port),
    ("password", .str w.password), ("crossplay", .bool w.crossplay),
    ("public", .bool w.isPublic), ("save_interval_secs", uint32 w.saveInterval),
    ("backup_count", uint32 w.backupCount), ("initial_backup_secs", uint32 w.initialBackup),
    ("backup_interval_secs", uint32 w.backupInterval), ("cpu_requests", uint32 w.cpu),
    ("memory_requests", uint32 w.memory)] ++
    (if w.instanceId.isEmpty then [] else [("instance_id", .str w.instanceId)]) ++
    [("modifiers", .arr (w.modifiers.map Modifier.toJson))])

def ofJson? (j : Json) : Option WorldDetails :=
  match slots fields j with
  | some [name, world, port, password, crossplay, isPublic, save, backups, initial, interval, cpu,
      memory, instanceId, modifiers] => do
    return {
      name := ← name.required str?
      world := ← world.required str?
      port := ← port.required uint16?
      password := ← password.required str?
      crossplay := ← crossplay.required bool?
      isPublic := ← isPublic.required bool?
      saveInterval := ← save.required uint32?
      backupCount := ← backups.required uint32?
      initialBackup := ← initial.required uint32?
      backupInterval := ← interval.required uint32?
      cpu := ← cpu.required uint32?
      memory := ← memory.required uint32?
      instanceId := ← instanceId.withDefault "" str?
      modifiers := ← modifiers.withDefault [] (list? Modifier.ofJson?) }
  | _ => none

end WorldDetails

end Steading
