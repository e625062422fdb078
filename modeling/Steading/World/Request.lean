import Steading.Modifier

/-!
# Server requests

What a client sends to create a server or to change one, and the rules it has to keep.
-/

namespace Steading

structure ServerRequest where
  name : String
  world : String
  password : String
  port : Option UInt16
  crossplay : Bool
  isPublic : Bool
  saveInterval : Option UInt32
  backupCount : Option UInt32
  initialBackup : Option UInt32
  backupInterval : Option UInt32
  cpu : Option UInt32
  memory : Option UInt32
  modifiers : List ModifierInput
  deriving DecidableEq, Inhabited

def isWorldChar (c : Char) : Bool :=
  c.isAlphanum || c == '_' || c == '-'

def isWorldName (s : String) : Bool :=
  0 < s.length && s.length ≤ 64 && s.toList.all isWorldChar

/-- An interval that is given but shorter than a minute. -/
def tooShort (seconds : Option UInt32) : Bool :=
  seconds.any (· < 60)

namespace ServerRequest

/-- What can be wrong with the fields other than the modifiers, each with whether it is; the first
that is gets reported. The name counts without the blanks around it, and the game refuses to start
when the password is part of the name. -/
def faults (r : ServerRequest) : List (Bool × ValidationError) :=
  let name := Text.trim r.name
  [(name.isEmpty || 64 < name.length, .nameLength),
    (name.toList.any fun c => c == '"' || Text.isControl c, .nameCharacters),
    (!isWorldName r.world, .worldName),
    (r.password.length < 5, .passwordLength),
    (r.password.toList.any fun c => c == '"' || Text.isBlank c, .passwordCharacters),
    (Text.occursIn r.password.toList name.toList, .passwordInName),
    (r.port.any fun p => p < 1024 || 65534 < p, .port),
    (tooShort r.saveInterval, .interval .save),
    (tooShort r.initialBackup, .interval .initialBackup),
    (tooShort r.backupInterval, .interval .backup),
    (r.cpu == some 0, .resource .cpu),
    (r.memory == some 0, .resource .memory)]

/-- The modifiers of a request that has no fault. -/
def validate (r : ServerRequest) : Except ValidationError (List Modifier) :=
  match r.faults.find? (·.1) with
  | some fault => .error fault.2
  | none => Modifier.parseAll r.modifiers

open Json

def fields : List String :=
  ["name", "world", "password", "port", "crossplay", "public", "save_interval_secs",
    "backup_count", "initial_backup_secs", "backup_interval_secs", "cpu_requests",
    "memory_requests", "modifiers"]

def toJson (r : ServerRequest) : Json :=
  .obj [("name", .str r.name), ("world", .str r.world), ("password", .str r.password),
    ("port", ofOption uint16 r.port), ("crossplay", .bool r.crossplay),
    ("public", .bool r.isPublic), ("save_interval_secs", ofOption uint32 r.saveInterval),
    ("backup_count", ofOption uint32 r.backupCount),
    ("initial_backup_secs", ofOption uint32 r.initialBackup),
    ("backup_interval_secs", ofOption uint32 r.backupInterval),
    ("cpu_requests", ofOption uint32 r.cpu), ("memory_requests", ofOption uint32 r.memory),
    ("modifiers", .arr (r.modifiers.map ModifierInput.toJson))]

def ofJson? (j : Json) : Option ServerRequest :=
  match slots fields j with
  | some [name, world, password, port, crossplay, isPublic, save, backups, initial, interval, cpu,
      memory, modifiers] => do
    return {
      name := ← name.required str?
      world := ← world.required str?
      password := ← password.required str?
      port := ← port.withDefault none (nullable uint16?)
      crossplay := ← crossplay.withDefault false bool?
      isPublic := ← isPublic.withDefault true bool?
      saveInterval := ← save.withDefault none (nullable uint32?)
      backupCount := ← backups.withDefault none (nullable uint32?)
      initialBackup := ← initial.withDefault none (nullable uint32?)
      backupInterval := ← interval.withDefault none (nullable uint32?)
      cpu := ← cpu.withDefault none (nullable uint32?)
      memory := ← memory.withDefault none (nullable uint32?)
      modifiers := ← modifiers.withDefault [] (list? ModifierInput.ofJson?) }
  | _ => none

end ServerRequest

end Steading
