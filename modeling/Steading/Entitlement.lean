import Steading.Json.Decode

/-!
# Entitlements

What a subscription allows a tenant, and how a request is held below it.
-/

namespace Steading

structure Entitlements where
  cpu : UInt32
  memoryGi : UInt32
  maxBackups : UInt32
  maxWorlds : UInt32
  worldUpload : Bool
  deriving DecidableEq, Inhabited

/-- The requested amount as far as the ceiling allows it; no request asks for the ceiling. -/
def clampToCeiling (requested : Option UInt32) (ceiling : UInt32) : UInt32 :=
  match requested with
  | some v => min v ceiling
  | none => ceiling

open Json

def Entitlements.toJson (e : Entitlements) : Json :=
  .obj [("cpu", uint32 e.cpu), ("memory_gi", uint32 e.memoryGi),
    ("max_backups", uint32 e.maxBackups), ("max_worlds", uint32 e.maxWorlds),
    ("world_upload", .bool e.worldUpload)]

def Entitlements.fields : List String :=
  ["cpu", "memory_gi", "max_backups", "max_worlds", "world_upload"]

def Entitlements.ofJson? (j : Json) : Option Entitlements :=
  match slots fields j with
  | some [cpu, memory, backups, worlds, upload] => do
    return ⟨← cpu.required uint32?, ← memory.required uint32?, ← backups.required uint32?,
      ← worlds.required uint32?, ← upload.withDefault false bool?⟩
  | _ => none

end Steading
