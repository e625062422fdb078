import Steading.Plan
import Steading.World.Request
import Steading.Yaml.Decode

/-!
# Requests and plan tables in YAML

What people write by hand: the request for a server, and the table of plans.
-/

namespace Steading

open Yaml

def ModifierInput.ofYaml : Reader ModifierInput := fun a n => do
  match ← slots ["key", "value"] a n with
  | [key, value] => return ⟨← key.required a Reader.text, ← value.required a Reader.text⟩
  | _ => none

def ServerRequest.ofYaml : Reader ServerRequest := fun a n => do
  match ← slots ServerRequest.fields a n with
  | [name, world, password, port, crossplay, isPublic, save, backups, initial, interval, cpu,
      memory, modifiers] =>
    let number (s : Yaml.Slot) : Option (Option UInt32) :=
      s.withDefault a none (Reader.nullable Reader.uint32)
    return {
      name := ← name.required a Reader.text
      world := ← world.required a Reader.text
      password := ← password.required a Reader.text
      port := ← port.withDefault a none (Reader.nullable Reader.uint16)
      crossplay := ← crossplay.withDefault a false Reader.bool
      isPublic := ← isPublic.withDefault a true Reader.bool
      saveInterval := ← number save
      backupCount := ← number backups
      initialBackup := ← number initial
      backupInterval := ← number interval
      cpu := ← number cpu
      memory := ← number memory
      modifiers := ← modifiers.withDefault a [] (Reader.list ModifierInput.ofYaml) }
  | _ => none

def ServerRequest.ofText? (text : String) : Option ServerRequest :=
  Yaml.read? ServerRequest.ofYaml text

def Entitlements.ofYaml : Reader Entitlements := fun a n => do
  match ← slots Entitlements.fields a n with
  | [cpu, memory, backups, worlds, upload] =>
    return ⟨← cpu.required a Reader.uint32, ← memory.required a Reader.uint32,
      ← backups.required a Reader.uint32, ← worlds.required a Reader.uint32,
      ← upload.withDefault a false Reader.bool⟩
  | _ => none

def PlanTable.ofYaml : Reader PlanTable := fun a n => do
  match ← slots ["plans", "fallback"] a n with
  | [plans, fallback] =>
    return ofEntries (← plans.withDefault a [] (Reader.entries Entitlements.ofYaml))
      (← fallback.withDefault a none (Reader.nullable Entitlements.ofYaml))
  | _ => none

def PlanTable.ofText? (text : String) : Option PlanTable :=
  Yaml.read? PlanTable.ofYaml text

end Steading
