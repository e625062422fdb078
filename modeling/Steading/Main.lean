import Steading.CommandLine.Rehearsal
import Steading.Store.Document

/-!
# The program

Prints what an invocation comes to. No way to a cluster is known here, so that only records can be
shown; they are kept in a file.
-/

namespace Steading

namespace CommandLine

/-- The variables that an invocation may depend on. -/
def environment : IO (String → Option String) := do
  let names := ["HOME", "LONGHALL_TENANT", "LONGHALL_SUBSCRIPTION"] ++ Settings.keys
  let values ← names.mapM fun name => return (name, ← IO.getEnv name)
  return fun name => (values.lookup name).join

/-- What an action comes to, unless it fails. -/
def attempt {α : Type} (action : IO α) : IO (Option α) := do
  try
    return some (← action)
  catch _ => return none

/-- The records at a path; where there is no file yet an empty one is made. -/
def readStore (path : String) : IO (Except StartError TableStore) := do
  if !isKept path then return .ok .empty
  if (← attempt (IO.FS.Handle.mk path .append)).isNone then return .error (.storeUnreachable path)
  match (← attempt (IO.FS.readFile path)).bind TableStore.ofDocument? with
  | some store => return .ok store
  | none => return .error .storeMalformed

def surroundings (env : String → Option String) : Surroundings IO where
  env := env
  file := fun path => attempt (IO.FS.readFile path)
  input := do attempt (← IO.getStdin).readToEnd
  knowsCluster := return false
  store := fun path => do
    if let some directory := storeDirectory? env then
      let _ ← attempt (IO.FS.createDirAll directory)
    readStore path

end CommandLine

end Steading

open Steading CommandLine

def main (words : List String) : IO UInt32 := do
  let outcome ← rehearse (surroundings (← environment)) [] .unreachable 0 words
  (← IO.getStdout).putStr outcome.report.output
  (← IO.getStderr).putStr outcome.report.errors
  return outcome.report.exit
