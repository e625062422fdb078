import Steading.CommandLine.Help
import Steading.CommandLine.Session
import Steading.Json.Writer

/-!
# What a run prints

A server is shown as a table of one row or as an object. A run that fails says so on the error
output, except that a program which reads objects gets the failure as an object too.
-/

namespace Steading

namespace CommandLine

structure Report where
  exit : UInt32
  output : String
  errors : String
  deriving DecidableEq, Inhabited

/-- The headings of the table. -/
def heading : String :=
  "TENANT          STATE        ADDRESS              CPU  MEM(Gi)  WORLD"

/-- The tenant and the state take only the room they need. -/
def row (v : ServerView) : String :=
  let address := v.server.ip ++ ":" ++ toString v.server.port
  " ".intercalate [v.server.tenant.text, v.server.state.name, Text.padRight 20 address,
    Text.padRight 4 (toString v.server.cpu), Text.padRight 8 (toString v.server.memory),
    v.world.world]

def answerTable : Answer → String
  | .server v => heading ++ "\n" ++ row v ++ "\n"
  | .deleted names => String.join (names.map fun n => "deleted " ++ n ++ "\n")

def answerObject : Answer → Json
  | .server v => v.toJson
  | .deleted names => Json.strs names

namespace Report

def ofHalt (env : String → Option String) : Halt → Report
  | .misuse => ⟨2, "", "error: invalid arguments\n\n" ++ usageLine none ++
      "\nFor more information, try '--help'.\n"⟩
  | .version => ⟨0, programName ++ " " ++ version ++ "\n", ""⟩
  | .help about => ⟨0, helpOn env about, ""⟩

def ofStartError (e : StartError) : Report :=
  ⟨1, "", "Error: " ++ e.message ++ "\n"⟩

def ofResult : OutputForm → Except Failure Answer → Report
  | .human, .ok a => ⟨0, answerTable a, ""⟩
  | .json, .ok a => ⟨0, (answerObject a).pretty ++ "\n", ""⟩
  | .human, .error f => ⟨1, "", "error: " ++ f.message ++ "\n"⟩
  | .json, .error f => ⟨1, (Json.obj [("error", f.toJson)]).pretty ++ "\n", ""⟩

end Report

end CommandLine

end Steading
