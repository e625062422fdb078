import Steading.World.Details

/-!
# The launch string

The arguments a game server is started with, on one line with a single space between any two. Two
processes read them: the game, and the sidecar that follows the log file named at the end. Names,
worlds and passwords are put between quotes; none of them may hold a quote, so nothing is escaped.
-/

namespace Steading

/-- The directory that the game and the sidecar share. -/
def logDirectory : String := "/valheim/logs"

def logFile : String := "/valheim/logs/server.log"

inductive LaunchToken
  | bare (text : String)
  | quoted (text : String)
  deriving DecidableEq

namespace LaunchToken

def text : LaunchToken → String
  | bare s => s
  | quoted s => s

def render : LaunchToken → String
  | bare s => s
  | quoted s => "\"" ++ s ++ "\""

end LaunchToken

open LaunchToken

def Modifier.launchTokens (m : Modifier) : List LaunchToken :=
  [bare "-modifier", bare m.key.name, bare m.value]

namespace WorldDetails

def launchTokens (w : WorldDetails) : List LaunchToken :=
  [bare "-name", quoted w.name, bare "-port", bare (toString w.port),
    bare "-world", quoted w.world, bare "-password", quoted w.password,
    bare "-instanceid", bare w.instanceId, bare "-backups", bare (toString w.backupCount),
    bare "-backupshort", bare (toString w.initialBackup),
    bare "-backuplong", bare (toString w.backupInterval)] ++
  (if w.crossplay then [bare "-crossplay"] else []) ++
  [bare "-public", bare (if w.isPublic then "1" else "0")] ++
  w.modifiers.flatMap Modifier.launchTokens ++
  [bare "-logFile", bare logFile]

def launchArgs (w : WorldDetails) : String :=
  " ".intercalate (w.launchTokens.map render)

end WorldDetails

end Steading
