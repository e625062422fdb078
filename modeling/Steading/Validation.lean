import Steading.Modifier.Key
import Steading.Text.Quoted

/-!
# What can be wrong with what a caller sends

Every fault is found before anything is read or changed.
-/

namespace Steading

/-- The settings of a request that are lengths of time. -/
inductive Interval
  | save
  | initialBackup
  | backup
  deriving DecidableEq

/-- The settings of a request that ask for resources. -/
inductive Resource
  | cpu
  | memory
  deriving DecidableEq

def Interval.field : Interval → String
  | save => "save_interval_secs"
  | initialBackup => "initial_backup_secs"
  | backup => "backup_interval_secs"

def Resource.field : Resource → String
  | cpu => "cpu_requests"
  | memory => "memory_requests"

inductive ValidationError
  | tenantLength
  | tenantLabel
  | unknownState (text : String)
  | nameLength
  | nameCharacters
  | worldName
  | passwordLength
  | passwordCharacters
  | passwordInName
  | port
  | interval (i : Interval)
  | resource (r : Resource)
  | unknownModifier (key : String)
  | modifierValue (key : ModifierKey) (value : String)
  | duplicateModifier (key : ModifierKey)
  deriving DecidableEq

namespace ValidationError

def message : ValidationError → String
  | tenantLength => "tenant: length must be 1..=40"
  | tenantLabel => "tenant: must be a lowercase DNS label"
  | unknownState text => "state: unknown state " ++ Text.quoted text
  | nameLength => "name: length must be 1..=64"
  | nameCharacters => "name: must not contain quotes or control characters"
  | worldName => "world: 1..=64 of [A-Za-z0-9_-]"
  | passwordLength => "password: at least 5 characters"
  | passwordCharacters => "password: must not contain quotes or whitespace"
  | passwordInName => "password: must not be part of the server name"
  | port => "port: must be within 1024..=65534"
  | interval i => i.field ++ ": at least 60 seconds"
  | resource r => r.field ++ ": must be positive"
  | unknownModifier key => "unknown modifier key: " ++ key
  | modifierValue key value =>
    "modifier " ++ key.name ++ ": value " ++ Text.quoted value ++ " not one of " ++
      "|".intercalate key.allowed
  | duplicateModifier key => "modifier " ++ key.name ++ " given more than once"

end ValidationError

end Steading
