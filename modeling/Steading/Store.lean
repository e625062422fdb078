import Steading.Server
import Steading.Text.Quoted

/-!
# Stores

What is asked of a store of server records, and how a store can fail. A failure is told from the
outside in: first what was being done, then why it did not work.
-/

namespace Steading

inductive StoreCall
  | find (tenant : TenantId)
  /-- Adds a record for a tenant that has none. -/
  | save (record : ServerRecord)
  /-- Overwrites the server of a record, but not the time it was created. -/
  | update (server : Server)
  /-- Replaces the world of a tenant, if it still has that world and server name. -/
  | updateWorld (tenant : TenantId) (world name : String) (details : WorldDetails)
  /-- Removes a record and answers whether there was one. -/
  | delete (tenant : TenantId)

namespace StoreCall

abbrev Reply : StoreCall → Type
  | find _ => Option ServerRecord
  | save _ => Unit
  | update _ => Unit
  | updateWorld _ _ _ _ => Bool
  | delete _ => Bool

def isWrite : StoreCall → Bool
  | find _ => false
  | _ => true

end StoreCall

/-- Why a column could not be read; columns are counted from zero. -/
inductive ColumnError
  | outOfRange (value : Int) (index : Nat)
  | notAnInteger (index : Nat) (name : String)
  deriving DecidableEq

def ColumnError.message : ColumnError → String
  | outOfRange value index =>
    "Integer " ++ toString value ++ " out of range at index " ++ toString index
  | notAnInteger index name =>
    "Invalid column type Text at index: " ++ toString index ++ ", name: " ++ name

inductive StoreError
  | alreadyStored (tenant : TenantId)
  | noServer (tenant : TenantId)
  /-- The key of the server table is taken. -/
  | keyTaken (tenant : TenantId)
  | serverColumn (cause : ColumnError)
  | badState (tenant : TenantId) (cause : ValidationError)
  | noWorld (tenant : TenantId)
  | worldColumn (tenant : TenantId) (cause : ColumnError)
  | badModifier (key value : String) (cause : ValidationError)
  /-- A failure that was arranged, with its causes. -/
  | arranged (causes : List String)
  deriving DecidableEq

namespace StoreError

/-- From the outside in. -/
def causes : StoreError → List String
  | alreadyStored t => ["server for tenant " ++ t.text ++ " already stored"]
  | noServer t => ["no server row for tenant " ++ t.text]
  | keyTaken t => ["inserting server for tenant " ++ t.text,
      "UNIQUE constraint failed: servers.tenant",
      "Error code 1555: A PRIMARY KEY constraint failed"]
  | serverColumn e => ["reading server row", e.message]
  | badState t e => ["bad state for tenant " ++ t.text, e.message]
  | noWorld t => ["reading world details for tenant " ++ t.text, "Query returned no rows"]
  | worldColumn t e => ["reading world details for tenant " ++ t.text, e.message]
  | badModifier key value e => ["stored modifier " ++ key ++ "=" ++ value, e.message]
  | arranged causes => causes

def message (e : StoreError) : String :=
  ": ".intercalate e.causes

end StoreError

end Steading
