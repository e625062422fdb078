import Steading.Json.Reader
import Steading.Json.Writer
import Steading.Store.Tables

/-!
# Stores as documents

A store as the text of a list of its records, in which it can be kept from one run to the next. A
text without any content is a store without records.
-/

namespace Steading

namespace TableStore

/-- The store of records that are saved one after the other. -/
def ofRecords (rs : List ServerRecord) : TableStore :=
  rs.foldl (fun s r => (s.answer (.save r)).2) .empty

/-- The records that can be read, in the order of their rows. -/
def records (s : TableStore) : List ServerRecord :=
  s.servers.filterMap fun row =>
    match TenantId.parse row.tenant with
    | .ok t =>
      match s.find t with
      | .ok r => r
      | .error _ => none
    | .error _ => none

def document (s : TableStore) : String :=
  (Json.arr (s.records.map ServerRecord.toJson)).pretty ++ "\n"

def ofDocument? (text : String) : Option TableStore :=
  if text.isEmpty then some .empty
  else ((Json.parse text).bind (Json.list? ServerRecord.ofJson?)).map ofRecords

end TableStore

end Steading
