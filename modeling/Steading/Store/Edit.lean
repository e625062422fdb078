import Steading.Store.Tables

/-!
# Editing the tables from elsewhere

Rows can be changed by other programs, which know the tables and their columns by name and need not
keep to what this library writes. A column of texts turns a number into its digits, and a column of
numbers turns the digits of an integer into the number.
-/

namespace Steading

namespace Cell

def asText : Cell → String
  | integer n => toString n
  | text s => s

/-- The digits of an integer, with an optional sign and blanks around it. -/
def integer? (s : String) : Option Int :=
  let isSpace (c : Char) := c == ' ' || ('\t' ≤ c && c ≤ '\r')
  let cs := ((s.toList.dropWhile isSpace).reverse.dropWhile isSpace).reverse
  let (negative, ds) := match cs with
    | '-' :: ds => (true, ds)
    | '+' :: ds => (false, ds)
    | ds => (false, ds)
  if ds.isEmpty || !ds.all Char.isDigit then none
  else
    let n : Int := ds.foldl (fun n d => n * 10 + (d.toNat - '0'.toNat)) 0
    let n := if negative then -n else n
    if -0x8000000000000000 ≤ n ∧ n < 0x8000000000000000 then some n else none

def asNumber : Cell → Cell
  | integer n => integer n
  | text s =>
    match integer? s with
    | some n => integer n
    | none => text s

end Cell

inductive Table
  | servers
  | worlds
  | modifiers
  deriving DecidableEq

def Table.ofName? : String → Option Table
  | "servers" => some servers
  | "world_details" => some worlds
  | "modifiers" => some modifiers
  | _ => none

def ServerRow.set? (r : ServerRow) (column : String) (v : Cell) : Option ServerRow :=
  match column with
  | "tenant" => some { r with tenant := v.asText }
  | "server_ip" => some { r with ip := v.asText }
  | "port" => some { r with port := v.asNumber }
  | "cpu_requests" => some { r with cpu := v.asNumber }
  | "memory_requests" => some { r with memory := v.asNumber }
  | "cpu_limit" => some { r with cpuLimit := v.asNumber }
  | "memory_limit" => some { r with memoryLimit := v.asNumber }
  | "pvc_name" => some { r with claimName := v.asText }
  | "deployment_name" => some { r with deploymentName := v.asText }
  | "state" => some { r with state := v.asText }
  | "created_at" => some { r with createdAt := v.asNumber }
  | "updated_at" => some { r with updatedAt := v.asNumber }
  | _ => none

def WorldRow.set? (r : WorldRow) (column : String) (v : Cell) : Option WorldRow :=
  match column with
  | "tenant" => some { r with tenant := v.asText }
  | "name" => some { r with name := v.asText }
  | "world" => some { r with world := v.asText }
  | "port" => some { r with port := v.asNumber }
  | "password" => some { r with password := v.asText }
  | "crossplay" => some { r with crossplay := v.asNumber }
  | "public" => some { r with isPublic := v.asNumber }
  | "save_interval_secs" => some { r with saveInterval := v.asNumber }
  | "backup_count" => some { r with backupCount := v.asNumber }
  | "initial_backup_secs" => some { r with initialBackup := v.asNumber }
  | "backup_interval_secs" => some { r with backupInterval := v.asNumber }
  | "cpu_requests" => some { r with cpu := v.asNumber }
  | "memory_requests" => some { r with memory := v.asNumber }
  | "instance_id" => some { r with instanceId := v.asText }
  | _ => none

def ModifierRow.set? (r : ModifierRow) (column : String) (v : Cell) : Option ModifierRow :=
  match column with
  | "tenant" => some { r with tenant := v.asText }
  | "position" =>
    match v.asNumber with
    | .integer n => some { r with position := n }
    | .text _ => none
  | "key" => some { r with key := v.asText }
  | "value" => some { r with value := v.asText }
  | _ => none

namespace TableStore

/-- Changes the rows of a list that are about a tenant, and counts them. -/
def editRows {ρ : Type} (tenantOf : ρ → String) (change : ρ → Option ρ) (tenant : String)
    (rows : List ρ) : Option (Nat × List ρ) := do
  let rows' ← rows.mapM fun r => if tenantOf r == tenant then change r else some r
  return ((rows.filter (tenantOf · == tenant)).length, rows')

/-- Sets a column in all rows of a tenant in a table, and tells how many these are. -/
def setColumn (s : TableStore) (table : Table) (column : String) (v : Cell) (tenant : String) :
    Option (Nat × TableStore) :=
  match table with
  | .servers => do
    let (n, rows) ← editRows (·.tenant) (·.set? column v) tenant s.servers
    return (n, { s with servers := rows })
  | .worlds => do
    let (n, rows) ← editRows (·.tenant) (·.set? column v) tenant s.worlds
    return (n, { s with worlds := rows })
  | .modifiers => do
    let (n, rows) ← editRows (·.tenant) (·.set? column v) tenant s.modifiers
    return (n, { s with modifiers := rows })

/-- Deletes all rows of a tenant in a table, and tells how many these were. -/
def deleteRows (s : TableStore) (table : Table) (tenant : String) : Nat × TableStore :=
  match table with
  | .servers =>
    let rows := s.servers.filter (·.tenant != tenant)
    (s.servers.length - rows.length, { s with servers := rows })
  | .worlds =>
    let rows := s.worlds.filter (·.tenant != tenant)
    (s.worlds.length - rows.length, { s with worlds := rows })
  | .modifiers =>
    let rows := s.modifiers.filter (·.tenant != tenant)
    (s.modifiers.length - rows.length, { s with modifiers := rows })

/-- Puts a modifier row in, in place of one at the same position. -/
def putModifier (s : TableStore) (row : ModifierRow) : TableStore :=
  let others := s.modifiers.filter fun r =>
    !(r.tenant == row.tenant && r.position == row.position)
  { s with modifiers := others ++ [row] }

end TableStore

end Steading
