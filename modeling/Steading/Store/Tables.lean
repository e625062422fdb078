import Steading.Store

/-!
# The store in tables

A record spread over three tables: one row a tenant for the server, one for the world, and one for
each modifier at its position. A column of numbers takes any 64-bit integer, or even a text, if it
is edited from elsewhere, so rows are checked when they are read.
-/

namespace Steading

/-- What stands in a column of numbers. -/
inductive Cell
  | integer (n : Int)
  | text (s : String)
  deriving DecidableEq, Inhabited

namespace Cell

def ofUInt16 (n : UInt16) : Cell := .integer n.toNat
def ofUInt32 (n : UInt32) : Cell := .integer n.toNat
def ofInt64 (n : Int64) : Cell := .integer n.toInt
def ofBool (b : Bool) : Cell := .integer (if b then 1 else 0)

/-- An integer from a range; the index and the name of the column tell where it is missing. -/
def inRange (low high : Int) (index : Nat) (name : String) : Cell → Except ColumnError Int
  | .integer n => if low ≤ n ∧ n < high then .ok n else .error (.outOfRange n index)
  | .text _ => .error (.notAnInteger index name)

def uint16 (c : Cell) (index : Nat) (name : String) : Except ColumnError UInt16 :=
  (c.inRange 0 0x10000 index name).map fun n => UInt16.ofNat n.toNat

def uint32 (c : Cell) (index : Nat) (name : String) : Except ColumnError UInt32 :=
  (c.inRange 0 0x100000000 index name).map fun n => UInt32.ofNat n.toNat

def int64 (c : Cell) (index : Nat) (name : String) : Except ColumnError Int64 :=
  (c.inRange (-0x8000000000000000) 0x8000000000000000 index name).map Int64.ofInt

/-- Any integer but zero is true. -/
def bool (c : Cell) (index : Nat) (name : String) : Except ColumnError Bool :=
  (c.inRange (-0x8000000000000000) 0x8000000000000000 index name).map (· != 0)

end Cell

structure ServerRow where
  tenant : String
  ip : String
  port : Cell
  cpu : Cell
  memory : Cell
  cpuLimit : Cell
  memoryLimit : Cell
  claimName : String
  deploymentName : String
  state : String
  createdAt : Cell
  updatedAt : Cell
  deriving DecidableEq, Inhabited

structure WorldRow where
  tenant : String
  name : String
  world : String
  port : Cell
  password : String
  crossplay : Cell
  isPublic : Cell
  saveInterval : Cell
  backupCount : Cell
  initialBackup : Cell
  backupInterval : Cell
  cpu : Cell
  memory : Cell
  instanceId : String
  deriving DecidableEq, Inhabited

structure ModifierRow where
  tenant : String
  position : Int
  key : String
  value : String
  deriving DecidableEq, Inhabited

structure TableStore where
  servers : List ServerRow
  worlds : List WorldRow
  modifiers : List ModifierRow
  deriving DecidableEq, Inhabited

def ServerRow.ofServer (s : Server) : ServerRow where
  tenant := s.tenant.text
  ip := s.ip
  port := .ofUInt16 s.port
  cpu := .ofUInt32 s.cpu
  memory := .ofUInt32 s.memory
  cpuLimit := .ofUInt32 s.cpuLimit
  memoryLimit := .ofUInt32 s.memoryLimit
  claimName := s.claimName
  deploymentName := s.deploymentName
  state := s.state.name
  createdAt := .ofInt64 s.createdAt
  updatedAt := .ofInt64 s.updatedAt

/-- The server of a row whose state has been read. -/
def ServerRow.server (r : ServerRow) (t : TenantId) (state : ServerState) :
    Except ColumnError Server := do
  return {
    tenant := t
    ip := r.ip
    port := ← r.port.uint16 1 "port"
    cpu := ← r.cpu.uint32 2 "cpu_requests"
    memory := ← r.memory.uint32 3 "memory_requests"
    cpuLimit := ← r.cpuLimit.uint32 4 "cpu_limit"
    memoryLimit := ← r.memoryLimit.uint32 5 "memory_limit"
    claimName := r.claimName
    deploymentName := r.deploymentName
    state := state
    createdAt := ← r.createdAt.int64 9 "created_at"
    updatedAt := ← r.updatedAt.int64 10 "updated_at" }

/-- The columns of a row are read before its state is. -/
def ServerRow.read (r : ServerRow) (t : TenantId) : Except StoreError Server :=
  match r.server t .running with
  | .error e => .error (.serverColumn e)
  | .ok s =>
    match ServerState.parse r.state with
    | .error e => .error (.badState t e)
    | .ok state => .ok { s with state }

def WorldRow.ofDetails (t : TenantId) (w : WorldDetails) : WorldRow where
  tenant := t.text
  name := w.name
  world := w.world
  port := .ofUInt16 w.port
  password := w.password
  crossplay := .ofBool w.crossplay
  isPublic := .ofBool w.isPublic
  saveInterval := .ofUInt32 w.saveInterval
  backupCount := .ofUInt32 w.backupCount
  initialBackup := .ofUInt32 w.initialBackup
  backupInterval := .ofUInt32 w.backupInterval
  cpu := .ofUInt32 w.cpu
  memory := .ofUInt32 w.memory
  instanceId := w.instanceId

/-- The world of a row and its modifiers. -/
def WorldRow.read (r : WorldRow) (modifiers : List Modifier) :
    Except ColumnError WorldDetails := do
  return {
    name := r.name
    world := r.world
    port := ← r.port.uint16 2 "port"
    password := r.password
    crossplay := ← r.crossplay.bool 4 "crossplay"
    isPublic := ← r.isPublic.bool 5 "public"
    saveInterval := ← r.saveInterval.uint32 6 "save_interval_secs"
    backupCount := ← r.backupCount.uint32 7 "backup_count"
    initialBackup := ← r.initialBackup.uint32 8 "initial_backup_secs"
    backupInterval := ← r.backupInterval.uint32 9 "backup_interval_secs"
    cpu := ← r.cpu.uint32 10 "cpu_requests"
    memory := ← r.memory.uint32 11 "memory_requests"
    instanceId := r.instanceId
    modifiers := modifiers }

def ModifierRow.read (r : ModifierRow) : Except StoreError Modifier :=
  match Modifier.parse r.key r.value with
  | .ok m => .ok m
  | .error e => .error (.badModifier r.key r.value e)

/-- The rows of a list of modifiers from a position on. -/
def ModifierRow.ofList (t : TenantId) (position : Int) : List Modifier → List ModifierRow
  | [] => []
  | m :: ms => ⟨t.text, position, m.key.name, m.value⟩ :: ofList t (position + 1) ms

namespace TableStore

def empty : TableStore :=
  ⟨[], [], []⟩

def serverRow? (s : TableStore) (t : TenantId) : Option ServerRow :=
  s.servers.find? (·.tenant == t.text)

def worldRow? (s : TableStore) (t : TenantId) : Option WorldRow :=
  s.worlds.find? (·.tenant == t.text)

/-- A tenant's modifier rows, by position. -/
def modifierRows (s : TableStore) (t : TenantId) : List ModifierRow :=
  (s.modifiers.filter (·.tenant == t.text)).mergeSort (fun a b => a.position ≤ b.position)

def find (s : TableStore) (t : TenantId) : Except StoreError (Option ServerRecord) := do
  match s.serverRow? t with
  | none => return none
  | some row =>
    let server ← row.read t
    match s.worldRow? t with
    | none => throw (.noWorld t)
    | some row =>
      let world ← (row.read []).mapError (.worldColumn t)
      let modifiers ← (s.modifierRows t).mapM ModifierRow.read
      return some ⟨server, { world with modifiers }⟩

/-- Puts a tenant's world and modifiers in place of what is there. -/
def writeWorld (s : TableStore) (t : TenantId) (w : WorldDetails) : TableStore :=
  { s with
    worlds := s.worlds.filter (·.tenant != t.text) ++ [.ofDetails t w]
    modifiers := s.modifiers.filter (·.tenant != t.text) ++ ModifierRow.ofList t 0 w.modifiers }

def answer (s : TableStore) : (c : StoreCall) → Except StoreError c.Reply × TableStore
  | .find t => (s.find t, s)
  | .save r =>
    let t := r.server.tenant
    match s.serverRow? t with
    | some _ => (.error (.keyTaken t), s)
    | none =>
      let rows := s.servers ++ [ServerRow.ofServer r.server]
      (.ok (), { s with servers := rows }.writeWorld t r.world)
  | .update server =>
    let t := server.tenant
    match s.serverRow? t with
    | none => (.error (.noServer t), s)
    | some _ =>
      (.ok (), { s with servers := s.servers.map fun row =>
        if row.tenant == t.text then { ServerRow.ofServer server with createdAt := row.createdAt }
        else row })
  | .updateWorld t world name details =>
    match s.worldRow? t with
    | some row =>
      if row.world = world ∧ row.name = name then (.ok true, s.writeWorld t details)
      else (.ok false, s)
    | none => (.ok false, s)
  | .delete t =>
    (.ok (s.serverRow? t).isSome,
      ⟨s.servers.filter (·.tenant != t.text), s.worlds.filter (·.tenant != t.text),
        s.modifiers.filter (·.tenant != t.text)⟩)

end TableStore

end Steading
