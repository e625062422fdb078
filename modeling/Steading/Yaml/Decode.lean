import Steading.Yaml.Node

/-!
# Taking YAML documents apart

A text is any scalar, as it is written; numbers, truth values and the absence of a value are told by
the form of a plain scalar. A record is a mapping from the names of its fields, and an empty scalar
is a record, a table or a list with nothing in it.
-/

namespace Steading.Yaml

/-- How a node of a document is read. -/
abbrev Reader (α : Type) : Type :=
  Anchors → Node → Option α

namespace Reader

variable {α β : Type}

/-- Reads what an alias stands for. -/
def follow (a : Anchors) : Node → Option Node
  | .alias n => a.find? n
  | n => some n

/-- The text of a scalar. -/
def text : Reader String := fun a n => do
  match ← follow a n with
  | .scalar s _ _ => some s
  | _ => none

def coreTag (name : String) : String :=
  "tag:yaml.org,2002:" ++ name

/-- The text of a scalar whose form tells its value: a plain one, or a literal one with the tag. -/
def formOf (tag : String) : Reader String := fun a n => do
  match ← follow a n with
  | .scalar s .plain _ => some s
  | .scalar s .literal t => if t == some (coreTag tag) then some s else none
  | _ => none

def bool : Reader Bool := fun a n => do
  match ← formOf "bool" a n with
  | "true" | "True" | "TRUE" => some true
  | "false" | "False" | "FALSE" => some false
  | _ => none

/-- The number of digits of a base, if there is at least one digit and nothing else. -/
def digits? (base : Nat) (ds : List Char) : Option Nat :=
  let digit? (d : Char) : Option Nat :=
    let n :=
      if d.isDigit then d.toNat - '0'.toNat
      else if 'a' ≤ d && d ≤ 'f' then d.toNat - 'a'.toNat + 10
      else if 'A' ≤ d && d ≤ 'F' then d.toNat - 'A'.toNat + 10
      else base
    if n < base then some n else none
  if ds.isEmpty then none
  else ds.foldlM (fun n d => (digit? d).map (n * base + ·)) 0

/-- A number without a sign, or with a plus: decimal without needless zeros, or hexadecimal, octal
or binary behind its mark. -/
def natural? (s : String) : Option Nat :=
  let ds := match s.toList with
    | '+' :: ds => ds
    | ds => ds
  match ds with
  | '0' :: 'x' :: r => digits? 16 r
  | '0' :: 'o' :: r => digits? 8 r
  | '0' :: 'b' :: r => digits? 2 r
  | ['0'] => some 0
  | '0' :: _ => none
  | ds => digits? 10 ds

/-- A natural number below a bound, which is at most 2⁶⁴. -/
def below (bound : Nat) : Reader Nat := fun a n => do
  let n ← natural? (← formOf "int" a n)
  if n < bound then some n else none

def uint16 : Reader UInt16 := fun a n =>
  (below 0x10000 a n).map UInt16.ofNat

def uint32 : Reader UInt32 := fun a n =>
  (below 0x100000000 a n).map UInt32.ofNat

def isNull (s : String) : Bool :=
  ["~", "null", "Null", "NULL"].contains s

/-- A plain scalar that is empty or says that there is no value stands for none. One that is tagged
as no value has to say so. -/
def nullable (read : Reader α) : Reader (Option α) := fun a n => do
  let n ← follow a n
  match n with
  | .scalar s .plain none =>
    if s.isEmpty || isNull s then some none else (read a n).map some
  | .scalar s .plain (some t) =>
    if t == coreTag "null" then if isNull s then some none else none
    else (read a n).map some
  | n => (read a n).map some

def isEmptyScalar : Node → Bool
  | .scalar s .plain _ => s.isEmpty
  | _ => false

def list (read : Reader α) : Reader (List α) := fun a n => do
  match ← follow a n with
  | .sequence ns => ns.mapM (read a)
  | n => if isEmptyScalar n then some [] else none

def pairs : Reader (List (String × Node)) := fun a n => do
  match ← follow a n with
  | .mapping ps => ps.mapM fun p => (text a p.1).map (·, p.2)
  | n => if isEmptyScalar n then some [] else none

/-- The entries of a table, in their order. -/
def entries (read : Reader α) : Reader (List (String × α)) := fun a n => do
  (← pairs a n).mapM fun p => (read a p.2).map (p.1, ·)

end Reader

/-- What a record has for one of its fields. -/
abbrev Slot : Type :=
  Option Node

namespace Slot

variable {α : Type}

def required (a : Anchors) (read : Reader α) (s : Slot) : Option α :=
  s.bind (read a)

def withDefault (a : Anchors) (d : α) (read : Reader α) : Slot → Option α
  | some n => read a n
  | none => some d

end Slot

/-- The slots of the named fields; other names do not matter, and a field may not be given twice. -/
def slots (names : List String) : Reader (List Slot) := fun a n => do
  let ps ← Reader.pairs a n
  if names.all fun name => (ps.filter (·.1 == name)).length ≤ 1 then
    some (names.map fun name => ps.lookup name)
  else none

/-- Reads the root of a text; a text without one is an empty record. -/
def read? {α : Type} (read : Reader α) (text : String) : Option α := do
  let d ← Document.ofText? text
  read d.anchors (d.root.getD Composer.emptyScalar)

end Steading.Yaml
