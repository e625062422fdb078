import Steading.Json.Basic

/-!
# Taking JSON values apart

A record is decoded from an object or from an array of its fields in order. `Json.slots` finds the
value of each field; what an absent one means depends on the field and on the form.
-/

namespace Steading.Json

/-- What a record holds for one of its fields. -/
inductive Slot
  | given (j : Json)
  /-- An object without the member. -/
  | omitted
  /-- An array that ends before the item. -/
  | cut

def arraySlots : List String → List Json → Option (List Slot)
  | [], [] => some []
  | [], _ :: _ => none
  | _ :: names, [] => (arraySlots names []).map (.cut :: ·)
  | _ :: names, j :: js => (arraySlots names js).map (.given j :: ·)

def objectSlot (ms : List (String × Json)) (name : String) : Slot :=
  match ms.lookup name with
  | some j => .given j
  | none => .omitted

def occurrences (ms : List (String × Json)) (name : String) : Nat :=
  (ms.filter (·.1 == name)).length

/-- The slots of the named fields. Members of other names do not matter; a field that is given
twice, or an array with more items than fields, is no record. -/
def slots (names : List String) : Json → Option (List Slot)
  | .obj ms =>
    if names.all (occurrences ms · ≤ 1) then some (names.map (objectSlot ms)) else none
  | .arr js => arraySlots names js
  | _ => none

variable {α : Type}

def Slot.required (decode : Json → Option α) : Slot → Option α
  | .given j => decode j
  | _ => none

/-- Absent takes the default; `null` is a value like any other. -/
def Slot.withDefault (d : α) (decode : Json → Option α) : Slot → Option α
  | .given j => decode j
  | _ => some d

/-- Either `null` or a value. -/
def nullable (decode : Json → Option α) : Json → Option (Option α)
  | .null => some none
  | j => (decode j).map some

/-- May be omitted from an object, but not cut from an array. -/
def Slot.nullable (decode : Json → Option α) : Slot → Option (Option α)
  | .given j => Json.nullable decode j
  | .omitted => some none
  | .cut => none

def str? : Json → Option String
  | .str s => some s
  | _ => none

def bool? : Json → Option Bool
  | .bool b => some b
  | _ => none

def int? : Json → Option Int
  | .int n => some n
  | _ => none

/-- A natural number below a bound. -/
def below? (bound : Nat) : Json → Option Nat
  | .int n => if 0 ≤ n ∧ n < bound then some n.toNat else none
  | _ => none

def uint16? (j : Json) : Option UInt16 :=
  (below? 0x10000 j).map UInt16.ofNat

def uint32? (j : Json) : Option UInt32 :=
  (below? 0x100000000 j).map UInt32.ofNat

def int32? : Json → Option Int32
  | .int n => if -0x80000000 ≤ n ∧ n < 0x80000000 then some (Int32.ofInt n) else none
  | _ => none

def int64? : Json → Option Int64
  | .int n =>
    if -0x8000000000000000 ≤ n ∧ n < 0x8000000000000000 then some (Int64.ofInt n) else none
  | _ => none

def list? (decode : Json → Option α) : Json → Option (List α)
  | .arr js => js.mapM decode
  | _ => none

/-- A name out of a closed list: the bare name, or an object that maps it to `null`. -/
def name? : Json → Option String
  | .str s => some s
  | .obj [(s, .null)] => some s
  | _ => none

def ofOption (encode : α → Json) : Option α → Json
  | some a => encode a
  | none => .null

def nat (n : Nat) : Json :=
  .int n

def uint16 (n : UInt16) : Json :=
  .int n.toNat

def uint32 (n : UInt32) : Json :=
  .int n.toNat

def int32 (n : Int32) : Json :=
  .int n.toInt

def int64 (n : Int64) : Json :=
  .int n.toInt

end Steading.Json
