import Steading.Json.Decode
import Steading.Json.Settled
import Steading.Timestamp

/-!
# Shapes of cluster objects

A shape says what each member of a cluster object may hold. Reading an object by its shape refuses
it if a member holds anything else, and leaves it complete and with nothing more than its shape
has room for: other members are dropped, a member that is `null` counts as missing, and what every
object of its kind has is put in empty where it is missing.
-/

namespace Steading

mutual

inductive Shape
  | text
  | flag
  | int32
  | int64
  /-- A number of 32 bits or a text, such as a port by its number or by its name. -/
  | intOrText
  /-- A point in time; it is written to the second and in UTC. -/
  | time
  /-- Any value, which is kept as it is. -/
  | anything
  | list (item : Shape)
  /-- An object with names of any choice. -/
  | map (value : Shape)
  | record (places : List Place)

/-- A member that a record has room for. -/
inductive Place
  /-- Says one and the same in every record; it may be missing, but it may not be `null`. -/
  | fixed (name value : String)
  | optional (name : String) (shape : Shape)
  | required (name : String) (shape : Shape)

end

instance : Inhabited Shape := ⟨.anything⟩

def Place.optionals (shape : Shape) (names : List String) : List Place :=
  names.map (.optional · shape)

def Place.requireds (shape : Shape) (names : List String) : List Place :=
  names.map (.required · shape)

namespace Shape

open Json

mutual

/-- What is put in for a value that is missing. -/
def empty : Shape → Json
  | .text | .time => .str ""
  | .flag => .bool false
  | .int32 | .int64 | .intOrText => .int 0
  | .anything => .null
  | .list _ => .arr []
  | .map _ => .obj []
  | .record places => .obj (emptyPlaces places)

def emptyPlaces : List Place → List (String × Json)
  | [] => []
  | p :: ps => emptyPlace p ++ emptyPlaces ps

def emptyPlace : Place → List (String × Json)
  | .fixed name value => [(name, .str value)]
  | .optional _ _ => []
  | .required name shape => [(name, empty shape)]

end

/-- Everything that is said about a member. -/
def allNamed (ms : List (String × Json)) (name : String) : List Json :=
  (ms.filter (·.1 == name)).map (·.2)

def isText (value : String) : Json → Bool
  | .str s => s == value
  | _ => false

/-- Of several values each has to be right, and the last one counts. -/
def last? (read : Json → Option Json) (js : List Json) : Option (Option Json) :=
  (js.mapM (nullable read)).map fun values => values.getLast?.join

mutual

/-- The value as its shape wants it, if the shape has room for it. There may be `room` arrays and
objects inside each other. -/
def read? : Shape → Nat → Json → Option Json
  | .text, _, .str s => some (.str s)
  | .flag, _, .bool b => some (.bool b)
  | .int32, _, j => (int32? j).map Json.int32
  | .int64, _, j => (int64? j).map Json.int64
  | .intOrText, _, .str s => some (.str s)
  | .intOrText, _, j => (int32? j).map Json.int32
  | .time, _, .str s => (Timestamp.ofText? s).map fun t => .str t.text
  | .anything, room, j => settle? j room
  | .list item, room, .arr js => (js.mapM fun j => read? item (room - 1) j).map .arr
  | .map value, room, .obj ms =>
    (ms.mapM fun m => (read? value (room - 1) m.2).map (m.1, ·)).map fun ms => .obj (lastOfEach ms)
  | .record places, room, .obj ms => (readPlaces? places (room - 1) ms).map .obj
  | _, _, _ => none

def readPlaces? : List Place → Nat → List (String × Json) → Option (List (String × Json))
  | [], _, _ => some []
  | p :: ps, room, ms => do return (← readPlace? p room ms) ++ (← readPlaces? ps room ms)

def readPlace? : Place → Nat → List (String × Json) → Option (List (String × Json))
  | .fixed name value, _, ms =>
    if (allNamed ms name).all (isText value) then some [(name, .str value)] else none
  | .optional name shape, room, ms =>
    (last? (fun j => read? shape room j) (allNamed ms name)).map fun value =>
      (value.map fun j => (name, j)).toList
  | .required name shape, room, ms =>
    (last? (fun j => read? shape room j) (allNamed ms name)).map fun value =>
      [(name, value.getD (empty shape))]

end

end Shape

end Steading
