import Steading.Json.Basic

/-!
# Settled JSON values

A value that is kept, rather than read for what it means, is settled first: of several members of
one name the last one stays. Refused are texts that cannot be read, numbers beyond the largest of
64 bits with a fraction, and values with too many arrays and objects inside each other.
-/

namespace Steading.Json

/-- How many arrays and objects may stand inside each other. -/
def deepest : Nat :=
  127

def lastOfEach {α : Type} : List (String × α) → List (String × α)
  | [] => []
  | m :: ms => if ms.any (·.1 == m.1) then lastOfEach ms else m :: lastOfEach ms

/-- A number literal without its sign: its digits, and the power of ten that goes with the last. -/
def scaledDigits (literal : List Char) : List Char × Int :=
  let whole := literal.takeWhile Char.isDigit
  let tail := literal.dropWhile Char.isDigit
  let fraction := match tail with
    | '.' :: cs => cs.takeWhile Char.isDigit
    | _ => []
  let power := (tail.dropWhile fun c => c != 'e' && c != 'E').drop 1
  let n : Int := (power.filter Char.isDigit).foldl (fun n c => n * 10 + (c.toNat - '0'.toNat)) 0
  (whole ++ fraction, (if power.head? == some '-' then -n else n) - fraction.length)

/-- The least number that rounds to no finite one of 64 bits. -/
def beyondFinite : Nat :=
  0x3FFFFFFFFFFFFF <<< 970

/-- Whether a number literal stands for a finite number of 64 bits. Most literals are told by the
place of their first digit, and only those near the bound are worked out. -/
def isFinite (literal : String) : Bool :=
  let (digits, power) := scaledDigits (literal.toList.dropWhile (· == '-'))
  let digits := digits.dropWhile (· == '0')
  let n := digits.foldl (fun n c => n * 10 + (c.toNat - '0'.toNat)) 0
  let places : Int := digits.length + power
  if digits.isEmpty || places < 309 then true
  else if 309 < places then false
  else n * Nat.pow 10 power.toNat < beyondFinite * Nat.pow 10 (-power).toNat

mutual

/-- The settled form of a value that may hold so many containers inside each other. -/
def settle? : Json → Nat → Option Json
  | .arr js, room + 1 => (settleItems? js room).map .arr
  | .obj ms, room + 1 => (settleMembers? ms room).map fun ms => .obj (lastOfEach ms)
  | .real s, _ => if isFinite s then some (.real s) else none
  | .null, _ => some .null
  | .bool b, _ => some (.bool b)
  | .int n, _ => some (.int n)
  | .str s, _ => some (.str s)
  | _, _ => none

def settleItems? : List Json → Nat → Option (List Json)
  | [], _ => some []
  | j :: js, room => do return (← settle? j room) :: (← settleItems? js room)

def settleMembers? : List (String × Json) → Nat → Option (List (String × Json))
  | [], _ => some []
  | m :: ms, room => do return (← settleMember? m room) :: (← settleMembers? ms room)

def settleMember? : String × Json → Nat → Option (String × Json)
  | (name, j), room => (settle? j room).map (name, ·)

end

end Steading.Json
