/-!
# Punycode

Labels of host names with characters beyond ASCII are written with letters, digits and hyphens
alone. The ASCII characters come first, and then, in the order of their code points, each of the
other characters as a number that says how far its place is from the place of the one before. These
numbers are written in base 36 with the lowest digit first; a threshold tells the last digit of a
number, and it follows the size of the numbers so far.
-/

namespace Steading.Punycode

def digitChar (d : Nat) : Char :=
  if d < 26 then Char.ofNat ('a'.toNat + d) else Char.ofNat ('0'.toNat + (d - 26))

def digitValue? (c : Char) : Option Nat :=
  if c.isDigit then some (c.toNat - '0'.toNat + 26)
  else if 'a' ≤ c && c ≤ 'z' then some (c.toNat - 'a'.toNat)
  else none

/-- Digits below the threshold end a number. -/
def threshold (place bias : Nat) : Nat :=
  min (max (place - bias) 1) 26

def shrink (n places : Nat) : Nat × Nat :=
  if 455 < n then shrink (n / 35) (places + 36) else (n, places)
termination_by n
decreasing_by exact Nat.div_lt_self (by omega) (by omega)

/-- The bias after a number, of so many characters placed. -/
def adapt (number characters : Nat) (first : Bool) : Nat :=
  let n := if first then number / 700 else number / 2
  let (n, places) := shrink (n + n / characters) 0
  places + 36 * n / (n + 38)

theorem threshold_pos (place bias : Nat) : 1 ≤ threshold place bias := by
  unfold threshold; omega

def writeNumber (bias place n : Nat) : List Char :=
  let t := threshold place bias
  if n < t then [digitChar n]
  else digitChar (t + (n - t) % (36 - t)) :: writeNumber bias (place + 36) ((n - t) / (36 - t))
termination_by n
decreasing_by
  have := threshold_pos place bias
  exact Nat.lt_of_le_of_lt (Nat.div_le_self _ _) (by omega)

structure Encoder where
  /-- The characters placed so far. -/
  placed : Nat
  /-- How many places were passed since the last one. -/
  passed : Nat
  bias : Nat
  text : List Char

/-- Passes over a character of the label while those of one code point are placed. -/
def Encoder.pass (ascii point : Nat) (e : Encoder) (c : Char) : Encoder :=
  if c.toNat < point then { e with passed := e.passed + 1 }
  else if c.toNat = point then
    { placed := e.placed + 1
      passed := 0
      bias := adapt e.passed (e.placed + 1) (e.placed == ascii)
      text := e.text ++ writeNumber e.bias 36 e.passed }
  else e

/-- Places the characters of the given code points, which are in order. -/
def encodePoints (label : List Char) (ascii : Nat) : List Nat → Nat → Encoder → Encoder
  | [], _, e => e
  | point :: points, next, e =>
    let e := { e with passed := e.passed + (point - next) * (e.placed + 1) }
    let e := label.foldl (Encoder.pass ascii point) e
    encodePoints label ascii points (point + 1) { e with passed := e.passed + 1 }

def isAscii (c : Char) : Bool :=
  c.toNat < 0x80

def encode (label : List Char) : List Char :=
  let ascii := label.filter isAscii
  let points := ((label.filter (!isAscii ·)).map Char.toNat).eraseDups.mergeSort (· ≤ ·)
  let e := encodePoints label ascii.length points 0x80 ⟨ascii.length, 0, 72, []⟩
  ascii ++ (if ascii.isEmpty then [] else ['-']) ++ e.text

structure Decoder where
  label : List Char
  point : Nat
  /-- Where the last character was placed. -/
  place : Nat
  bias : Nat

/-- A number that is being read: what it comes to, the weight of its next digit, and the place of
that digit. -/
structure Reading where
  number : Nat := 0
  weight : Nat := 1
  place : Nat := 36

/-- Places the character that a number stands for. -/
def Decoder.insert? (d : Decoder) (number : Nat) : Option Decoder :=
  let characters := d.label.length + 1
  let point := d.point + (d.place + number) / characters
  let place := (d.place + number) % characters
  if h : point.isValidChar then
    some ⟨d.label.insertIdx place (Char.ofNatAux point h), point, place + 1,
      adapt number characters (d.label.all isAscii)⟩
  else none

def readNumbers (d : Decoder) (n : Reading) : List Char → Option (List Char)
  | [] => if n.weight = 1 then some d.label else none
  | c :: cs =>
    match digitValue? c with
    | none => none
    | some x =>
      let number := n.number + x * n.weight
      let t := threshold n.place d.bias
      if x < t then
        match d.insert? number with
        | some d => readNumbers d {} cs
        | none => none
      else readNumbers d ⟨number, n.weight * (36 - t), n.place + 36⟩ cs

/-- What stands in front of the last hyphen, and what follows it. -/
def splitLast (cs : List Char) : List Char × List Char :=
  let behind := cs.reverse.takeWhile (· != '-')
  ((cs.reverse.drop (behind.length + 1)).reverse, behind.reverse)

def decode? (cs : List Char) : Option (List Char) :=
  let (ascii, numbers) := splitLast cs
  if ascii.all isAscii then readNumbers ⟨ascii, 0x80, 0, 72⟩ {} numbers else none

end Steading.Punycode
