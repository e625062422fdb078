/-!
# Network addresses as text

Addresses of four octets, written as decimal numbers between dots, and of eight groups of sixteen
bits, written as hexadecimal numbers between colons. One run of groups that are zero may be left
out, and the last two groups may be written like an address of four octets.
-/

namespace Steading.Address

/-- The pieces of a text between the characters of one kind. -/
def pieces (sep : Char) : List Char → List (List Char)
  | [] => [[]]
  | c :: cs =>
    if c = sep then [] :: pieces sep cs
    else
      match pieces sep cs with
      | [] => [[c]]
      | p :: ps => (c :: p) :: ps

def isHexDigit (c : Char) : Bool :=
  c.isDigit || ('a' ≤ c && c ≤ 'f') || ('A' ≤ c && c ≤ 'F')

def digitValue (c : Char) : Nat :=
  if c.isDigit then c.toNat - '0'.toNat
  else if 'a' ≤ c then c.toNat - 'a'.toNat + 10
  else c.toNat - 'A'.toNat + 10

/-- The value of digits in a base. -/
def value (base : Nat) (cs : List Char) : Nat :=
  cs.foldl (fun n c => n * base + digitValue c) 0

/-- A decimal number below 256, without a needless zero in front. -/
def octet? (cs : List Char) : Option Nat :=
  if cs.isEmpty || 3 < cs.length || !cs.all Char.isDigit then none
  else if 1 < cs.length && cs.head? == some '0' then none
  else if value 10 cs < 256 then some (value 10 cs)
  else none

def four? (cs : List Char) : Option (List Nat) := do
  let octets ← (pieces '.' cs).mapM octet?
  if octets.length = 4 then some octets else none

def group? (cs : List Char) : Option Nat :=
  if 0 < cs.length && cs.length ≤ 4 && cs.all isHexDigit then some (value 16 cs) else none

/-- Four octets as two groups. -/
def paired : List Nat → List Nat
  | a :: b :: ns => (a * 256 + b) :: paired ns
  | ns => ns

/-- The groups between colons. Four octets count for two groups and may only come last, and only
if `tail` allows them. -/
def groups? (tail : Bool) : List (List Char) → Option (List Nat)
  | [] => some []
  | [p] =>
    match group? p with
    | some g => some [g]
    | none => if tail then (four? p).map paired else none
  | p :: ps => do return (← group? p) :: (← groups? tail ps)

/-- The two sides of the first pair of colons. -/
def splitGap : List Char → Option (List Char × List Char)
  | ':' :: ':' :: cs => some ([], cs)
  | c :: cs => (splitGap cs).map fun s => (c :: s.1, s.2)
  | [] => none

def side? (tail : Bool) (cs : List Char) : Option (List Nat) :=
  if cs.isEmpty then some [] else groups? tail (pieces ':' cs)

/-- Eight groups. A gap stands for at least one of them. -/
def eight? (cs : List Char) : Option (List Nat) := do
  match splitGap cs with
  | none =>
    let gs ← groups? true (pieces ':' cs)
    if gs.length = 8 then some gs else none
  | some (before, after) =>
    let gs ← side? false before
    let hs ← side? true after
    if gs.length + hs.length < 8 then
      some (gs ++ List.replicate (8 - gs.length - hs.length) 0 ++ hs)
    else none

def isAddress (s : String) : Bool :=
  (four? s.toList).isSome || (eight? s.toList).isSome

def fourText (octets : List Nat) : String :=
  ".".intercalate (octets.map toString)

def hexText (n : Nat) : String :=
  String.ofList (Nat.toDigits 16 n)

/-- The length of the run of zeros in front of each group and with it. -/
def zeroRuns : List Nat → List Nat
  | [] => []
  | g :: gs =>
    let runs := zeroRuns gs
    (if g = 0 then runs.headD 0 + 1 else 0) :: runs

/-- Groups in hexadecimal. Of the runs of two zeros and more the first longest one is left out. -/
def eightText (groups : List Nat) : String :=
  let runs := zeroRuns groups
  let longest := runs.foldl max 0
  let between (gs : List Nat) := ":".intercalate (gs.map hexText)
  if longest < 2 then between groups
  else
    let start := runs.idxOf longest
    between (groups.take start) ++ "::" ++ between (groups.drop (start + longest))

end Steading.Address
