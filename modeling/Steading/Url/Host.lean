import Steading.Url.Domain

/-!
# Hosts of URLs

A host is a domain name or a network address. A name whose last label is a number is an address of
four octets, of which the last number may stand for several octets and each may be written in
octal or hexadecimal.
-/

namespace Steading

inductive Host
  | name (text : String)
  | four (octets : List Nat)
  | eight (groups : List Nat)
  deriving DecidableEq, Inhabited

namespace Host

open Address

def text : Host → String
  | name s => s
  | four octets => fourText octets
  | eight groups => "[" ++ eightText groups ++ "]"

/-- The base of a number and its digits. -/
def numeral : List Char → Nat × List Char
  | '0' :: 'x' :: cs => (16, cs)
  | '0' :: c :: cs => (8, c :: cs)
  | cs => (10, cs)

def number? (cs : List Char) : Option Nat :=
  let (base, ds) := numeral cs
  if !cs.isEmpty && ds.all (fun c => isHexDigit c && digitValue c < base) then some (value base ds)
  else none

/-- The labels of a name, without an empty one at the end. -/
def labels (cs : List Char) : List (List Char) :=
  let ls := pieces '.' cs
  if 1 < ls.length && ls.getLast? == some [] then ls.dropLast else ls

/-- Whether the last label of a name is a number, or made like one. -/
def endsInNumber (cs : List Char) : Bool :=
  match (labels cs).getLast? with
  | some l => !l.isEmpty && (l.all Char.isDigit || (number? l).isSome)
  | none => false

/-- The last `count` octets of a number. -/
def octets : Nat → Nat → List Nat
  | 0, _ => []
  | count + 1, n => octets count (n / 256) ++ [n % 256]

/-- The octets of some numbers, of which the last one fills what the others leave. -/
def fill? (ns : List Nat) : Option (List Nat) :=
  let before := ns.dropLast
  let last := ns.getLastD 0
  let left := 4 - before.length
  if before.length < 4 && before.all (· < 256) && last < Nat.pow 256 left then
    some (before ++ octets left last)
  else none

/-- An address of eight groups in brackets, if there are any. -/
def bracketed? : List Char → Option (Option Host)
  | '[' :: cs =>
    if cs.getLast? == some ']' then (eight? cs.dropLast).map fun gs => some (.eight gs) else none
  | _ => some none

/-- A host of one of the schemes that go with one. -/
def ofChars? (cs : List Char) : Option Host := do
  match ← bracketed? cs with
  | some host => return host
  | none =>
    let name ← Domain.ascii? (← Percent.decode? cs)
    if name.isEmpty then none
    else if endsInNumber name then
      let octets ← fill? (← (labels name).mapM number?)
      return .four octets
    else return .name (String.ofList name)

/-- A host of any other scheme, which is taken as it is written; it may be empty. -/
def ofOpaque? (cs : List Char) : Option Host := do
  match ← bracketed? cs with
  | some host => return host
  | none =>
    if cs.any ("\x00\t\n\r #/:<>?@[\\]^|".toList.contains ·) then none
    else return .name (String.ofList (Percent.encode Percent.controls cs))

end Host

end Steading
