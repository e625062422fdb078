import Steading.Json.Basic

/-!
# Reading JSON

`Json.parse` reads a text that is one JSON value with nothing but blanks around it. Each reader
takes the characters that are left and gives what it read with the characters after it; the fuel of
the nested readers counts values still to be read, and a text has no more values than characters.
-/

namespace Steading.Json

def isSpace (c : Char) : Bool :=
  c == ' ' || c == '\n' || c == '\t' || c == '\r'

def skipSpace (cs : List Char) : List Char :=
  cs.dropWhile isSpace

def hexValue? (c : Char) : Option Nat :=
  if '0' ≤ c && c ≤ '9' then some (c.toNat - '0'.toNat)
  else if 'a' ≤ c && c ≤ 'f' then some (c.toNat - 'a'.toNat + 10)
  else if 'A' ≤ c && c ≤ 'F' then some (c.toNat - 'A'.toNat + 10)
  else none

/-- What an element of a string literal stands for: a character, or half of a surrogate pair. -/
inductive Piece
  | char (c : Char)
  | half (unit : Nat)

def pieceOfUnit (n : Nat) : Piece :=
  if 0xD800 ≤ n && n < 0xE000 then .half n else .char (Char.ofNat n)

def shortEscape? : Char → Option Char
  | '"' => some '"'
  | '\\' => some '\\'
  | '/' => some '/'
  | 'b' => some '\x08'
  | 'f' => some '\x0c'
  | 'n' => some '\n'
  | 'r' => some '\r'
  | 't' => some '\t'
  | _ => none

/-- The pieces of a string literal, from behind its opening quote to behind its closing one. -/
def readPieces : List Char → Option (List Piece × List Char)
  | [] => none
  | '"' :: r => some ([], r)
  | '\\' :: 'u' :: a :: b :: c :: d :: r => do
    let a ← hexValue? a
    let b ← hexValue? b
    let c ← hexValue? c
    let d ← hexValue? d
    let (ps, r) ← readPieces r
    return (pieceOfUnit (((a * 16 + b) * 16 + c) * 16 + d) :: ps, r)
  | '\\' :: c :: r => do
    let x ← shortEscape? c
    let (ps, r) ← readPieces r
    return (.char x :: ps, r)
  | c :: r =>
    if c.toNat < 0x20 || c == '\\' then none
    else do
      let (ps, r) ← readPieces r
      return (.char c :: ps, r)

/-- The text of a literal. Two halves in order make one character; a half alone makes none. -/
def joinPieces : List Piece → Option (List Char)
  | [] => some []
  | .char c :: ps => (joinPieces ps).map (c :: ·)
  | .half a :: .half b :: ps =>
    if a < 0xDC00 && 0xDC00 ≤ b then
      (joinPieces ps).map (Char.ofNat (0x10000 + (a - 0xD800) * 0x400 + (b - 0xDC00)) :: ·)
    else none
  | .half _ :: _ => none

/-- A string literal's text, if it has one, from behind the opening quote. -/
def readText (cs : List Char) : Option (Option String × List Char) := do
  let (ps, r) ← readPieces cs
  return ((joinPieces ps).map String.ofList, r)

def digitsValue (ds : List Char) : Nat :=
  ds.foldl (fun n d => n * 10 + (d.toNat - '0'.toNat)) 0

/-- The whole part of a number: digits without a needless zero in front. -/
def readWhole (cs : List Char) : Option (List Char × List Char) :=
  match cs.takeWhile Char.isDigit with
  | [] => none
  | ['0'] => some (['0'], cs.dropWhile Char.isDigit)
  | '0' :: _ => none
  | ds => some (ds, cs.dropWhile Char.isDigit)

def readFraction : List Char → Option (List Char × List Char)
  | '.' :: cs =>
    match cs.takeWhile Char.isDigit with
    | [] => none
    | ds => some ('.' :: ds, cs.dropWhile Char.isDigit)
  | cs => some ([], cs)

def exponentSign : List Char → List Char × List Char
  | '+' :: cs => (['+'], cs)
  | '-' :: cs => (['-'], cs)
  | cs => ([], cs)

def readExponent : List Char → Option (List Char × List Char)
  | e :: cs =>
    if e == 'e' || e == 'E' then
      let (sign, cs) := exponentSign cs
      match cs.takeWhile Char.isDigit with
      | [] => none
      | ds => some (e :: sign ++ ds, cs.dropWhile Char.isDigit)
    else some ([], e :: cs)
  | [] => some ([], [])

/-- The value of a number literal: the sign, the whole part, and the rest of the literal. -/
def ofLiteral (negative : Bool) (whole tail : List Char) : Json :=
  let n : Int := digitsValue whole
  let v := if negative then -n else n
  if tail.isEmpty && intRange v && !(negative && v == 0) then .int v
  else .real (String.ofList ((if negative then ['-'] else []) ++ whole ++ tail))

def readNumber (cs : List Char) : Option (Json × List Char) := do
  let (negative, cs) := match cs with
    | '-' :: cs => (true, cs)
    | cs => (false, cs)
  let (whole, cs) ← readWhole cs
  let (fraction, cs) ← readFraction cs
  let (exponent, cs) ← readExponent cs
  return (ofLiteral negative whole (fraction ++ exponent), cs)

/-- An object is unreadable as soon as one of its names is. -/
def ofMembers (ms : List (Option String × Json)) : Json :=
  match ms.mapM fun m => m.1.map fun name => (name, m.2) with
  | some ms => .obj ms
  | none => .unreadable

mutual

def readValue : Nat → List Char → Option (Json × List Char)
  | 0, _ => none
  | fuel + 1, cs =>
    match skipSpace cs with
    | 'n' :: 'u' :: 'l' :: 'l' :: r => some (.null, r)
    | 't' :: 'r' :: 'u' :: 'e' :: r => some (.bool true, r)
    | 'f' :: 'a' :: 'l' :: 's' :: 'e' :: r => some (.bool false, r)
    | '"' :: r => do
      let (s, r) ← readText r
      return (s.elim .unreadable .str, r)
    | '[' :: r =>
      match skipSpace r with
      | ']' :: r => some (.arr [], r)
      | r => do
        let (js, r) ← readItems fuel r
        return (.arr js, r)
    | '\x7b' :: r =>
      match skipSpace r with
      | '\x7d' :: r => some (.obj [], r)
      | r => do
        let (ms, r) ← readMembers fuel r
        return (ofMembers ms, r)
    | r => readNumber r

/-- The items of an array, from the first one to behind the bracket. -/
def readItems : Nat → List Char → Option (List Json × List Char)
  | 0, _ => none
  | fuel + 1, cs => do
    let (j, r) ← readValue fuel cs
    match skipSpace r with
    | ',' :: r => do
      let (js, r) ← readItems fuel r
      return (j :: js, r)
    | ']' :: r => some ([j], r)
    | _ => none

/-- The members of an object, from the first name to behind the brace. -/
def readMembers : Nat → List Char → Option (List (Option String × Json) × List Char)
  | 0, _ => none
  | fuel + 1, cs =>
    match skipSpace cs with
    | '"' :: r => do
      let (name, r) ← readText r
      match skipSpace r with
      | ':' :: r => do
        let (j, r) ← readValue fuel r
        match skipSpace r with
        | ',' :: r => do
          let (ms, r) ← readMembers fuel r
          return ((name, j) :: ms, r)
        | '\x7d' :: r => some ([(name, j)], r)
        | _ => none
      | _ => none
    | _ => none

end

def parseChars (cs : List Char) : Option Json :=
  match readValue (cs.length + 1) cs with
  | some (j, r) => if (skipSpace r).isEmpty then some j else none
  | none => none

def parse (text : String) : Option Json :=
  parseChars text.toList

end Steading.Json
