import Steading.Yaml.Cursor

/-!
# Names, tags and directives in YAML

What follows the indicators of anchors, aliases, tags and directives.
-/

namespace Steading.Yaml

/-- The characters that may follow the name of an anchor. -/
def endsAnchor : List Char → Bool
  | [] => true
  | c :: _ =>
    isBlank c || isBreak c ||
      ['?', ':', ',', ']', '\x7d', '%', '@', Char.ofNat 0x60].contains c

/-- Reads the name of an anchor or an alias. -/
def anchorName (c : Cursor) : Option (String × Cursor) :=
  let (name, c) := c.span isNameChar
  if name.isEmpty || !endsAnchor c.rest then none else some (String.ofList name, c)

/-- The characters of a tag that stand for themselves. -/
def isTagChar (c : Char) : Bool :=
  isNameChar c || ";/?:@&=+$.!~*'()".toList.contains c

/-- Inside angle brackets a tag may also hold some marks of a flow. -/
def isVerbatimChar (c : Char) : Bool :=
  isTagChar c || [',', '[', ']'].contains c

def octet? : List Char → Option (Nat × List Char)
  | '%' :: a :: b :: r => do
    let x ← digit? a
    let y ← digit? b
    return (x * 16 + y, r)
  | _ => none
where
  digit? (c : Char) : Option Nat :=
    if c.isDigit then some (c.toNat - '0'.toNat)
    else if 'a' ≤ c && c ≤ 'f' then some (c.toNat - 'a'.toNat + 10)
    else if 'A' ≤ c && c ≤ 'F' then some (c.toNat - 'A'.toNat + 10)
    else none

/-- Reads a number of octets that continue a character. -/
def continuation : Nat → Nat → List Char → Option (Nat × List Char)
  | 0, n, cs => some (n, cs)
  | k + 1, n, cs => do
    let (o, cs) ← octet? cs
    if o / 64 == 2 then continuation k (n * 64 + o % 64) cs else none

/-- Reads a character that is given by its octets. -/
def escapedChar (cs : List Char) : Option (Char × List Char) := do
  let (o, cs) ← octet? cs
  let (n, cs) ←
    if o < 0x80 then some (o, cs)
    else if o / 32 == 6 then continuation 1 (o % 32) cs
    else if o / 16 == 14 then continuation 2 (o % 16) cs
    else if o / 8 == 30 then continuation 3 (o % 8) cs
    else none
  return (Char.ofNat n, cs)

/-- Reads the characters of a tag, of which `accepts` allows those that stand for themselves. -/
def tagChars (accepts : Char → Bool) : Nat → Cursor → Option (List Char × Cursor)
  | 0, c => some ([], c)
  | fuel + 1, c =>
    match c.rest with
    | '%' :: _ => do
      let (x, rest) ← escapedChar c.rest
      let (xs, c) ← tagChars accepts fuel (c.move (c.rest.length - rest.length))
      return (x :: xs, c)
    | x :: _ =>
      if accepts x then do
        let (xs, c) ← tagChars accepts fuel (c.move 1)
        return (x :: xs, c)
      else some ([], c)
    | [] => some ([], c)

def readTagChars (accepts : Char → Bool) (c : Cursor) : Option (List Char × Cursor) :=
  tagChars accepts (c.rest.length + 1) c

/-- Reads an exclamation mark, a name, and another mark if there is one. -/
def tagHandle (c : Cursor) : Option (List Char × Cursor) :=
  match c.rest with
  | '!' :: _ =>
    let (name, c) := (c.move 1).span isNameChar
    match c.rest with
    | '!' :: _ => some ('!' :: name ++ ['!'], c.move 1)
    | _ => some ('!' :: name, c)
  | _ => none

/-- Reads a tag, as a handle and what comes behind it. -/
def tag (inFlow : Bool) (c : Cursor) : Option ((String × String) × Cursor) := do
  let ((handle, rest), c) ←
    match c.rest with
    | '!' :: '<' :: _ => do
      let (uri, c) ← readTagChars isVerbatimChar (c.move 2)
      match uri, c.rest with
      | [], _ => none
      | uri, '>' :: _ => some (([], uri), c.move 1)
      | _, _ => none
    | _ => do
      let (handle, c) ← tagHandle c
      let (rest, c) ← readTagChars isTagChar c
      if 1 < handle.length && handle.getLast? == some '!' then
        if rest.isEmpty then none else some ((handle, rest), c)
      else
        match handle.tail ++ rest with
        | [] => some (([], ['!']), c)
        | rest => some ((['!'], rest), c)
  if endsWord c.rest || (inFlow && c.rest.head? == some ',') then
    some ((String.ofList handle, String.ofList rest), c)
  else none

/-! ## Directives -/

inductive Directive
  | version (major minor : Nat)
  | handle (name expansion : String)
  deriving DecidableEq

/-- Reads a number of at most nine digits. -/
def versionNumber (c : Cursor) : Option (Nat × Cursor) :=
  let (ds, c) := c.span Char.isDigit
  if ds.isEmpty || 9 < ds.length then none
  else some (ds.foldl (fun n d => n * 10 + (d.toNat - '0'.toNat)) 0, c)

def directiveBody (name : String) (c : Cursor) : Option (Directive × Cursor) :=
  match name with
  | "YAML" => do
    let (major, c) ← versionNumber c.skipBlanks
    match c.rest with
    | '.' :: _ => do
      let (minor, c) ← versionNumber (c.move 1)
      return (.version major minor, c)
    | _ => none
  | "TAG" => do
    let (handle, c) ← tagHandle c.skipBlanks
    if handle.getLast? != some '!' then none
    else if !c.rest.head?.any isBlank then none
    else do
      let (uri, c) ← readTagChars isVerbatimChar c.skipBlanks
      if uri.isEmpty || !endsWord c.rest then none
      else some (.handle (String.ofList handle) (String.ofList uri), c)
  | _ => none

/-- Reads a directive from behind its percent sign to the end of its line. -/
def directive (c : Cursor) : Option (Directive × Cursor) := do
  let (name, c) := c.span isNameChar
  if name.isEmpty || !endsWord c.rest then none
  else do
    let (d, c) ← directiveBody (String.ofList name) c
    let c := c.skipBlanks.skipComment
    if endsLine c.rest then some (d, c.skipBreak) else none

end Steading.Yaml
