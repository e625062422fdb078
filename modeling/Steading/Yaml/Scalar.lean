import Steading.Yaml.Cursor

/-!
# Scalars in YAML

How the text of a scalar is read. Between two words of a plain or quoted scalar stand blanks, which
are kept, or breaks, which are folded: a single break becomes a space, and of several the first one
is dropped. In a block scalar the indentation is taken off every line.

Texts are gathered from the end, so the readers keep what they have read in reverse.
-/

namespace Steading.Yaml

/-- What stands between two words. -/
inductive Gap
  /-- Blanks, in reverse. -/
  | blanks (cs : List Char)
  /-- Breaks: the first one, unless it was escaped, and those after it in reverse. -/
  | breaks (first : Option Char) (more : List Char)
  deriving Inhabited

namespace Gap

def none : Gap :=
  blanks []

def isNone : Gap → Bool
  | blanks cs => cs.isEmpty
  | breaks _ _ => false

def hasBreak : Gap → Bool
  | blanks _ => false
  | breaks _ _ => true

/-- What the gap comes to in the text, in reverse. -/
def folded : Gap → List Char
  | blanks cs => cs
  | breaks (some '\n') [] => [' ']
  | breaks (some '\n') more => more
  | breaks (some c) more => more ++ [c]
  | breaks Option.none more => more

/-- Blanks behind a break are indentation. -/
def addBlank (c : Char) : Gap → Gap
  | blanks cs => blanks (c :: cs)
  | g => g

/-- Blanks before a break are dropped. -/
def addBreak (c : Char) : Gap → Gap
  | blanks _ => breaks (some (breakText c)) []
  | breaks first more => breaks first (breakText c :: more)

end Gap

/-- A text that was read in reverse. -/
def textOf (acc : List Char) : String :=
  String.ofList acc.reverse

/-- Reads a single-quoted scalar from behind its first quote. -/
def singleQuoted (spot : Spot) (acc : List Char) (gap : Gap) : List Char → Option (String × Cursor)
  | [] => none
  | '\'' :: '\'' :: r => singleQuoted (spot.move 2) ('\'' :: (gap.folded ++ acc)) .none r
  | '\'' :: r => some (textOf (gap.folded ++ acc), ⟨r, spot.move 1⟩)
  | '\r' :: '\n' :: r => singleQuoted (spot.nextLine 2) acc (gap.addBreak '\n') r
  | c :: r =>
    if isBlank c then singleQuoted (spot.move 1) acc (gap.addBlank c) r
    else if isBreak c then singleQuoted (spot.nextLine 1) acc (gap.addBreak c) r
    else if spot.column == 0 && isDocumentMark (c :: r) then none
    else singleQuoted (spot.move 1) (c :: (gap.folded ++ acc)) .none r

/-- The escapes of a single character. -/
def escaped? : Char → Option Char
  | '0' => some (Char.ofNat 0)
  | 'a' => some '\x07'
  | 'b' => some '\x08'
  | 't' => some '\t'
  | '\t' => some '\t'
  | 'n' => some '\n'
  | 'v' => some '\x0b'
  | 'f' => some '\x0c'
  | 'r' => some '\r'
  | 'e' => some '\x1b'
  | ' ' => some ' '
  | '"' => some '"'
  | '/' => some '/'
  | '\\' => some '\\'
  | 'N' => some (Char.ofNat 0x85)
  | '_' => some (Char.ofNat 0xA0)
  | 'L' => some lineSeparator
  | 'P' => some paragraphSeparator
  | _ => none

def hexDigit? (c : Char) : Option Nat :=
  if c.isDigit then some (c.toNat - '0'.toNat)
  else if 'a' ≤ c && c ≤ 'f' then some (c.toNat - 'a'.toNat + 10)
  else if 'A' ≤ c && c ≤ 'F' then some (c.toNat - 'A'.toNat + 10)
  else none

/-- The character of a number in hexadecimal digits. -/
def hexChar? (ds : List Char) : Option Char := do
  let n ← ds.foldlM (fun n d => (hexDigit? d).map (n * 16 + ·)) 0
  if n < 0xD800 || (0xE000 ≤ n && n < 0x110000) then some (Char.ofNat n) else none

/-- Reads a double-quoted scalar from behind its first quote. -/
def doubleQuoted (spot : Spot) (acc : List Char) (gap : Gap) : List Char → Option (String × Cursor)
  | [] => none
  | '"' :: r => some (textOf (gap.folded ++ acc), ⟨r, spot.move 1⟩)
  | '\\' :: 'x' :: a :: b :: r => do
    let c ← hexChar? [a, b]
    doubleQuoted (spot.move 4) (c :: (gap.folded ++ acc)) .none r
  | '\\' :: 'u' :: a :: b :: c :: d :: r => do
    let c ← hexChar? [a, b, c, d]
    doubleQuoted (spot.move 6) (c :: (gap.folded ++ acc)) .none r
  | '\\' :: 'U' :: a :: b :: c :: d :: e :: f :: g :: h :: r => do
    let c ← hexChar? [a, b, c, d, e, f, g, h]
    doubleQuoted (spot.move 10) (c :: (gap.folded ++ acc)) .none r
  | '\\' :: '\r' :: '\n' :: r =>
    doubleQuoted (spot.nextLine 3) (gap.folded ++ acc) (.breaks none []) r
  | '\\' :: c :: r =>
    if isBreak c then doubleQuoted (spot.nextLine 2) (gap.folded ++ acc) (.breaks none []) r
    else do
      let c ← escaped? c
      doubleQuoted (spot.move 2) (c :: (gap.folded ++ acc)) .none r
  | '\r' :: '\n' :: r => doubleQuoted (spot.nextLine 2) acc (gap.addBreak '\n') r
  | c :: r =>
    if isBlank c then doubleQuoted (spot.move 1) acc (gap.addBlank c) r
    else if isBreak c then doubleQuoted (spot.nextLine 1) acc (gap.addBreak c) r
    else if c == '\\' || (spot.column == 0 && isDocumentMark (c :: r)) then none
    else doubleQuoted (spot.move 1) (c :: (gap.folded ++ acc)) .none r

def isFlowMark (c : Char) : Bool :=
  c == ',' || c == '[' || c == ']' || c == '\x7b' || c == '\x7d'

/-- A plain scalar with what is left behind it, and whether it was left on a new line. -/
structure PlainScalar where
  text : String
  cursor : Cursor
  onNewLine : Bool

def plainEnd (spot : Spot) (acc : List Char) (gap : Gap) (rest : List Char) : PlainScalar :=
  ⟨textOf acc, ⟨rest, spot⟩, gap.hasBreak⟩

/-- Reads a plain scalar, of which the lines after the first have to be indented by `indent` in a
block. It ends before a colon that ends a word, before a comment, and in a flow before any mark of
the flow. -/
def plain (inFlow : Bool) (indent : Int) (spot : Spot) (acc : List Char) (gap : Gap) :
    List Char → Option PlainScalar
  | [] => some (plainEnd spot acc gap [])
  | '\r' :: '\n' :: r => plain inFlow indent (spot.nextLine 2) acc (gap.addBreak '\n') r
  | c :: r =>
    if isBlank c then
      if c == '\t' && gap.hasBreak && (spot.column : Int) < indent then none
      else plain inFlow indent (spot.move 1) acc (gap.addBlank c) r
    else if isBreak c then plain inFlow indent (spot.nextLine 1) acc (gap.addBreak c) r
    else if !gap.isNone && ((!inFlow && (spot.column : Int) < indent) || c == '#') then
      some (plainEnd spot acc gap (c :: r))
    else if spot.column == 0 && isDocumentMark (c :: r) then
      some (plainEnd spot acc gap (c :: r))
    else if inFlow && c == ':' && r.head?.any (fun x => x == '?' || isFlowMark x) then none
    else if (c == ':' && endsWord r) || (inFlow && isFlowMark c) then
      some (plainEnd spot acc gap (c :: r))
    else plain inFlow indent (spot.move 1) (c :: (gap.folded ++ acc)) .none r

/-! ## Block scalars -/

/-- What becomes of the breaks at the end of a block scalar. -/
inductive Chomping
  | strip
  | clip
  | keep
  deriving DecidableEq, Inhabited

structure BlockHeader where
  chomping : Chomping
  /-- How far the text is indented, if the header says it. -/
  indent : Option Nat

/-- Reads the marks behind the indicator of a block scalar: a sign and a digit in any order. -/
def blockHeader (c : Cursor) : Option (BlockHeader × Cursor) :=
  let chomping? : Char → Option Chomping
    | '+' => some .keep
    | '-' => some .strip
    | _ => none
  let digit? (x : Char) : Option Nat :=
    if x.isDigit then some (x.toNat - '0'.toNat) else none
  let checked (h : BlockHeader) (c : Cursor) : Option (BlockHeader × Cursor) :=
    if h.indent == some 0 then none else some (h, c)
  match c.rest with
  | x :: r =>
    match chomping? x, digit? x with
    | some chomping, _ =>
      match r.head?.bind digit? with
      | some n => checked ⟨chomping, some n⟩ (c.move 2)
      | none => some (⟨chomping, none⟩, c.move 1)
    | none, some n =>
      match r.head?.bind chomping? with
      | some chomping => checked ⟨chomping, some n⟩ (c.move 2)
      | none => checked ⟨.clip, some n⟩ (c.move 1)
    | none, none => some (⟨.clip, none⟩, c)
  | [] => some (⟨.clip, none⟩, c)

/-- Breaks between the lines of a block scalar, in reverse, and how far the lines among them were
indented at most. -/
structure BlockGap where
  breaks : List Char
  widest : Nat
  cursor : Cursor

/-- Reads lines that hold nothing but indentation, and the indentation of the next line; if it is
not known how far the text is indented, all of it. -/
def blockGap (indent : Option Nat) (spot : Spot) (breaks : List Char) (widest : Nat) :
    List Char → Option BlockGap
  | [] => some ⟨breaks, max widest spot.column, ⟨[], spot⟩⟩
  | '\r' :: '\n' :: r =>
    blockGap indent (spot.nextLine 2) ('\n' :: breaks) (max widest spot.column) r
  | c :: r =>
    let within := indent.all (spot.column < ·)
    if c == ' ' && within then blockGap indent (spot.move 1) breaks widest r
    else if c == '\t' && within then none
    else if isBreak c then
      blockGap indent (spot.nextLine 1) (breakText c :: breaks) (max widest spot.column) r
    else some ⟨breaks, max widest spot.column, ⟨c :: r, spot⟩⟩

/-- The break at a place, read as a text. -/
def breakAt (c : Cursor) : List Char :=
  match c.rest with
  | x :: _ => if isBreak x then [breakText x] else []
  | [] => []

/-- Reads the lines of a block scalar from the start of one of them. `lineEnd` and `more` are the
breaks before it, and `wasBlank` tells whether the line before started with a blank. -/
def blockLines (folds : Bool) (indent : Nat) (chomping : Chomping) :
    Nat → (acc lineEnd more : List Char) → (wasBlank : Bool) → Cursor → Option (String × Cursor)
  | 0, _, _, _, _, _ => none
  | fuel + 1, acc, lineEnd, more, wasBlank, c =>
    if c.spot.column != indent || c.rest.isEmpty then
      let acc := match chomping with
        | .strip => acc
        | .clip => lineEnd ++ acc
        | .keep => more ++ (lineEnd ++ acc)
      some (textOf acc, c)
    else do
      let isBlankLine := c.rest.head?.any isBlank
      let lineEnd :=
        if folds && lineEnd == ['\n'] && !wasBlank && !isBlankLine then
          if more.isEmpty then [' '] else []
        else lineEnd
      let (line, c) := c.span fun x => !isBreak x
      let acc := line.reverse ++ (more ++ (lineEnd ++ acc))
      let lineEnd := breakAt c
      let c := c.skipBreak
      let gap ← blockGap (some indent) c.spot [] 0 c.rest
      blockLines folds indent chomping fuel acc lineEnd gap.breaks isBlankLine gap.cursor

/-- Reads a block scalar from behind its indicator, in a block that is indented by `parent`. -/
def blockScalar (folds : Bool) (parent : Int) (c : Cursor) : Option (String × Cursor) := do
  let (header, c) ← blockHeader c
  let c := c.skipBlanks.skipComment
  if !endsLine c.rest then none
  else
    let c := c.skipBreak
    let known := header.indent.map fun n => if 0 ≤ parent then parent.toNat + n else n
    let gap ← blockGap known c.spot [] 0 c.rest
    let indent := known.getD (max (max gap.widest (parent + 1).toNat) 1)
    blockLines folds indent header.chomping (gap.cursor.rest.length + 1) [] [] gap.breaks false
      gap.cursor

end Steading.Yaml
