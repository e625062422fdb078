import Steading.Yaml.Scalar
import Steading.Yaml.Tag
import Steading.Yaml.Token

/-!
# Finding the tokens of a YAML text

Blocks are marked by indentation: each block that is open has a column, and a line that starts
further left ends it. A key of a mapping is not known for one before the colon behind it is seen, so
the lexer remembers where a key may have started and puts the tokens in there afterwards. Such a key
has to end on its line and within 1024 characters.
-/

namespace Steading.Yaml

/-- A place at which a key may have started. -/
structure PendingKey where
  /-- The number of tokens before it. -/
  number : Nat
  /-- Whether there can be nothing but a key. -/
  required : Bool
  spot : Spot

structure Lexer where
  cursor : Cursor
  /-- The newest token first. -/
  tokens : List Token
  count : Nat
  /-- How many flows are open. -/
  flow : Nat
  /-- The column of the innermost block, or −1 outside of all blocks. -/
  indent : Int
  /-- The columns of the blocks around it. -/
  outer : List Int
  keyAllowed : Bool
  /-- For each open flow, and outside of all of them, where a key may have started. -/
  keys : List (Option PendingKey)

namespace Lexer

def ofText (s : String) : Lexer where
  cursor := .ofText s
  tokens := []
  count := 0
  flow := 0
  indent := -1
  outer := []
  keyAllowed := true
  keys := [none]

def inFlow (l : Lexer) : Bool :=
  l.flow != 0

def spot (l : Lexer) : Spot :=
  l.cursor.spot

def column (l : Lexer) : Int :=
  l.cursor.spot.column

def emit (l : Lexer) (t : Token) : Lexer :=
  { l with tokens := t :: l.tokens, count := l.count + 1 }

/-- Puts a token in behind the first `number` ones. -/
def emitAt (l : Lexer) (number : Nat) (t : Token) : Lexer :=
  let newer := l.count - number
  { l with
    tokens := l.tokens.take newer ++ t :: l.tokens.drop newer
    count := l.count + 1 }

def skip (l : Lexer) (n : Nat) : Lexer :=
  { l with cursor := l.cursor.move n }

def allowKey (l : Lexer) (b : Bool) : Lexer :=
  { l with keyAllowed := b }

def withKey (l : Lexer) (k : Option PendingKey) : Lexer :=
  { l with keys := k :: l.keys.tail }

def pending (l : Lexer) : Option PendingKey :=
  l.keys.head?.join

/-- Gives up a key that may have started; if there can be nothing else, the text is wrong. -/
def dropKey (l : Lexer) : Option Lexer :=
  match l.pending with
  | some k => if k.required then none else some (l.withKey none)
  | none => some l

/-- Remembers that a key may start here. -/
def saveKey (l : Lexer) : Option Lexer :=
  if l.keyAllowed then do
    let required := !l.inFlow && l.indent == l.column
    let key : PendingKey := ⟨l.count, required, l.spot⟩
    return (← l.dropKey).withKey (some key)
  else some l

/-- Whether a key that started at a place can no longer be one here. -/
def isStale (here : Spot) (k : PendingKey) : Bool :=
  k.spot.line < here.line || k.spot.index + 1024 < here.index

def dropStale (l : Lexer) : Option Lexer := do
  let keys ← l.keys.mapM fun k =>
    match k with
    | some k => if isStale l.spot k then if k.required then none else some none else some (some k)
    | none => some none
  return { l with keys }

/-- Opens a block at a column, unless it is open already; its first token goes behind the first
`number` ones. -/
def openBlock (l : Lexer) (column : Int) (number : Nat) (t : Token) : Lexer :=
  if l.inFlow || column ≤ l.indent then l
  else { l.emitAt number t with indent := column, outer := l.indent :: l.outer }

/-- Closes the blocks from the innermost one that are further right than a column. -/
def closeBlocks (column : Int) : List Int → Lexer → Lexer
  | i :: outer, l =>
    if column < l.indent then closeBlocks column outer { l.emit .blockEnd with indent := i, outer }
    else l
  | [], l => l

def unindent (l : Lexer) (column : Int) : Lexer :=
  if l.inFlow then l else closeBlocks column l.outer l

/-- Skips blanks, comments and breaks. A tab counts as a blank where no key can start, and outside
of flows a key can start on every new line. A line may begin with a mark of the byte order, which
takes up a column. -/
def skipSpace : Nat → Lexer → Lexer
  | 0, l => l
  | fuel + 1, l =>
    match l.cursor.rest with
    | [] => l
    | '#' :: _ => skipSpace fuel { l with cursor := l.cursor.skipComment }
    | c :: _ =>
      if c == ' ' || (c == '\t' && (l.inFlow || !l.keyAllowed)) then skipSpace fuel (l.skip 1)
      else if c == Char.ofNat 0xFEFF && l.spot.column == 0 then skipSpace fuel (l.skip 1)
      else if isBreak c then
        skipSpace fuel { l with
          cursor := l.cursor.skipBreak
          keyAllowed := l.keyAllowed || !l.inFlow }
      else l

def afterDirectives (l : Lexer) : Option Lexer := do
  return (← (l.unindent (-1)).dropKey).allowKey false

def lexDirective (l : Lexer) : Option Lexer := do
  let l ← l.afterDirectives
  let (d, c) ← directive (l.cursor.move 1)
  let t : Token := match d with
    | .version major minor => .version major minor
    | .handle name expansion => .handle name expansion
  return { l.emit t with cursor := c }

def lexDocumentMark (l : Lexer) (t : Token) : Option Lexer := do
  return ((← l.afterDirectives).emit t).skip 3

def openFlow (l : Lexer) (t : Token) : Option Lexer := do
  let l ← l.saveKey
  return ({ l with keys := none :: l.keys, flow := l.flow + 1, keyAllowed := true }.emit t).skip 1

def closeFlow (l : Lexer) (t : Token) : Option Lexer := do
  let l ← l.dropKey
  let l := if l.inFlow then { l with keys := l.keys.tail, flow := l.flow - 1 } else l
  return ((l.allowKey false).emit t).skip 1

def lexFlowEntry (l : Lexer) : Option Lexer := do
  return (((← l.dropKey).allowKey true).emit .flowEntry).skip 1

def lexBlockEntry (l : Lexer) : Option Lexer := do
  guard (l.inFlow || l.keyAllowed)
  let l := l.openBlock l.column l.count .blockSequenceStart
  return (((← l.dropKey).allowKey true).emit .blockEntry).skip 1

/-- A key that is marked as one. -/
def lexKey (l : Lexer) : Option Lexer := do
  guard (l.inFlow || l.keyAllowed)
  let l := l.openBlock l.column l.count .blockMappingStart
  return (((← l.dropKey).allowKey (!l.inFlow)).emit .key).skip 1

/-- The colon behind a key, or without one. -/
def lexValue (l : Lexer) : Option Lexer :=
  match l.pending with
  | some k =>
    let l := (l.emitAt k.number .key).openBlock k.spot.column k.number .blockMappingStart
    some ((((l.withKey none).allowKey false).emit .value).skip 1)
  | none => do
    guard (l.inFlow || l.keyAllowed)
    let l := l.openBlock l.column l.count .blockMappingStart
    return ((l.allowKey (!l.inFlow)).emit .value).skip 1

/-- A token that can start a key, read from the cursor on. -/
def lexAtom (l : Lexer) (read : Cursor → Option (Token × Cursor)) : Option Lexer := do
  let l := (← l.saveKey).allowKey false
  let (t, c) ← read l.cursor
  return { l.emit t with cursor := c }

def lexAnchor (l : Lexer) (token : String → Token) : Option Lexer :=
  l.lexAtom fun c => (anchorName (c.move 1)).map fun n => (token n.1, n.2)

def lexTag (l : Lexer) : Option Lexer :=
  l.lexAtom fun c => (tag l.inFlow c).map fun t => (.tag t.1.1 t.1.2, t.2)

def lexQuoted (l : Lexer) (style : ScalarStyle)
    (read : Spot → List Char → Gap → List Char → Option (String × Cursor)) : Option Lexer :=
  l.lexAtom fun c =>
    (read (c.spot.move 1) [] .none c.rest.tail).map fun s => (.scalar s.1 style, s.2)

def lexBlockScalar (l : Lexer) (style : ScalarStyle) : Option Lexer := do
  let l := (← l.dropKey).allowKey true
  let (text, c) ← blockScalar (style == .folded) l.indent (l.cursor.move 1)
  return { l.emit (.scalar text style) with cursor := c }

def lexPlain (l : Lexer) : Option Lexer := do
  let l := (← l.saveKey).allowKey false
  let s ← plain l.inFlow (l.indent + 1) l.spot [] .none l.cursor.rest
  return { l.emit (.scalar s.text .plain) with cursor := s.cursor, keyAllowed := s.onNewLine }

/-- The characters that a plain scalar does not start with. -/
def isIndicator (c : Char) : Bool :=
  "-?:,[]#&*!|>'\"%@".toList.contains c || c == '\x7b' || c == '\x7d' || c == Char.ofNat 0x60

/-- Whether a plain scalar starts here. -/
def startsPlain (l : Lexer) (c : Char) (r : List Char) : Bool :=
  if isBlank c then false
  else !isIndicator c || (c == '-' && !r.head?.any isBlank) ||
    (!l.inFlow && (c == '?' || c == ':') && !endsWord r)

/-- The next token, at a place where one starts. -/
def lexToken (l : Lexer) (c : Char) (r : List Char) : Option Lexer :=
  if l.spot.column == 0 && c == '%' then l.lexDirective
  else if l.spot.column == 0 && isDocumentMark (c :: r) then
    l.lexDocumentMark (if c == '-' then .documentStart else .documentEnd)
  else
    match c with
    | '[' => l.openFlow .flowSequenceStart
    | '\x7b' => l.openFlow .flowMappingStart
    | ']' => l.closeFlow .flowSequenceEnd
    | '\x7d' => l.closeFlow .flowMappingEnd
    | ',' => l.lexFlowEntry
    | '*' => l.lexAnchor .alias
    | '&' => l.lexAnchor .anchor
    | '!' => l.lexTag
    | '\'' => l.lexQuoted .singleQuoted singleQuoted
    | '"' => l.lexQuoted .doubleQuoted doubleQuoted
    | c =>
      if c == '-' && endsWord r then l.lexBlockEntry
      else if c == '?' && (l.inFlow || endsWord r) then l.lexKey
      else if c == ':' && (l.inFlow || endsWord r) then l.lexValue
      else if c == '|' && !l.inFlow then l.lexBlockScalar .literal
      else if c == '>' && !l.inFlow then l.lexBlockScalar .folded
      else if l.startsPlain c r then l.lexPlain
      else none

/-- All tokens of the rest of the text. -/
def run : Nat → Lexer → Option (List Token)
  | 0, _ => none
  | fuel + 1, l => do
    let l := skipSpace (l.cursor.rest.length + 1) l
    let l ← l.dropStale
    let l := l.unindent l.column
    match l.cursor.rest with
    | [] =>
      let l ← (l.unindent (-1)).dropKey
      return l.tokens.reverse
    | c :: r => run fuel (← l.lexToken c r)

end Lexer

def Token.ofText? (text : String) : Option (List Token) :=
  if text.toList.all isAllowed then (Lexer.ofText text).run (text.length + 1) else none

end Steading.Yaml
