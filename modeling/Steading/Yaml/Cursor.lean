/-!
# A place in a YAML text

The characters that are still to be read, and where the next one stands. A line ends with a line
feed, a carriage return, both in this order, or one of the wide breaks; the wide line and paragraph
separators stand for themselves, and every other break for a line feed.
-/

namespace Steading.Yaml

def isBlank (c : Char) : Bool :=
  c == ' ' || c == '\t'

def lineSeparator : Char := Char.ofNat 0x2028

def paragraphSeparator : Char := Char.ofNat 0x2029

def isBreak (c : Char) : Bool :=
  c == '\n' || c == '\r' || c == Char.ofNat 0x85 || c == lineSeparator || c == paragraphSeparator

/-- What a break is read as. -/
def breakText (c : Char) : Char :=
  if c == lineSeparator || c == paragraphSeparator then c else '\n'

/-- The first character, if it is one that may follow an indicator: a blank, a break or nothing. -/
def endsWord : List Char → Bool
  | [] => true
  | c :: _ => isBlank c || isBreak c

def endsLine : List Char → Bool
  | [] => true
  | c :: _ => isBreak c

/-- The characters that a text may consist of. -/
def isAllowed (c : Char) : Bool :=
  let n := c.toNat
  n == 0x09 || n == 0x0A || n == 0x0D || (0x20 ≤ n && n ≤ 0x7E) || n == 0x85 ||
    (0xA0 ≤ n && n ≤ 0xD7FF) || (0xE000 ≤ n && n ≤ 0xFFFD) || 0x10000 ≤ n

/-- Letters, digits, hyphens and underscores, which names are made of. -/
def isNameChar (c : Char) : Bool :=
  c.isAlphanum || c == '-' || c == '_'

/-- Whether a line starts with three hyphens or three points that stand alone. -/
def isDocumentMark : List Char → Bool
  | '-' :: '-' :: '-' :: r => endsWord r
  | '.' :: '.' :: '.' :: r => endsWord r
  | _ => false

/-- A place: the number of characters before it, its line, and its column. -/
structure Spot where
  index : Nat
  line : Nat
  column : Nat
  deriving DecidableEq, Inhabited

namespace Spot

def move (s : Spot) (n : Nat) : Spot :=
  { s with index := s.index + n, column := s.column + n }

/-- Behind a break of a number of characters. -/
def nextLine (s : Spot) (n : Nat) : Spot :=
  ⟨s.index + n, s.line + 1, 0⟩

end Spot

structure Cursor where
  rest : List Char
  spot : Spot
  deriving Inhabited

namespace Cursor

def ofText (s : String) : Cursor :=
  ⟨s.toList, ⟨0, 0, 0⟩⟩

def move (c : Cursor) (n : Nat) : Cursor :=
  ⟨c.rest.drop n, c.spot.move n⟩

/-- Reads while a condition holds. -/
def span (p : Char → Bool) (c : Cursor) : List Char × Cursor :=
  let cs := c.rest.takeWhile p
  (cs, c.move cs.length)

def skipBlanks (c : Cursor) : Cursor :=
  (c.span isBlank).2

/-- Skips a comment, if there is one. -/
def skipComment (c : Cursor) : Cursor :=
  match c.rest with
  | '#' :: _ => (c.span fun x => !isBreak x).2
  | _ => c

/-- Skips a break, if there is one. -/
def skipBreak (c : Cursor) : Cursor :=
  match c.rest with
  | '\r' :: '\n' :: r => ⟨r, c.spot.nextLine 2⟩
  | x :: r => if isBreak x then ⟨r, c.spot.nextLine 1⟩ else c
  | [] => c

end Cursor

end Steading.Yaml
