import Steading.Json.Basic

/-!
# Writing JSON

Two layouts of one value: on one line without any spaces, and indented by two spaces a level. In a
string the quote, the backslash and the characters below U+0020 are escaped and nothing else is.
-/

namespace Steading.Json

def escapeChar (c : Char) : List Char :=
  match c with
  | '"' => ['\\', '"']
  | '\\' => ['\\', '\\']
  | '\n' => ['\\', 'n']
  | '\r' => ['\\', 'r']
  | '\t' => ['\\', 't']
  | '\x08' => ['\\', 'b']
  | '\x0c' => ['\\', 'f']
  | c =>
    if c.toNat < 0x10 then ['\\', 'u', '0', '0', '0'] ++ Nat.toDigits 16 c.toNat
    else if c.toNat < 0x20 then ['\\', 'u', '0', '0'] ++ Nat.toDigits 16 c.toNat
    else [c]

def writeText (s : String) : List Char :=
  ['"'] ++ s.toList.flatMap escapeChar ++ ['"']

def writeInt (n : Int) : List Char :=
  (toString n).toList

mutual

def write : Json → List Char
  | .null => "null".toList
  | .bool true => "true".toList
  | .bool false => "false".toList
  | .int n => writeInt n
  | .real s => s.toList
  | .str s => writeText s
  | .arr [] => ['[', ']']
  | .arr (j :: js) => '[' :: write j ++ writeItems js
  | .obj [] => ['\x7b', '\x7d']
  | .obj (m :: ms) => '\x7b' :: writeMember m ++ writeMembers ms
  | .unreadable => "null".toList

def writeItems : List Json → List Char
  | [] => [']']
  | j :: js => ',' :: write j ++ writeItems js

def writeMembers : List (String × Json) → List Char
  | [] => ['\x7d']
  | m :: ms => ',' :: writeMember m ++ writeMembers ms

def writeMember : String × Json → List Char
  | (name, j) => writeText name ++ ':' :: write j

end

/-- One line, no spaces. -/
def compact (j : Json) : String :=
  String.ofList (write j)

def newLine (depth : Nat) : List Char :=
  '\n' :: List.replicate (2 * depth) ' '

mutual

def writeIndented (depth : Nat) : Json → List Char
  | .arr [] => ['[', ']']
  | .arr (j :: js) =>
    '[' :: newLine (depth + 1) ++ writeIndented (depth + 1) j ++ writeIndentedItems depth js
  | .obj [] => ['\x7b', '\x7d']
  | .obj (m :: ms) =>
    '\x7b' :: newLine (depth + 1) ++ writeIndentedMember depth m ++ writeIndentedMembers depth ms
  | .null => "null".toList
  | .bool true => "true".toList
  | .bool false => "false".toList
  | .int n => writeInt n
  | .real s => s.toList
  | .str s => writeText s
  | .unreadable => "null".toList

def writeIndentedItems (depth : Nat) : List Json → List Char
  | [] => newLine depth ++ [']']
  | j :: js =>
    ',' :: newLine (depth + 1) ++ writeIndented (depth + 1) j ++ writeIndentedItems depth js

def writeIndentedMembers (depth : Nat) : List (String × Json) → List Char
  | [] => newLine depth ++ ['\x7d']
  | m :: ms =>
    ',' :: newLine (depth + 1) ++ writeIndentedMember depth m ++ writeIndentedMembers depth ms

def writeIndentedMember (depth : Nat) : String × Json → List Char
  | (name, j) => writeText name ++ ':' :: ' ' :: writeIndented (depth + 1) j

end

/-- One member or item a line, two spaces a level. -/
def pretty (j : Json) : String :=
  String.ofList (writeIndented 0 j)

end Steading.Json
