/-!
# Targets of requests

The path and the query that a request names. Not every character may stand in them as it is, and
what follows a `#` is for whoever asks and is not sent.
-/

namespace Steading

/-- Why a text is not the target of a request. -/
inductive TargetFault
  | character
  | length
  deriving DecidableEq, Inhabited

def TargetFault.message : TargetFault → String
  | character => "invalid uri character"
  | length => "uri too long"

namespace Target

/-- Characters beyond ASCII may stand anywhere. -/
def isPathChar (c : Char) : Bool :=
  let n := c.toNat
  n == 0x21 || n == 0x22 || (0x24 ≤ n && n ≤ 0x3B) || n == 0x3D || (0x40 ≤ n && n ≤ 0x5F) ||
    (0x61 ≤ n && n ≤ 0x7E) || 0x80 ≤ n

def isQueryChar (c : Char) : Bool :=
  let n := c.toNat
  n == 0x21 || (0x24 ≤ n && n ≤ 0x3B) || n == 0x3D || (0x3F ≤ n && n ≤ 0x7E) || 0x80 ≤ n

def isWellFormed (cs : List Char) : Bool :=
  (cs.takeWhile (· != '?')).all isPathChar && ((cs.dropWhile (· != '?')).drop 1).all isQueryChar

/-- How many bytes a target may have, with what is not sent. -/
def longest : Nat :=
  65534

def ofText (s : String) : Except TargetFault String :=
  let cs := s.toList.takeWhile (· != '#')
  if longest < s.utf8ByteSize then .error .length
  else if isWellFormed cs then .ok (String.ofList cs)
  else .error .character

end Target

end Steading
