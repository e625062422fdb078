/-!
# JSON values

The members of an object keep their order, and a name may occur twice: what that means is for the
reader of the object to say. Integers that fit 64 bits, signed or unsigned, are apart from all other
numbers, of which only the literal is kept.
-/

namespace Steading

inductive Json
  | null
  | bool (b : Bool)
  | int (n : Int)
  /-- A number with a fraction or an exponent, a negative zero, or an integer beyond 64 bits. -/
  | real (literal : String)
  | str (s : String)
  | arr (items : List Json)
  | obj (members : List (String × Json))
  /-- A string, or an object with a name, that spells half of a surrogate pair: well formed, but
  it holds no text. -/
  | unreadable
  deriving Inhabited

namespace Json

/-- The integers that are kept as such. -/
def intRange (n : Int) : Bool :=
  decide (-0x8000000000000000 ≤ n) && decide (n < 0x10000000000000000)

def strs (ss : List String) : Json :=
  .arr (ss.map .str)

/-- An object's member of a name, if it has exactly one. -/
def member? (name : String) : Json → Option Json
  | .obj ms =>
    match ms.filter (·.1 == name) with
    | [m] => some m.2
    | _ => none
  | _ => none

end Json

end Steading
