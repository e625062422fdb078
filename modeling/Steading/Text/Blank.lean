/-!
# Blank and control characters

Which characters count as white space and which as control characters, what is left of a text once
the white space at both its ends is cut off, and when one text stands inside another.
-/

namespace Steading.Text

/-- Tabs, breaks, the space, and the other spaces and separators of Unicode. -/
def isBlank (c : Char) : Bool :=
  let n := c.toNat
  (9 ≤ n && n ≤ 13) || n == 0x20 || n == 0x85 || n == 0xA0 || n == 0x1680 ||
    (0x2000 ≤ n && n ≤ 0x200A) || n == 0x2028 || n == 0x2029 || n == 0x202F || n == 0x205F ||
    n == 0x3000

def isControl (c : Char) : Bool :=
  let n := c.toNat
  n < 0x20 || (0x7F ≤ n && n < 0xA0)

def trimBlanks (cs : List Char) : List Char :=
  ((cs.dropWhile isBlank).reverse.dropWhile isBlank).reverse

def trim (s : String) : String :=
  String.ofList (trimBlanks s.toList)

/-- Only the letters `A` to `Z` change. -/
def lower (s : String) : String :=
  String.ofList (s.toList.map Char.toLower)

/-- Whether `w` stands somewhere in a text, as one unbroken piece. -/
def occursIn (w : List Char) : List Char → Bool
  | [] => w.isEmpty
  | c :: cs => w.isPrefixOf (c :: cs) || occursIn w cs

/-- Pads with spaces on the right up to a width; a longer text is left as it is. -/
def padRight (width : Nat) (s : String) : String :=
  s ++ String.ofList (List.replicate (width - s.length) ' ')

end Steading.Text
