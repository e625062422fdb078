import Steading.Text.Plain
import Steading.Url.Percent
import Steading.Url.Punycode

/-!
# Domain names

A domain name is brought to one spelling: letters in lower case, wide and marked-up characters
replaced by plain ones, invisible ones left out, and labels with characters beyond ASCII written in
Punycode behind `xn--`. Some characters of ASCII stand in no domain name.
-/

namespace Steading.Domain

/-- First and last of a run of letters, the distance between neighbours of one case, and what has
to be added for lower case. -/
structure CaseRun where
  first : Nat
  last : Nat
  stride : Nat
  shift : Nat

/-- Upper case of the Latin, Greek, Cyrillic and Armenian scripts. -/
def caseRuns : List CaseRun := [
  ⟨0xC0, 0xD6, 1, 0x20⟩, ⟨0xD8, 0xDE, 1, 0x20⟩, ⟨0x100, 0x12E, 2, 1⟩, ⟨0x132, 0x136, 2, 1⟩,
  ⟨0x139, 0x147, 2, 1⟩, ⟨0x14A, 0x176, 2, 1⟩, ⟨0x179, 0x17D, 2, 1⟩, ⟨0x1CD, 0x1DB, 2, 1⟩,
  ⟨0x1DE, 0x1EE, 2, 1⟩, ⟨0x1F8, 0x21E, 2, 1⟩, ⟨0x222, 0x232, 2, 1⟩, ⟨0x246, 0x24E, 2, 1⟩,
  ⟨0x386, 0x386, 1, 0x26⟩, ⟨0x388, 0x38A, 1, 0x25⟩, ⟨0x38C, 0x38C, 1, 0x40⟩,
  ⟨0x38E, 0x38F, 1, 0x3F⟩, ⟨0x391, 0x3A1, 1, 0x20⟩, ⟨0x3A3, 0x3AB, 1, 0x20⟩,
  ⟨0x400, 0x40F, 1, 0x50⟩, ⟨0x410, 0x42F, 1, 0x20⟩, ⟨0x460, 0x480, 2, 1⟩, ⟨0x48A, 0x4BE, 2, 1⟩,
  ⟨0x4C1, 0x4CD, 2, 1⟩, ⟨0x4D0, 0x52E, 2, 1⟩, ⟨0x531, 0x556, 1, 0x30⟩, ⟨0x1E00, 0x1E94, 2, 1⟩,
  ⟨0x1EA0, 0x1EFE, 2, 1⟩]

def CaseRun.contains (r : CaseRun) (n : Nat) : Bool :=
  r.first ≤ n && n ≤ r.last && (n - r.first) % r.stride == 0

def lower (c : Char) : Char :=
  match caseRuns.find? (·.contains c.toNat) with
  | some r => Char.ofNat (c.toNat + r.shift)
  | none => c.toLower

/-- Soft hyphens, joiners of words, marks of the byte order and selectors of variants. -/
def isInvisible (c : Char) : Bool :=
  let n := c.toNat
  n == 0xAD || n == 0x34F || n == 0x200B || n == 0x2060 || n == 0x2064 || n == 0xFEFF ||
    (0x180B ≤ n && n ≤ 0x180D) || (0xFE00 ≤ n && n ≤ 0xFE0F)

/-- First and last of a run of characters that stand for the characters from another one on. -/
structure FormRun where
  first : Nat
  last : Nat
  plain : Char

/-- Wide, raised, lowered, circled and drawn forms of ASCII, and the full stops of other scripts. -/
def formRuns : List FormRun := [
  ⟨0xAA, 0xAA, 'a'⟩, ⟨0xB2, 0xB3, '2'⟩, ⟨0xB9, 0xB9, '1'⟩, ⟨0xBA, 0xBA, 'o'⟩, ⟨0x17F, 0x17F, 's'⟩,
  ⟨0x2070, 0x2070, '0'⟩, ⟨0x2074, 0x2079, '4'⟩, ⟨0x2080, 0x2089, '0'⟩, ⟨0x212A, 0x212A, 'k'⟩,
  ⟨0x2460, 0x2468, '1'⟩, ⟨0x24B6, 0x24CF, 'a'⟩, ⟨0x24D0, 0x24E9, 'a'⟩, ⟨0x24EA, 0x24EA, '0'⟩,
  ⟨0x3002, 0x3002, '.'⟩, ⟨0xFF01, 0xFF5E, '!'⟩, ⟨0xFF61, 0xFF61, '.'⟩, ⟨0x1D7CE, 0x1D7D7, '0'⟩,
  ⟨0x1D7D8, 0x1D7E1, '0'⟩, ⟨0x1D7E2, 0x1D7EB, '0'⟩, ⟨0x1D7EC, 0x1D7F5, '0'⟩,
  ⟨0x1D7F6, 0x1D7FF, '0'⟩]

def plainForm (c : Char) : Char :=
  match formRuns.find? fun r => r.first ≤ c.toNat && c.toNat ≤ r.last with
  | some r => Char.ofNat (r.plain.toNat + (c.toNat - r.first))
  | none => c

/-- What a character becomes. -/
def spell (c : Char) : List Char :=
  if isInvisible c then [] else [lower (plainForm c)]

def isForbidden (c : Char) : Bool :=
  c.toNat ≤ 0x20 || c.toNat == 0x7F || "%#/:<>?@[\\]^|".toList.contains c

/-- A character beyond ASCII has to be one that can be seen. -/
def isAllowed (c : Char) : Bool :=
  if Punycode.isAscii c then !isForbidden c else Text.isPlain c

/-- A label that is written in Punycode already has to be the spelling of another one. -/
def isEncoded (cs : List Char) : Bool :=
  match Punycode.decode? cs with
  | some label =>
    label.any (!Punycode.isAscii ·) && label.all isAllowed && label.flatMap spell == label &&
      Punycode.encode label == cs
  | none => false

def label? (cs : List Char) : Option (List Char) :=
  if !cs.all isAllowed then none
  else if "xn--".toList.isPrefixOf cs then if isEncoded (cs.drop 4) then some cs else none
  else if cs.all Punycode.isAscii then some cs
  else some ("xn--".toList ++ Punycode.encode cs)

/-- The one spelling of a domain name. -/
def ascii? (cs : List Char) : Option (List Char) :=
  ((Address.pieces '.' (cs.flatMap spell)).mapM label?).map (['.'].intercalate ·)

end Steading.Domain
