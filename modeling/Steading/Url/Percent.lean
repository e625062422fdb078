import Steading.Address

/-!
# Percent encoding

A character that may not stand in a part of a URL is written as its bytes in UTF-8, each as a
percent sign and two hexadecimal digits. The parts differ in the characters that may stand in them.
-/

namespace Steading.Percent

/-- Which characters of a part have to be encoded. -/
abbrev EncodeSet : Type :=
  Char → Bool

/-- Controls, and everything beyond ASCII. -/
def controls : EncodeSet := fun c =>
  c.toNat < 0x20 || 0x7F ≤ c.toNat

def EncodeSet.with (set : EncodeSet) (more : String) : EncodeSet := fun c =>
  set c || more.toList.contains c

def fragment : EncodeSet :=
  controls.with " \"<>`"

def path : EncodeSet :=
  fragment.with "#?\x7b\x7d"

def userInfo : EncodeSet :=
  path.with "/:;=@[\\]^|"

def query : EncodeSet :=
  controls.with " \"#<>"

/-- Queries of the schemes that go with a host. -/
def specialQuery : EncodeSet :=
  query.with "'"

def hexDigit (n : Nat) : Char :=
  if n < 10 then Char.ofNat ('0'.toNat + n) else Char.ofNat ('A'.toNat + (n - 10))

def encodeByte (b : UInt8) : List Char :=
  ['%', hexDigit (b.toNat / 16), hexDigit (b.toNat % 16)]

def bytes (cs : List Char) : List UInt8 :=
  (String.ofList cs).toUTF8.toList

def encodeChar (set : EncodeSet) (c : Char) : List Char :=
  if set c then (bytes [c]).flatMap encodeByte else [c]

def encode (set : EncodeSet) (cs : List Char) : List Char :=
  cs.flatMap (encodeChar set)

/-- The bytes that a text stands for. A percent sign without two digits stands for itself. -/
def decodeBytes : List UInt8 → List UInt8
  | 0x25 :: a :: b :: bs =>
    let x := Char.ofNat a.toNat
    let y := Char.ofNat b.toNat
    if Address.isHexDigit x && Address.isHexDigit y then
      UInt8.ofNat (Address.value 16 [x, y]) :: decodeBytes bs
    else 0x25 :: decodeBytes (a :: b :: bs)
  | b :: bs => b :: decodeBytes bs
  | [] => []

/-- The text that an encoded text stands for, if its bytes are UTF-8. -/
def decode? (cs : List Char) : Option (List Char) :=
  (String.fromUTF8? (ByteArray.mk (decodeBytes (bytes cs)).toArray)).map String.toList

end Steading.Percent
