import ManagedBoot.Text.Utf8
/-!
UTF-16 over lists of code units.

`encode` writes a scalar value above U+FFFF as a high and a low surrogate. `decodeLossy` reads
from left to right, joins a high surrogate with the low one right after it, and puts U+FFFD in the
place of each surrogate without a partner.
-/
namespace ManagedBoot.Utf16

def isHigh (u : UInt16) : Bool := 0xD800 ≤ u && u ≤ 0xDBFF

def isLow (u : UInt16) : Bool := 0xDC00 ≤ u && u ≤ 0xDFFF

/-- The code units of one scalar value. -/
def encodeChar (c : Char) : List UInt16 :=
  if c.toNat < 0x10000 then [UInt16.ofNat c.toNat]
  else
    let v := c.toNat - 0x10000
    [UInt16.ofNat (0xD800 + v / 0x400), UInt16.ofNat (0xDC00 + v % 0x400)]

/-- The code units of a text. -/
def encode (cs : List Char) : List UInt16 := cs.flatMap encodeChar

/-- The code units of a string. -/
def units (s : String) : List UInt16 := encode s.toList

/-- The scalar value of a surrogate pair. -/
def join (high low : UInt16) : Char :=
  Char.ofNat (0x10000 + (high.toNat - 0xD800) * 0x400 + (low.toNat - 0xDC00))

/-- The character of a unit that stands alone. -/
def alone (u : UInt16) : Char :=
  if isHigh u || isLow u then Utf8.replacement else Char.ofNat u.toNat

/-- The text with U+FFFD for each unpaired surrogate. -/
def decodeLossy : List UInt16 → List Char
  | [] => []
  | [u] => [alone u]
  | u :: v :: rest =>
    if isHigh u && isLow v then join u v :: decodeLossy rest
    else alone u :: decodeLossy (v :: rest)

/-- The string with U+FFFD for each unpaired surrogate. -/
def toStringLossy (us : List UInt16) : String := String.ofList (decodeLossy us)

end ManagedBoot.Utf16
