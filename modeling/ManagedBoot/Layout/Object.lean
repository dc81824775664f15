import ManagedBoot.Layout.Contract
import ManagedBoot.Text.Utf16
import ManagedBoot.Sink
/-!
Objects as buffers of bytes, laid out per the host's contract.

Numbers are little-endian. The accessors trust the layout: a descriptor is the first word, a length
the four bytes after it, and a string's code units the `length` pairs of bytes from offset 12 on,
whatever the buffer holds behind them.
-/
namespace ManagedBoot.Layout

/-- The number whose little-endian bytes are given. -/
def ofLittleEndian : List UInt8 → Nat
  | [] => 0
  | b :: rest => b.toNat + 256 * ofLittleEndian rest

/-- The low `width` bytes of a number, least significant first. -/
def littleEndian : (width : Nat) → Nat → List UInt8
  | 0, _ => []
  | width + 1, n => UInt8.ofNat n :: littleEndian width (n / 256)

/-- The bytes of code units. -/
def unitBytes (us : List UInt16) : List UInt8 := us.flatMap fun u => littleEndian 2 u.toNat

/-- The first `n` code units in a run of bytes. -/
def readUnits : (n : Nat) → List UInt8 → List UInt16
  | n + 1, low :: high :: rest => UInt16.ofNat (low.toNat + 256 * high.toNat) :: readUnits n rest
  | _, _ => []

/-- The largest buffer that can be laid out on word boundaries. -/
def maxSize : Nat := 0x7ffffffffffffff8

/-- A heap object as its bytes. -/
structure Object where
  bytes : List UInt8
  deriving DecidableEq, Repr

namespace Object

def size (o : Object) : Nat := o.bytes.length

/-- The number in `width` bytes at an offset. -/
def numberAt (o : Object) (offset width : Nat) : Nat :=
  ofLittleEndian ((o.bytes.drop offset).take width)

def typeDescriptor (o : Object) : UInt64 := .ofNat (o.numberAt 0 wordSize)

def length (o : Object) : UInt32 := .ofNat (o.numberAt lengthOffset 4)

/-- The string's code units, `length` of them. -/
def codeUnits (o : Object) : List UInt16 := readUnits o.length.toNat (o.bytes.drop dataOffset)

/-- The string's text, with U+FFFD for each unpaired surrogate. -/
def text (o : Object) : String := Utf16.toStringLossy o.codeUnits

/-- Whether the buffer holds as many code units as the length says. -/
def holdsString (o : Object) : Bool :=
  dataOffset ≤ o.size && o.length.toNat ≤ (o.size - dataOffset) / charSize

/-- Overwrites bytes at an offset. What would reach past the end is not written at all. -/
def overwrite (o : Object) (offset : Nat) (data : List UInt8) : Object :=
  if offset + data.length ≤ o.size then
    ⟨o.bytes.take offset ++ data ++ o.bytes.drop (offset + data.length)⟩
  else o

/-- `size` zero bytes. The buffer must at least hold the descriptor. -/
def zeroed (size : UInt64) : Except LayoutError Object :=
  if size.toNat < wordSize || maxSize < size.toNat then .error (.invalidSize size)
  else .ok ⟨List.replicate size.toNat 0⟩

/-- The object with a descriptor and a length written into its first words. -/
def withHeader (o : Object) (descriptor : UInt64) (length : UInt32) : Object :=
  (o.overwrite 0 (littleEndian wordSize descriptor.toNat)).overwrite lengthOffset
    (littleEndian 4 length.toNat)

/-- An array of zeroed elements. -/
def array (descriptor : UInt64) (length : UInt32) (elementSize : UInt64) :
    Except LayoutError Object :=
  match Contract.host.arraySize length.toUInt64 elementSize with
  | none => .error (.invalidSize (.ofNat (UInt64.size - 1)))
  | some size => (zeroed size).map (·.withHeader descriptor length)

/-- A string that holds the given code units. -/
def ofUnits (descriptor : UInt64) (units : List UInt16) : Except LayoutError Object :=
  if UInt32.size ≤ units.length then .error (.invalidSize (.ofNat units.length))
  else
    (array descriptor (.ofNat units.length) (.ofNat charSize)).map
      (·.overwrite dataOffset (unitBytes units))

/-- A string that holds the code units of a text. -/
def string (descriptor : UInt64) (text : String) : Except LayoutError Object :=
  ofUnits descriptor (Utf16.units text)

/-- Writes the string's text to a sink. -/
def writeTo (o : Object) (sink : Sink) : Except SinkError Unit × Sink :=
  sink.write (Utf8.bytes o.text)

end Object
end ManagedBoot.Layout
