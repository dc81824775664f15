/-!
The object layout that a runtime and a code generator agree on.

Every heap object starts with its type descriptor; arrays follow it with a 32-bit element count and
the elements; strings are arrays of UTF-16 code units. A contract holds the five numbers of that
layout as one side sees them. Two contracts agree when all five are equal (`firstMismatch` is
`none`), and `arraySize` is the size of an array unless it leaves 64 bits.
-/
namespace ManagedBoot.Layout

/-- The numbers of a contract, in the order in which they are compared and written. -/
inductive Field where
  | pointerSize
  | typeDescriptorOffset
  | lengthOffset
  | dataOffset
  | charSize
  deriving DecidableEq, Repr

def Field.all : List Field :=
  [.pointerSize, .typeDescriptorOffset, .lengthOffset, .dataOffset, .charSize]

def Field.name : Field → String
  | .pointerSize => "pointer_size"
  | .typeDescriptorOffset => "type_descriptor_offset"
  | .lengthOffset => "length_offset"
  | .dataOffset => "data_offset"
  | .charSize => "char_size"

/-- The layout as one side of the agreement sees it. -/
structure Contract where
  pointerSize : UInt64
  typeDescriptorOffset : UInt64
  lengthOffset : UInt64
  dataOffset : UInt64
  charSize : UInt64
  deriving DecidableEq, Repr

/-- Size of a machine word. -/
def wordSize : Nat := 8

/-- Where the element count of an array stands: after the descriptor. -/
def lengthOffset : Nat := wordSize

/-- Where the elements of an array start: right after the count. -/
def dataOffset : Nat := lengthOffset + 4

/-- Size of one code unit of a string. -/
def charSize : Nat := 2

inductive LayoutError where
  | mismatch (field : Field) (host image : UInt64)
  | invalidSize (size : UInt64)
  deriving DecidableEq, Repr

def LayoutError.message : LayoutError → String
  | .mismatch field host image =>
    s!"Layout contract mismatch on `{field.name}`: host expects {host}, image uses {image}"
  | .invalidSize size => s!"Object of {size} bytes cannot be laid out"

/-- The product, unless it leaves 64 bits. -/
def checkedMul (a b : UInt64) : Option UInt64 :=
  if a.toNat * b.toNat < UInt64.size then some (a * b) else none

/-- The sum, unless it leaves 64 bits. -/
def checkedAdd (a b : UInt64) : Option UInt64 :=
  if a.toNat + b.toNat < UInt64.size then some (a + b) else none

namespace Contract

def get (c : Contract) : Field → UInt64
  | .pointerSize => c.pointerSize
  | .typeDescriptorOffset => c.typeDescriptorOffset
  | .lengthOffset => c.lengthOffset
  | .dataOffset => c.dataOffset
  | .charSize => c.charSize

/-- The contract with the given number in each field. -/
def ofFields (value : Field → UInt64) : Contract :=
  ⟨value .pointerSize, value .typeDescriptorOffset, value .lengthOffset, value .dataOffset,
    value .charSize⟩

/-- The layout this runtime reads objects with. -/
def host : Contract :=
  ⟨.ofNat wordSize, 0, .ofNat Layout.lengthOffset, .ofNat Layout.dataOffset, .ofNat Layout.charSize⟩

instance : Inhabited Contract := ⟨host⟩

/-- The first field on which two contracts differ. -/
def firstMismatch (host image : Contract) : Option Field :=
  Field.all.find? fun field => host.get field != image.get field

/-- The agreement check: it fails at the first field that differs. -/
def ensureMatches (host image : Contract) : Except LayoutError Unit :=
  match firstMismatch host image with
  | none => .ok ()
  | some field => .error (.mismatch field (host.get field) (image.get field))

/-- The size of an array with `length` elements of `elementSize` bytes, unless it leaves 64 bits. -/
def arraySize (c : Contract) (length elementSize : UInt64) : Option UInt64 := do
  checkedAdd (← checkedMul length elementSize) c.dataOffset

end Contract
end ManagedBoot.Layout
