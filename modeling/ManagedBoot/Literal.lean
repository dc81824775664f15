import ManagedBoot.Process.Run
/-!
String literals on the runtime's heap.

A heap is the list of its objects, and the address of an object is its place in that list, so two
objects never share one. An allocator answers a request with null or with the address of a new
object. `loadLiteral` asks for exactly as many elements as the text has code units and writes
nothing but those units; it never looks for an equal literal loaded before.
-/
namespace ManagedBoot

/-- The objects allocated so far, in the order of their allocation. -/
structure Heap where
  objects : List Layout.Object := []
  deriving DecidableEq, Repr

namespace Heap

def size (h : Heap) : Nat := h.objects.length

/-- The object at an address. -/
def get? (h : Heap) (address : Nat) : Option Layout.Object := h.objects[address]?

/-- Adds an object and yields its address. -/
def push (h : Heap) (o : Layout.Object) : Nat × Heap := (h.size, ⟨h.objects ++ [o]⟩)

/-- Changes the object at an address. -/
def update (h : Heap) (address : Nat) (f : Layout.Object → Layout.Object) : Heap :=
  ⟨h.objects.modify address f⟩

end Heap

/-- How a heap answers one request: not at all, or with `extra` elements more than asked for. -/
inductive Grant where
  | refused
  | granted (extra : UInt32)
  deriving DecidableEq, Repr

/-- The allocation callbacks of a runtime. The result is an address, or `none` for null. -/
structure Allocator where
  newObject : (descriptor : UInt64) → Run Heap (Option Nat)
  newArray : (descriptor : UInt64) → (length : UInt32) → Run Heap (Option Nat)

namespace Allocator

/-- Allocates an array of two-byte elements as the grant says. -/
def request (grant : Grant) (descriptor : UInt64) (length : UInt32) : Run Heap (Option Nat) := do
  Run.event (.allocation descriptor length)
  match grant with
  | .refused => return none
  | .granted extra =>
    let total := length.toNat + extra.toNat
    if UInt32.size ≤ total then return none
    match Layout.Object.array descriptor (.ofNat total) (.ofNat Layout.charSize) with
    | .error _ => return none
    | .ok o =>
      let (address, heap) := (← Run.get).push o
      Run.set heap
      return some address

/-- An allocator whose every answer is the given grant. -/
def direct (grant : Grant) : Allocator where
  newObject descriptor := request grant descriptor 0
  newArray := request grant

/-- The callbacks of the runtime library, over the allocator that it has. It counts elements in a
signed 32-bit number, so a longer array is refused without a call. -/
def throughLibrary (runtime : Allocator) : Allocator where
  newObject descriptor := do
    Run.event (.library .newObject)
    runtime.newObject descriptor
  newArray descriptor length := do
    if 0x80000000 ≤ length.toNat then return none
    Run.event (.library (.newArray length))
    runtime.newArray descriptor length

/-- The runtime library with an allocator whose every answer is the given grant. -/
def library (grant : Grant) : Allocator := (direct grant).throughLibrary

end Allocator

/-- Where the records about literals come from. -/
def literalTarget : String := "aotboot_rt::literals"

/-- Makes a string object of a literal and yields its address. -/
def loadLiteral (allocator : Allocator) (descriptor : UInt64) (text : String) :
    Run Heap (Option Nat) := do
  let units := Utf16.units text
  if 0x80000000 ≤ units.length then return none
  match ← allocator.newArray descriptor (.ofNat units.length) with
  | none =>
    Run.log .warn literalTarget
      s!"String literal allocation of {units.length} code unit(s) failed"
    return none
  | some address =>
    Run.modify (·.update address (·.overwrite Layout.dataOffset (Layout.unitBytes units)))
    return some address

end ManagedBoot
