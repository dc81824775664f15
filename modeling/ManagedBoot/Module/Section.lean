import ManagedBoot.Module.List
/-!
Module slots between two bookends.

A linker lays out one word-sized slot for each unit between a leading and a trailing bookend. The
range starts one slot past the leading bookend, with addresses modulo 2 ^ 64, and ends at the
trailing one. Null slots are padding: reading skips them.
-/
namespace ManagedBoot

/-- Which way the descriptors reach the runtime. -/
inductive Strategy where
  | sectionMerge
  | scriptMerge
  | activeRegistration
  deriving DecidableEq, Repr

namespace Strategy

def all : List Strategy := [.sectionMerge, .scriptMerge, .activeRegistration]

def name : Strategy → String
  | .sectionMerge => "section-merge"
  | .scriptMerge => "script-merge"
  | .activeRegistration => "active-registration"

/-- What the linker of this target can do. -/
def target : Strategy := .scriptMerge

end Strategy

/-- Section of the leading bookend. -/
def leadingSection : String := ".modules$A"

/-- Section in which each unit places its slot. -/
def unitSection : String := ".modules$I"

/-- Section of the trailing bookend. -/
def trailingSection : String := ".modules$Z"

/-- Size of one slot. -/
def slotSize : UInt64 := 8

/-- The slots strictly between two bookends, from `start` up to `stop`. -/
structure SectionRange where
  start : UInt64
  stop : UInt64
  deriving DecidableEq, Repr

/-- The words of a memory, by address. -/
abbrev Memory := UInt64 → UInt64

/-- The memory that holds an array of slots at an address. -/
def Memory.ofSlots (base : UInt64) (slots : List UInt64) : Memory :=
  fun address => slots.getD ((address - base).toNat / slotSize.toNat) 0

namespace SectionRange

/-- The range between the bookends at the given addresses. -/
def ofBookends (leading trailing : UInt64) : Except RegistryError SectionRange :=
  let start := leading + slotSize
  if trailing < start then .error (.invertedBounds leading trailing)
  else .ok ⟨start, trailing⟩

/-- The range between two slots of an array that stands at `base`. -/
def ofIndexes (base : UInt64) (leading trailing : Nat) : Except RegistryError SectionRange :=
  ofBookends (base + slotSize * .ofNat leading) (base + slotSize * .ofNat trailing)

/-- Number of slots, padding included. -/
def slotCount (r : SectionRange) : UInt64 := (r.stop - r.start) / slotSize

/-- The words of the slots. -/
def slots (r : SectionRange) (memory : Memory) : List UInt64 :=
  (List.range r.slotCount.toNat).map fun i => memory (r.start + slotSize * .ofNat i)

/-- What each slot holds: a descriptor or padding. -/
def descriptors (r : SectionRange) (memory : Memory) : List (Option Descriptor) :=
  (r.slots memory).map Descriptor.ofAddress?

/-- Number of null slots. -/
def padding (r : SectionRange) (memory : Memory) : Nat :=
  (r.descriptors memory).countP (·.isNone)

/-- The list of every descriptor in the range. -/
def read (r : SectionRange) (memory : Memory) : Except RegistryError ModuleList :=
  ModuleList.ofDescriptors ((r.descriptors memory).filterMap id)

end SectionRange
end ManagedBoot
