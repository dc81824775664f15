import ManagedBoot.Text.Quoted
/-!
Module descriptors and the list a runtime is started with.

Every unit compiled from managed code has one descriptor, the non-null address of its metadata.
A list holds each descriptor once and at most `maxModules` of them; `ModuleList.bounded` refuses
the first element that breaks either rule, and the limit before the repetition.
-/
namespace ManagedBoot

/-- An address in lower-case hexadecimal. -/
def addressText (address : UInt64) : String := "0x" ++ Quoted.hex address.toNat

/-- The address of one unit's metadata. Null is never a descriptor. -/
structure Descriptor where
  address : UInt64
  nonnull : address ≠ 0
  deriving DecidableEq, Repr

def Descriptor.ofAddress? (address : UInt64) : Option Descriptor :=
  if h : address ≠ 0 then some ⟨address, h⟩ else none

/-- The descriptors at the given addresses, or the index of the first null. -/
def Descriptor.ofAddresses (addresses : List UInt64) : Except Nat (List Descriptor) :=
  match addresses.findIdx? (· == 0) with
  | some i => .error i
  | none => .ok (addresses.filterMap ofAddress?)

inductive RegistryError where
  | nullModule
  | duplicateModule (address : UInt64)
  | invertedBounds (leading trailing : UInt64)
  | tooManyModules (count : Nat)
  | alreadyCollected
  deriving DecidableEq, Repr

def RegistryError.message : RegistryError → String
  | .nullModule => "A null module descriptor was registered"
  | .duplicateModule address =>
    s!"Module descriptor {addressText address} was registered more than once"
  | .invertedBounds leading trailing =>
    s!"Trailing module bookend {addressText trailing} lies before the leading bookend " ++
      addressText leading
  | .tooManyModules count => s!"{count} module descriptors exceed what the runtime can be handed"
  | .alreadyCollected => "Module registration attempted after the module list was collected"

/-- The most descriptors the runtime takes in one call. -/
def maxModules : Nat := 0x7fffffff

/-- The collected descriptors, one for each unit. -/
structure ModuleList where
  modules : List Descriptor := []
  deriving DecidableEq, Repr

namespace ModuleList

/-- Adds descriptors to those kept so far, which are in reverse order. -/
def keep (limit : Nat) (kept : List Descriptor) : List Descriptor → Except RegistryError ModuleList
  | [] => .ok ⟨kept.reverse⟩
  | d :: rest =>
    if kept.length = limit then .error (.tooManyModules (limit + 1))
    else if d ∈ kept then .error (.duplicateModule d.address)
    else keep limit (d :: kept) rest

/-- The list of the given descriptors, unless one repeats or they are more than `limit`. -/
def bounded (ds : List Descriptor) (limit : Nat) : Except RegistryError ModuleList :=
  keep limit [] ds

def ofDescriptors (ds : List Descriptor) : Except RegistryError ModuleList := bounded ds maxModules

def size (l : ModuleList) : Nat := l.modules.length

def isEmpty (l : ModuleList) : Bool := l.modules.isEmpty

def addresses (l : ModuleList) : List UInt64 := l.modules.map (·.address)

/-- The array of addresses and its count, as the runtime takes them. -/
def rawParts (l : ModuleList) : List UInt64 × Int32 := (l.addresses, .ofNat l.size)

end ModuleList
end ManagedBoot
