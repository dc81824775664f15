import ManagedBoot.Module.List
/-!
Registration by explicit calls.

A registry keeps the descriptors in the order of their registration, each once. Collecting hands
out the list and closes the registry: from then on every registration and every further collection
is refused. The pending queue holds addresses that arrived before anybody owned a registry; draining
it registers them in order and closes the queue, so that what arrives later is dropped.
-/
namespace ManagedBoot

/-- Descriptors registered so far. `seen` serves the test for repetition. -/
structure Registry where
  modules : List Descriptor := []
  seen : List Descriptor := []
  collected : Bool := false
  deriving DecidableEq, Repr

namespace Registry

def size (r : Registry) : Nat := r.modules.length

def isEmpty (r : Registry) : Bool := r.modules.isEmpty

/-- Registers a descriptor. -/
def registerDescriptor (r : Registry) (d : Descriptor) : Except RegistryError Registry :=
  if r.collected then .error .alreadyCollected
  else if d ∈ r.seen then .error (.duplicateModule d.address)
  else .ok { r with modules := r.modules ++ [d], seen := d :: r.seen }

/-- Registers the descriptor at an address. -/
def register (r : Registry) (address : UInt64) : Except RegistryError Registry :=
  match Descriptor.ofAddress? address with
  | none => .error .nullModule
  | some d => r.registerDescriptor d

/-- Hands out the list. The registry is closed and empty afterwards. -/
def collect (r : Registry) : Except RegistryError ModuleList × Registry :=
  if r.collected then (.error .alreadyCollected, r)
  else (ModuleList.ofDescriptors r.modules, { modules := [], seen := [], collected := true })

/-- Registers addresses one after another and stops at the first that is refused. -/
def registerAll (r : Registry) : List UInt64 → Except RegistryError Registry
  | [] => .ok r
  | address :: rest => do (← r.register address).registerAll rest

end Registry

/-- Addresses that wait for somebody to take them over. -/
structure PendingQueue where
  addresses : List UInt64 := []
  drained : Bool := false
  deriving DecidableEq, Repr

namespace PendingQueue

/-- Adds an address. A drained queue drops it. -/
def push (q : PendingQueue) (address : UInt64) : PendingQueue :=
  if q.drained then q else { q with addresses := q.addresses ++ [address] }

/-- Takes over everything queued, once. -/
def drain (q : PendingQueue) : Except RegistryError (List UInt64) × PendingQueue :=
  if q.drained then (.error .alreadyCollected, q)
  else (.ok q.addresses, { addresses := [], drained := true })

end PendingQueue
end ManagedBoot
