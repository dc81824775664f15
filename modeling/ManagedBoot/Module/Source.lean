import ManagedBoot.Module.Registry
import ManagedBoot.Module.Section
import ManagedBoot.Process.Run
/-!
Ways of producing the module list.

Registration, collection and reading of a section as runs that leave log records behind. A source
is anything with a strategy and a collection: a registry that is part of the runtime's state, or
the slots between two bookends. Hooks register the modules of one unit each; the first that fails
ends the sequence.
-/
namespace ManagedBoot

namespace Registry

def target : String := "aotboot_registry::active"

/-- Applies one registration of `address` and records it if it was accepted. -/
def applying (register : Registry → Except RegistryError Registry) (address : UInt64) :
    Run Registry (Except RegistryError Unit) := do
  match register (← Run.get) with
  | .error e => return .error e
  | .ok r =>
    Run.set r
    Run.log .trace target s!"Registered module descriptor {addressText address}"
    return .ok ()

def registering (address : UInt64) : Run Registry (Except RegistryError Unit) :=
  applying (·.register address) address

def registeringDescriptor (d : Descriptor) : Run Registry (Except RegistryError Unit) :=
  applying (·.registerDescriptor d) d.address

/-- Registers addresses in order and stops at the first that is refused. -/
def registeringAll : List UInt64 → Run Registry (Except RegistryError Unit)
  | [] => return .ok ()
  | address :: rest => do
    match ← registering address with
    | .ok () => registeringAll rest
    | .error e => return .error e

/-- Hands out the list and closes the registry. -/
def collecting : Run Registry (Except RegistryError ModuleList) := do
  let (result, r) := (← Run.get).collect
  Run.set r
  if let .ok list := result then
    Run.log .debug target s!"{Strategy.activeRegistration.name}: {list.size} module(s) registered"
  return result

end Registry

/-- Registers the modules of one unit. -/
abbrev RegistrationHook := Run Registry (Except RegistryError Unit)

/-- A hook that registers addresses in order, stops at the first error unless it is tolerant, and
fails at its end if it is told to. -/
structure UnitHook where
  addresses : List UInt64
  tolerant : Bool := false
  failure : Option RegistryError := none
  deriving DecidableEq, Repr

namespace UnitHook

/-- Registers addresses and ignores those that are refused. -/
def registeringAny : List UInt64 → Run Registry Unit
  | [] => return ()
  | address :: rest => do
    let _ ← Registry.registering address
    registeringAny rest

def run (hook : UnitHook) : RegistrationHook := do
  let result ←
    if hook.tolerant then
      registeringAny hook.addresses
      pure (.ok ())
    else Registry.registeringAll hook.addresses
  match result, hook.failure with
  | .error e, _ => return .error e
  | .ok (), some e => return .error e
  | .ok (), none => return .ok ()

end UnitHook

/-- Runs hooks in order up to the first that fails. Yields how many were called. -/
def RegistrationHook.runAll : List RegistrationHook → Run Registry (Nat × Except RegistryError Unit)
  | [] => return (0, .ok ())
  | hook :: rest => do
    match ← hook with
    | .error e => return (1, .error e)
    | .ok () =>
      let (called, result) ← runAll rest
      return (called + 1, result)

namespace PendingQueue

/-- Queues an address that a loader announces. One that comes too late is dropped. -/
def announcing (address : UInt64) : Run PendingQueue Unit := do
  let q ← Run.get
  if q.drained then
    Run.log .error Registry.target <|
      s!"Module {addressText address} registered after the module list was collected; ignored"
  Run.set (q.push address)

/-- Drains the queue into a new registry. -/
def takingOver : Run PendingQueue (Except RegistryError Registry) := do
  let (result, q) := (← Run.get).drain
  Run.set q
  match result with
  | .error e => return .error e
  | .ok addresses =>
    match ← Run.apart {} (Registry.registeringAll addresses) with
    | (.ok (), r) => return .ok r
    | (.error e, _) => return .error e

end PendingQueue

namespace SectionRange

def target : String := "aotboot_registry::section"

/-- Reads the range and records how much of it was padding. -/
def reading {σ : Type} (r : SectionRange) (memory : Memory) :
    Run σ (Except RegistryError ModuleList) := do
  let result := r.read memory
  let padding := r.padding memory
  if result.isOk && 0 < padding then
    Run.log .trace target s!"Skipped {padding} padding slot(s) in the module section"
  return result

end SectionRange

/-- A way of producing the module list. -/
structure Source (σ : Type) where
  strategy : Strategy
  collect : Run σ (Except RegistryError ModuleList)

namespace Source

variable {σ : Type}

/-- The registry that stands in a part of the runtime's state. -/
def registry (part : σ → Registry) (replace : σ → Registry → σ) : Source σ where
  strategy := .activeRegistration
  collect := Run.zoom part replace Registry.collecting

/-- The slots between two bookends, however the linker merged them. -/
def merged (strategy : Strategy) (range : SectionRange) (memory : Memory) : Source σ where
  strategy := strategy
  collect := do
    let result ← range.reading memory
    if let .ok list := result then
      Run.log .debug SectionRange.target
        s!"{strategy.name}: {list.size} module(s) between bookends"
    return result

/-- The source between the bookends of the running image. -/
def linked (memory : Memory) (leading trailing : UInt64) :
    Run σ (Except RegistryError (Source σ)) := do
  Run.log .debug "aotboot_registry::linked"
    s!"Using {Strategy.target.name} module registration"
  return (SectionRange.ofBookends leading trailing).map (merged Strategy.target · memory)

end Source
end ManagedBoot
