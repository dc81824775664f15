import ManagedBoot.Boot.Sequence
import ManagedBoot.Program
/-!
A runtime that follows a script.

The machine keeps what is now active on its thread and a stack of the frames entered, and it counts
the calls it gets. Its bridge saves the active pair in the frame on entry and restores it from there
on leaving. Its platforms and sources answer as told and run programs in between.
-/
namespace ManagedBoot

structure Machine where
  activeFrame : UInt64 := 0
  activeThread : UInt64 := 0
  /-- Numbers of the frames entered, the last one first. -/
  entered : List Nat := []
  registry : Registry := {}
  calls : Nat := 0
  deriving DecidableEq, Repr

namespace Machine

/-- The machine's side of a transition that makes the given pair active. `native` tells which of
its two sets of functions is called. -/
def bridge (native : Bool) (frame thread : UInt64) : Bridge Machine where
  enter number record m :=
    { frame := ⟨m.activeFrame, m.activeThread⟩
      runtime :=
        { m with activeFrame := frame, activeThread := thread, entered := number :: m.entered }
      output := [.event (.enter native record)] }
  leave number record m :=
    { frame := record
      runtime :=
        { m with
          activeFrame := record.savedFrame, activeThread := record.savedThread
          entered := m.entered.tail }
      output := [.event (.leave native record (m.entered.head? == some number))] }

/-- What is now active. -/
def activeEvent (m : Machine) : Event := .active m.activeFrame m.activeThread

/-- Notes a call to a platform. -/
def received (call : PlatformCall) (counted : Bool) : Run Machine Unit := do
  if counted then Run.modify fun m => { m with calls := m.calls + 1 }
  Run.event (.platform call)

/-- The entry point that runs a program and yields its value, or zero. -/
def entry (body : Program Machine) : Entry Machine := fun args =>
  return (← Program.run (some args) body).getD 0

end Machine

/-- How a scripted platform answers. -/
structure PlatformScript where
  palInit : Bool := true
  attach : Bool := true
  stackScan : Bool := true
  registerImage : Bool := true
  image : Option Image := none
  imageLayout : Option Layout.Contract := none
  modules : Program Machine := []

namespace PlatformScript

open Machine

/-- A platform with nothing but what every platform must have. -/
def minimal (script : PlatformScript) : Platform Machine where
  palInit := do
    received .palInit true
    return script.palInit
  attach := do
    received .attach true
    return script.attach
  enableStackScan := do
    received .stackScan true
    return script.stackScan
  initializeModules list := do
    received (.initializeModules list.rawParts.1 list.size) true
    let _ ← Program.run none script.modules

/-- A platform that can also register an image and knows its layout. -/
def full (script : PlatformScript) : Platform Machine :=
  { script.minimal with
    image := do
      received .image false
      return script.image
    registerImage := fun image => do
      received (.imageIs image) false
      received .registerImage true
      return script.registerImage
    imageLayout := do
      received .imageLayout false
      return script.imageLayout }

end PlatformScript

/-- How a scripted runtime library answers. -/
structure LibraryScript where
  palInit : Bool := true
  attach : Int32 := 1
  stackScan : Int32 := 1
  modules : Program Machine := []

/-- The runtime library that follows a script. -/
def LibraryScript.library (script : LibraryScript) : RuntimeLibrary Machine where
  palInit := do
    Run.event (.library .palInit)
    return script.palInit
  dllMain handle reason reserved := do
    Run.event (.library (.dllMain handle reason reserved))
    return script.attach
  enableStackReporting := do
    Run.event (.library .enableStackReporting)
    return script.stackScan
  initializeModules addresses count := do
    Run.event (.library (.initializeModules addresses count))
    let _ ← Program.run none script.modules

/-- Where a scripted start-up takes its modules from. -/
inductive SourceScript where
  /-- Addresses registered beforehand, and perhaps collected once already. -/
  | registered (addresses : List UInt64) (collected : Bool)
  /-- Slots between the bookends at two indexes. -/
  | merged (strategy : Strategy) (slots : List UInt64) (leading trailing : Nat)
  /-- A program, then an error or the list of the addresses that are not null. -/
  | scripted (strategy : Strategy) (body : Program Machine)
      (result : Except RegistryError (List UInt64))

namespace SourceScript

/-- Where a machine keeps the slots of a section. -/
def slotBase : UInt64 := 0x10000

/-- Makes the source. -/
def source : SourceScript → Run Machine (Except RegistryError (Source Machine))
  | .registered addresses collected => do
    let inRegistry {α : Type} (body : Run Registry α) : Run Machine α :=
      Run.zoom (·.registry) (fun m r => { m with registry := r }) body
    match ← inRegistry (Registry.registeringAll addresses) with
    | .error e => return .error e
    | .ok () =>
      if collected then
        let _ ← inRegistry Registry.collecting
      return .ok (.registry (·.registry) (fun m r => { m with registry := r }))
  | .merged strategy slots leading trailing =>
    return (SectionRange.ofIndexes slotBase leading trailing).map
      (Source.merged strategy · (.ofSlots slotBase slots))
  | .scripted strategy body result =>
    return .ok {
      strategy := strategy
      collect := do
        Run.event (.platform .collect)
        let _ ← Program.run none body
        return result.bind fun addresses =>
          ModuleList.ofDescriptors (addresses.filterMap Descriptor.ofAddress?) }

end SourceScript
end ManagedBoot
