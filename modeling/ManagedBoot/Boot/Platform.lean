import ManagedBoot.Module.Source
import ManagedBoot.Layout.Contract
/-!
The runtime that a start-up drives.

A platform is asked for each step in turn and answers with a success flag. The runtime library is
one such platform: it reports success by a number other than zero, and it has no image to register.
-/
namespace ManagedBoot

/-- The collaborators of a start-up. `false` is fatal. -/
structure Platform (σ : Type) where
  palInit : Run σ Bool
  attach : Run σ Bool
  enableStackScan : Run σ Bool
  /-- The image to register, where the runtime must be told about it. -/
  image : Run σ (Option Image) := pure none
  registerImage : Image → Run σ Bool := fun _ => pure true
  /-- The layout the image was generated against, where the image records it. -/
  imageLayout : Run σ (Option Layout.Contract) := pure none
  /-- Runs the eager initializers of every module. -/
  initializeModules : ModuleList → Run σ Unit

/-- The managed entry point. -/
abbrev Entry (σ : Type) := ArgVector → Run σ Int32

/-- The functions of a runtime library that a start-up calls. -/
structure RuntimeLibrary (σ : Type) where
  palInit : Run σ Bool
  dllMain : (handle : UInt64) → (reason : UInt32) → (reserved : UInt64) → Run σ Int32
  enableStackReporting : Run σ Int32
  initializeModules : List UInt64 → Int32 → Run σ Unit

/-- The reason code of a process that attaches. -/
def processAttach : UInt32 := 1

/-- The platform that calls a runtime library. -/
def RuntimeLibrary.platform {σ : Type} (library : RuntimeLibrary σ) : Platform σ where
  palInit := library.palInit
  attach := return (← library.dllMain 0 processAttach 0) != 0
  enableStackScan := return (← library.enableStackReporting) != 0
  initializeModules list := library.initializeModules list.rawParts.1 list.rawParts.2

end ManagedBoot
