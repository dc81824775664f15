import ManagedBoot.Layout.Contract
import ManagedBoot.Module.List
/-!
What can stop a process before its managed entry point is reached.
-/
namespace ManagedBoot

/-- Exit code of a process whose start-up failed. -/
def bootFailureExitCode : Int32 := -1

inductive BootError where
  | palInit
  | runtimeAttach
  | stackScanning
  | imageRegistration
  | registry (cause : RegistryError)
  | layout (cause : Layout.LayoutError)
  deriving DecidableEq, Repr

namespace BootError

def message : BootError → String
  | .palInit => "Platform abstraction layer failed to initialize"
  | .runtimeAttach => "Runtime library refused the process attach notification"
  | .stackScanning => "Conservative stack scanning could not be enabled"
  | .imageRegistration => "Runtime rejected the managed image registration"
  | .registry cause => "Module list could not be built: " ++ cause.message
  | .layout cause => "Managed image disagrees with the host object layout: " ++ cause.message

def exitCode (_ : BootError) : Int32 := bootFailureExitCode

end BootError
end ManagedBoot
