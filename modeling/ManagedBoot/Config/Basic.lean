import ManagedBoot.Process.Event
/-!
The configuration of a start-up. Every setting has a default.
-/
namespace ManagedBoot

/-- Names the file to load the configuration from. -/
def configVariable : String := "AOTBOOT_CONFIG"

/-- Overrides the log filter. -/
def logVariable : String := "AOTBOOT_LOG"

/-- The log filter where nobody set one. -/
def defaultFilter : String := "warn"

structure LoggingConfig where
  filter : String := defaultFilter
  timestamps : Bool := false
  deriving DecidableEq, Repr

structure DiagnosticsConfig where
  /-- Where fault reports are printed. -/
  stream : Stream := .stdout
  deriving DecidableEq, Repr

structure BootConfig where
  logging : LoggingConfig := {}
  diagnostics : DiagnosticsConfig := {}
  deriving DecidableEq, Repr

namespace Stream

def name : Stream → String
  | .stdout => "stdout"
  | .stderr => "stderr"

def ofName? (name : String) : Option Stream := [stdout, stderr].find? (·.name == name)

end Stream
end ManagedBoot
