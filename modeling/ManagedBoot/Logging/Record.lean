/-!
Log records: a level, the module that wrote the record, and its text.
-/
namespace ManagedBoot

inductive Level where
  | error
  | warn
  | info
  | debug
  | trace
  deriving DecidableEq, Repr

namespace Level

def all : List Level := [.error, .warn, .info, .debug, .trace]

/-- How much is written at this level: less important records have larger numbers. -/
def verbosity : Level → Nat
  | .error => 1
  | .warn => 2
  | .info => 3
  | .debug => 4
  | .trace => 5

def name : Level → String
  | .error => "ERROR"
  | .warn => "WARN"
  | .info => "INFO"
  | .debug => "DEBUG"
  | .trace => "TRACE"

end Level

structure LogRecord where
  level : Level
  target : String
  message : String
  deriving DecidableEq, Repr

end ManagedBoot
