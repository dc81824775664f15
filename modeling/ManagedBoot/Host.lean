import ManagedBoot.Boot.Sequence
import ManagedBoot.Config.Resolution
import ManagedBoot.Logging.Filter
/-!
The host process of a managed image.

The host resolves its configuration, and falls back to the defaults if that fails: a configuration
never stops a start-up. It then starts the linked modules through the runtime library and runs the
managed entry point. What is printed follows from the output of the run and the configuration
(`Host.shown`).

Nothing unwinds out of the process: where its code does not return, it is aborted. What is printed
then is what was printed before, without what the language itself says of a panic or an abort.
-/
namespace ManagedBoot

/-- The bytes that one piece of output adds to the error stream, where log records look like `line`
makes them look. -/
def Output.errorBytes (line : LogRecord → List UInt8) : Output → List UInt8
  | .log r => line r
  | .text .stderr bytes => bytes
  | .text .stdout _ | .event _ | .passage _ => []

namespace Host

/-- What is linked into the process. -/
structure LinkedImage (σ : Type) where
  library : RuntimeLibrary σ
  entry : Entry σ
  memory : Memory
  /-- Addresses of the bookends. -/
  leading : UInt64
  trailing : UInt64

/-- Where the host's own records come from. -/
def target : String := "aotboot_host"

/-- The configuration in force: the one that was loaded, or the defaults. -/
def settled : Except ConfigError BootConfig → BootConfig
  | .ok c => c
  | .error _ => {}

/-- The configuration to start with, and a record if there was a reason to ignore another. -/
def settle {σ : Type} (resolved : Except ConfigError BootConfig) : Run σ BootConfig :=
  match resolved with
  | .ok c => return c
  | .error e => do
    Run.log .warn target ("Ignoring configuration: " ++ e.message)
    return {}

/-- The whole process. Yields the configuration in force and the exit code. -/
def boot {σ : Type} (image : LinkedImage σ) (resolved : Except ConfigError BootConfig)
    (args : ArgVector) : Run (Session σ) (BootConfig × Int32) := do
  let config ← settle resolved
  match ← Run.zoom (·.runtime) (fun s r => { s with runtime := r })
      (Source.linked image.memory image.leading image.trailing) with
  | .error e =>
    Run.log .error target ("Failed to locate the module list: " ++ e.message)
    return (config, bootFailureExitCode)
  | .ok source =>
    let boot : Initializer σ :=
      { platform := image.library.platform
        source := source
        stream := config.diagnostics.stream }
    return (config, ← boot.run args image.entry)

/-- How a process ended, as its parent on a Unix system sees it. -/
inductive Exit where
  | status (code : Nat)
  | aborted
  deriving DecidableEq, Repr

/-- What a parent process sees of an exit code. -/
def exitStatus (code : Int32) : Nat := (code.toInt % 256).toNat

/-- The end of a process whose code ended so. Its entry point is called as C code is, which nothing
unwinds through. -/
def Exit.ofOutcome : Except Unwind Int32 → Exit
  | .ok code => .status (exitStatus code)
  | .error _ => .aborted

/-- How a process shows its log records: what passes the filter and how lines begin. -/
structure Display where
  filter : LogFilter
  stamp : Option String

/-- How log records are shown under a configuration. `clock` is the time on every line that has
one. -/
def display (c : LoggingConfig) (clock : String) : Display :=
  { filter := (LogFilter.parse c.filter).1
    stamp := if c.timestamps then some clock else none }

/-- What a log record looks like. -/
def Display.line (d : Display) (r : LogRecord) : List UInt8 :=
  if d.filter.admits r then Utf8.bytes (r.line d.stamp) else []

/-- What the logger says about its filter before the first record. -/
def heading (c : LoggingConfig) : List UInt8 :=
  (LogFilter.parse c.filter).2.flatMap fun w => Utf8.bytes (w.message ++ "\n")

/-- A process that has ended. -/
structure Finished where
  exit : Exit
  stdout : List UInt8
  stderr : List UInt8
  deriving DecidableEq, Repr

/-- The number that a shell gives for the end of a process. For an abort it is the number of the
signal, six, above 128. -/
def Finished.exitStatus (f : Finished) : Nat :=
  match f.exit with
  | .status code => code
  | .aborted => 134

/-- What is shown of a host that ended so, with a configuration in force. -/
def shown {σ : Type} (c : BootConfig) (clock : String)
    (ending : Ending (Session σ) (BootConfig × Int32)) : Finished :=
  { exit := .ofOutcome (ending.outcome.map Prod.snd)
    stdout := Output.written .stdout ending.output
    stderr := heading c.logging ++
      ending.output.flatMap (Output.errorBytes (display c.logging clock).line) }

/-- Runs the process and shows its output. -/
def run {σ : Type} (image : LinkedImage σ) (runtime : σ) (environment : Environment)
    (files : FileReader) (args : ArgVector) (clock : String) : Finished :=
  let resolved := BootConfig.resolve environment files
  shown (settled resolved) clock (Run.start (boot image resolved args) { runtime := runtime })

end Host
end ManagedBoot
