import ManagedBoot.CallbackTable
import ManagedBoot.Command.Line
import ManagedBoot.Config.Resolution
import ManagedBoot.Config.Writing
import ManagedBoot.Fault
import ManagedBoot.Text.Basic
/-!
What the commands print.

The layout and the configuration are printed as they are in force, the stubs and callback slots as
tables. A configuration that cannot be resolved fails its command; an explicit file takes the place
of the one that the environment names.

Of a process its exit code and its standard output are told. What stands on the error stream, reports
of failures and log lines, is left out.
-/
namespace ManagedBoot.CommandLine

open Column

/-- The numbers of a contract by name. -/
def layoutText (c : Layout.Contract) : String :=
  String.join (Layout.Field.all.map fun field =>
    padRight 24 field.name ++ toString (c.get field) ++ "\n")

/-- The line of a stub. -/
def stubLine (s : DiagnosticStub) : String :=
  padRight 30 s.symbol ++
    padRight 18 (if s.portableCodegenOnly then "portable-codegen" else "always") ++
    (if s.reportedName = s.symbol then "" else "reports " ++ s.reportedName) ++ "\n"

/-- The symbol that compiled code calls in place of a method that could not be built. -/
def placeholderSymbol : String := "__not_yet_implemented"

def stubsText : String :=
  String.join (DiagnosticStub.all.map stubLine) ++ padRight 30 placeholderSymbol ++
    padRight 18 "always" ++ "walks method and reason strings\n"

/-- The line of a callback slot. -/
def callbackLine (s : CallbackSlot) : String :=
  padLeft 2 (toString s.index) ++ "  " ++ s.name ++
    (if s.providedByHost then "" else " (unset)") ++ "\n"

def callbacksText : String := String.join (CallbackSlot.all.map callbackLine)

/-- Why a command failed. -/
inductive CommandError where
  | config (cause : ConfigError)
  | layout (cause : Layout.WriteError)

def CommandError.message : CommandError → String
  | .config _ => "Failed to load configuration"
  | .layout _ => "Failed to render layout contract as TOML"

/-- What brought the error about. -/
def CommandError.reason : CommandError → String
  | .config cause => cause.message
  | .layout cause => cause.message

/-- The environment in which a command resolves the configuration. -/
def environmentFor (environment : Environment) : Option String → Environment
  | some file => environment.set configVariable file
  | none => environment

/-- What a command prints. -/
def Command.output (environment : Environment) (files : FileReader) :
    Command → Except CommandError String
  | .layout .text => .ok (layoutText .host)
  | .layout .toml => (Layout.Contract.host.toToml).mapError .layout
  | .config file =>
    ((BootConfig.resolve (environmentFor environment file) files).mapError .config).map (·.toToml)
  | .stubs => .ok stubsText
  | .callbacks => .ok callbacksText

/-- Why a command line printed nothing. -/
inductive Failure where
  | usage (cause : UsageError)
  | command (cause : CommandError)

def Failure.exitCode : Failure → Nat
  | .usage _ => 2
  | .command _ => 1

/-- What a command line comes to that does not ask for help: the text that it prints, or why there is
none. -/
def outcome (args : List String) (environment : Environment) (files : FileReader) :
    Except Failure String :=
  match parse args with
  | .error e => .error (.usage e)
  | .ok command => (command.output environment files).mapError .command

theorem outcome_of_parse {args : List String} {command : Command} (h : parse args = .ok command)
    (environment : Environment) (files : FileReader) :
    outcome args environment files = (command.output environment files).mapError .command := by
  rw [outcome, h]

/-- The end of a process: its exit code and what it printed. -/
structure Finished where
  exitCode : Nat
  stdout : String := ""
  deriving DecidableEq, Repr

/-- Runs a command line. Nothing is printed unless the command succeeds. -/
def run (args : List String) (environment : Environment) (files : FileReader) : Finished :=
  match outcome args environment files with
  | .ok text => { exitCode := 0, stdout := text }
  | .error e => { exitCode := e.exitCode }

end ManagedBoot.CommandLine
