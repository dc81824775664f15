import ManagedBoot.Command.Report
/-!
The inspection tool: reads its arguments, environment and at most one file, and prints.
-/
open ManagedBoot

/-- The path of the file that a command line will ask for. -/
def requestedFile (args : List String) (environment : Environment) : Option String :=
  match CommandLine.parse args with
  | .ok (.config file) => CommandLine.environmentFor environment file configVariable
  | _ => none

/-- The reason why a file could not be read. The codes are those of a directory and of a NUL byte;
the other errors of their kinds are a file where a directory is needed and a name that is too
long. -/
def readFailure : IO.Error → ReadError
  | .inappropriateType _ code _ => if code = 21 then .isDirectory else .notDirectory
  | .invalidArgument _ code _ => if code = 22 then .nulInName else .nameTooLong
  | _ => .notFound

/-- Reads a file as text. -/
def readText (path : String) : IO (Except ReadError String) := do
  try
    let bytes ← IO.FS.readBinFile path
    match Utf8.toString? bytes.toList with
    | some text => return .ok text
    | none => return .error .notUtf8
  catch e => return .error (readFailure e)

/-- What a user is told of a command line that the tool does not take. -/
def usageText : CommandLine.UsageError → String
  | .noCommand => "a command is required"
  | .unknownCommand name => s!"unrecognized command '{name}'"
  | .unexpected arg => s!"unexpected argument '{arg}'"
  | .noValue option => s!"a value is required for '{option}'"
  | .badValue option value => s!"invalid value '{value}' for '{option}'"
  | .repeated option => s!"the argument '{option}' cannot be used multiple times"
  | .conflict => "the argument '--verbose' cannot be used with '--quiet'"

/-- What a user is told of a failure. -/
def failureText : CommandLine.Failure → String
  | .usage cause => usageText cause
  | .command cause => cause.message ++ ": " ++ cause.reason

def main (args : List String) : IO UInt32 := do
  let config ← IO.getEnv configVariable
  let filter ← IO.getEnv logVariable
  let environment : Environment := fun name =>
    if name = configVariable then config else if name = logVariable then filter else none
  let content ←
    match requestedFile args environment with
    | some path => readText path
    | none => pure (.error .notFound)
  let files : FileReader := fun _ => content
  if let .error failure := CommandLine.outcome args environment files then
    IO.eprintln s!"error: {failureText failure}"
  let finished := CommandLine.run args environment files
  IO.print finished.stdout
  return .ofNat finished.exitCode

