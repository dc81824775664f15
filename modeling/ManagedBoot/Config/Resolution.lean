import ManagedBoot.Config.Reading
/-!
The effective configuration.

The configuration variable names a file; unset or empty, it leaves the defaults. The log variable,
if set and not empty, replaces the log filter. It is asked for only if the file could be loaded.
-/
namespace ManagedBoot

/-- Why a file could not be read as text. -/
inductive ReadError where
  | notFound
  | notDirectory
  | isDirectory
  | nameTooLong
  | notUtf8
  | nulInName
  deriving DecidableEq, Repr

def ReadError.message : ReadError → String
  | .notFound => "No such file or directory (os error 2)"
  | .notDirectory => "Not a directory (os error 20)"
  | .isDirectory => "Is a directory (os error 21)"
  | .nameTooLong => "File name too long (os error 36)"
  | .notUtf8 => "stream did not contain valid UTF-8"
  | .nulInName => "file name contained an unexpected NUL byte"

inductive ConfigError where
  | read (path : String) (cause : ReadError)
  | parse (cause : ParseError)

def ConfigError.message : ConfigError → String
  | .read path cause => s!"Failed to read config file {path}: {cause.message}"
  | .parse cause => "Failed to parse config: " ++ cause.message

/-- The texts of files by path. -/
abbrev FileReader := String → Except ReadError String

/-- The variables of an environment that are set to a text. -/
abbrev Environment := String → Option String

namespace BootConfig

/-- The configuration in a file. -/
def load (files : FileReader) (path : String) : Except ConfigError BootConfig :=
  match files path with
  | .error e => .error (.read path e)
  | .ok text => (ofToml text).mapError .parse

/-- Replaces the log filter unless the given one is missing or empty. -/
def withFilter (c : BootConfig) (filter : Option String) : BootConfig :=
  match filter with
  | some f => if f.isEmpty then c else { c with logging := { c.logging with filter := f } }
  | none => c

/-- The file part of a resolution: the file that the variable names, or the defaults. -/
def base (environment : Environment) (files : FileReader) : Except ConfigError BootConfig :=
  match environment configVariable with
  | some path => if path.isEmpty then .ok {} else load files path
  | none => .ok {}

/-- The effective configuration, and the variables that were asked for on the way. -/
def resolution (environment : Environment) (files : FileReader) :
    Except ConfigError BootConfig × List String :=
  match base environment files with
  | .error e => (.error e, [configVariable])
  | .ok c => (.ok (c.withFilter (environment logVariable)), [configVariable, logVariable])

/-- The effective configuration. -/
def resolve (environment : Environment) (files : FileReader) : Except ConfigError BootConfig :=
  (resolution environment files).1

end BootConfig

/-- An environment with another value for one variable. -/
def Environment.set (environment : Environment) (name value : String) : Environment :=
  fun asked => if asked = name then some value else environment asked

end ManagedBoot
