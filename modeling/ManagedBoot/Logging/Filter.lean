import ManagedBoot.Logging.Record
import ManagedBoot.Pattern.Meaning
import ManagedBoot.Text.Basic
/-!
Log filters.

A filter is a list of directives between commas: a level for every target, a target with a level, or
a target alone, which lets everything through. A record is decided by the directive with the longest
name that its target starts with; where none fits it is dropped. Without any directive only errors
pass. Behind a slash stands a pattern that every message must match somewhere; one that makes no
sense is left out.
-/
namespace ManagedBoot

/-- The levels up to which records pass; `none` stops all of them. -/
abbrev Threshold := Option Level

/-- Whether a record of a level passes. -/
def Threshold.admits (threshold : Threshold) (level : Level) : Bool :=
  match threshold with
  | none => false
  | some most => level.verbosity ≤ most.verbosity

/-- The threshold of a name, in any case. -/
def Threshold.ofName? (name : String) : Option Threshold :=
  let upper := name.map Char.toUpper
  if upper = "OFF" then some none else (Level.all.find? (·.name == upper)).map some

/-- A threshold for the targets that start with a name, or for all of them. -/
structure Directive where
  name : Option String
  threshold : Threshold
  deriving DecidableEq, Repr

namespace Directive

/-- Whether the directive is about a target. -/
def appliesTo (d : Directive) (target : String) : Bool :=
  match d.name with
  | none => true
  | some name => target.startsWith name

/-- The length by which directives are compared. -/
def weight (d : Directive) : Nat := (d.name.map (·.utf8ByteSize)).getD 0

end Directive

structure LogFilter where
  directives : List Directive := []
  /-- What every message must match. -/
  pattern : Option Pattern.Matcher := none
  deriving DecidableEq, Repr

/-- A part of a filter that makes no sense. -/
inductive FilterWarning where
  | tooManySlashes (spec : String)
  | notUnderstood (part : String)
  | badPattern (cause : Pattern.CompileError)
  deriving DecidableEq, Repr

def FilterWarning.message : FilterWarning → String
  | .tooManySlashes spec =>
    s!"warning: invalid logging spec '{spec}', ignoring it (too many '/'s)"
  | .notUnderstood part => s!"warning: invalid logging spec '{part}', ignoring it"
  | .badPattern cause => s!"warning: invalid regex filter - {cause.message}"

namespace LogFilter

/-- Reads one directive. -/
def readDirective (part : String) : Except FilterWarning Directive :=
  match part.splitOn "=" with
  | [name] =>
    match Threshold.ofName? name with
    | some threshold => .ok ⟨none, threshold⟩
    | none => .ok ⟨some name, some .trace⟩
  | [name, level] =>
    let level := trimSpace level
    if level.isEmpty then .ok ⟨some name, some .trace⟩
    else
      match Threshold.ofName? level with
      | some threshold => .ok ⟨some name, threshold⟩
      | none => .error (.notUnderstood level)
  | _ => .error (.notUnderstood part)

/-- Adds a directive in the place of an earlier one with the same name. -/
def insert (directives : List Directive) (d : Directive) : List Directive :=
  if directives.any (·.name == d.name) then
    directives.map fun old => if old.name = d.name then d else old
  else directives ++ [d]

/-- Reads the parts between commas. -/
def readParts : List String → LogFilter × List FilterWarning
  | parts =>
    (parts.map trimSpace).filter (!·.isEmpty) |>.foldl
      (fun (f, warnings) part =>
        match readDirective part with
        | .ok d => ({ f with directives := insert f.directives d }, warnings)
        | .error w => (f, warnings ++ [w]))
      ({}, [])

/-- Reads a filter and yields what was not understood. -/
def parse (spec : String) : LogFilter × List FilterWarning :=
  match spec.splitOn "/" with
  | [directives] => readParts (directives.splitOn ",")
  | [directives, pattern] =>
    let (f, warnings) := readParts (directives.splitOn ",")
    match Pattern.compile pattern with
    | .ok m => ({ f with pattern := some m }, warnings)
    | .error e => (f, warnings ++ [.badPattern e])
  | _ => ({}, [.tooManySlashes spec])

/-- The directives with longer names before shorter ones, and later ones before earlier ones. -/
def ordered (f : LogFilter) : List Directive :=
  if f.directives.isEmpty then [⟨none, some .error⟩]
  else (f.directives.mergeSort fun a b => a.weight ≤ b.weight).reverse

/-- The threshold for a target. -/
def thresholdFor (f : LogFilter) (target : String) : Threshold :=
  match f.ordered.find? (·.appliesTo target) with
  | some d => d.threshold
  | none => none

/-- Whether a record passes. -/
def admits (f : LogFilter) (r : LogRecord) : Bool :=
  (f.thresholdFor r.target).admits r.level && f.pattern.all (·.matchesIn r.message.toList)

end LogFilter

namespace LogRecord

/-- The line of a record, with a time stamp if there is one. Later lines of its message are
indented. -/
def line (r : LogRecord) (stamp : Option String) : String :=
  let stamp := (stamp.map (· ++ " ")).getD ""
  let level := Column.padRight 5 r.level.name
  let message := r.message.replace "\n" "\n    "
  s!"[{stamp}{level} {r.target}] {message}\n"

end LogRecord
end ManagedBoot
