import ManagedBoot.Config.Basic
import ManagedBoot.Decimal.Shortest
import ManagedBoot.Text.Quoted
import ManagedBoot.Toml.Document
/-!
Configurations and layout contracts from TOML tables.

The entries of a table are read in their order and the first that does not fit decides the error.
Unknown keys are ignored. A section may also be an array that gives its settings in order, or a date
or time, which gives none of them. In a contract every number must be present; that is tested last.
An error says where in the text the fault lies.
-/
namespace ManagedBoot

open Toml (Key Placed Table Value)

/-- What a value should have been. -/
inductive Expectation where
  | string
  | boolean
  | word
  | loggingSection
  | diagnosticsSection
  deriving DecidableEq, Repr

def Expectation.text : Expectation → String
  | .string => "a string"
  | .boolean => "a boolean"
  | .word => "usize"
  | .loggingSection => "struct LoggingConfig"
  | .diagnosticsSection => "struct DiagnosticsConfig"

/-- Why a value does not fit. -/
inductive Misfit where
  | invalidType (found : Value) (expected : Expectation)
  | negative (n : Int)
  | missingField (name : String)
  | unknownStream (name : String)
  | notStringOrTable
  | noElement
  | manyElements
  | notEmptyTable
  | notEmptyArray
  | notTable (found : Value)

/-- A value as it is named where another type was expected. -/
def describe : Value → String
  | .string text => "string " ++ Quoted.quote text
  | .integer n => s!"integer `{n}`"
  | .float x => s!"floating point `{x.text}`"
  | .boolean b => s!"boolean `{b}`"
  | .datetime _ => "map"
  | .array _ => "sequence"
  | .table _ _ => "map"
  | .tables _ => "sequence"

/-- The kind of a value. -/
def kindName : Value → String
  | .string _ => "string"
  | .integer _ => "integer"
  | .float _ => "float"
  | .boolean _ => "boolean"
  | .datetime _ => "datetime"
  | .array _ => "array"
  | .table .inline _ => "inline table"
  | .table _ _ => "table"
  | .tables _ => "array of tables"

def Misfit.message : Misfit → String
  | .invalidType found expected => s!"invalid type: {describe found}, expected {expected.text}"
  | .negative n => s!"invalid value: integer `{n}`, expected {Expectation.word.text}"
  | .missingField name => s!"missing field `{name}`"
  | .unknownStream name => s!"unknown variant `{name}`, expected `stdout` or `stderr`"
  | .notStringOrTable => "wanted string or table"
  | .noElement => "wanted exactly 1 element, found 0 elements"
  | .manyElements => "wanted exactly 1 element, more than 1 element"
  | .notEmptyTable => "expected empty table"
  | .notEmptyArray => "expected empty array"
  | .notTable found => s!"expected table, found {kindName found}"

/-- A value that does not fit, and where the fault lies. -/
structure DataError where
  cause : Misfit
  span : Option Span

/-- A value to be read. Where it stands is where the fault lies if it does not fit. -/
abbrev Item := Placed Value

namespace Item

/-- The value of an entry. One that stands nowhere counts as standing at its key. -/
def ofEntry (key : Key) (v : Placed Value) : Item := { v with span := v.span <|> some key.span }

def fail {α : Type} (item : Item) (cause : Misfit) : Except DataError α :=
  .error ⟨cause, item.span⟩

def failType {α : Type} (item : Item) (expected : Expectation) : Except DataError α :=
  item.fail (.invalidType item.value expected)

/-- A string and nothing else. -/
def string (item : Item) : Except DataError String :=
  match item.value with
  | .string text => .ok text
  | _ => item.failType .string

/-- A boolean and nothing else. -/
def boolean (item : Item) : Except DataError Bool :=
  match item.value with
  | .boolean b => .ok b
  | _ => item.failType .boolean

/-- An integer that is not negative. -/
def word (item : Item) : Except DataError UInt64 :=
  match item.value with
  | .integer n => if n < 0 then item.fail (.negative n) else .ok (.ofNat n.toNat)
  | _ => item.failType .word

/-- A section that may be a table or an array of its settings in order. -/
def sectionOf {α : Type} (item : Item) (expected : Expectation) (empty : α)
    (ofTable : Table → Except DataError α) (ofItems : List Item → Except DataError α) :
    Except DataError α :=
  match item.value with
  | .table _ t => ofTable t
  | .datetime _ => .ok empty
  | .array items => ofItems items
  | .tables ts => ofItems (ts.map fun t => ⟨.table .header t.value, t.span⟩)
  | _ => item.failType expected

end Item

/-- Reads the entries of a table one after the other. -/
def readEntries {α : Type} (visit : α → String → Item → Except DataError α) (start : α)
    (t : Table) : Except DataError α :=
  t.foldlM (fun read (key, v) => visit read key.text (.ofEntry key v)) start

namespace LoggingConfig

/-- Reads one entry. -/
def visit (c : LoggingConfig) (name : String) (item : Item) : Except DataError LoggingConfig :=
  match name with
  | "filter" => do return { c with filter := ← item.string }
  | "timestamps" => do return { c with timestamps := ← item.boolean }
  | _ => .ok c

def ofTable (t : Table) : Except DataError LoggingConfig := readEntries visit {} t

/-- The filter first, then the timestamps. -/
def ofItems : List Item → Except DataError LoggingConfig
  | [] => .ok {}
  | [filter] => do return { filter := ← filter.string }
  | filter :: timestamps :: _ => do
    return { filter := ← filter.string, timestamps := ← timestamps.boolean }

def ofItem (item : Item) : Except DataError LoggingConfig :=
  item.sectionOf .loggingSection {} ofTable ofItems

end LoggingConfig

namespace Stream

/-- The stream that a text names. The fault lies where the text stands. -/
def ofText (name : String) (span : Option Span) : Except DataError Stream :=
  match ofName? name with
  | some s => .ok s
  | none => .error ⟨.unknownStream name, span⟩

/-- The value behind a stream's name has to be empty. -/
def checkEmpty (item : Item) : Except DataError Unit :=
  match item.value with
  | .table _ t => if t.isEmpty then .ok () else item.fail .notEmptyTable
  | .array vs => if vs.isEmpty then .ok () else item.fail .notEmptyTable
  | .tables ts => if ts.isEmpty then .ok () else item.fail .notEmptyArray
  | v => item.fail (.notTable v)

/-- A stream by its name, or by a table with that one key. -/
def ofItem (item : Item) : Except DataError Stream :=
  match item.value with
  | .string name => ofText name item.span
  | .table _ [] => item.fail .noElement
  | .table _ [(key, v)] => do
    let s ← ofText key.text (some key.span)
    checkEmpty { v with span := v.span <|> item.span }
    return s
  | .table _ _ => item.fail .manyElements
  | _ => item.fail .notStringOrTable

end Stream

namespace DiagnosticsConfig

def visit (c : DiagnosticsConfig) (name : String) (item : Item) :
    Except DataError DiagnosticsConfig :=
  match name with
  | "stream" => do return { c with stream := ← Stream.ofItem item }
  | _ => .ok c

def ofTable (t : Table) : Except DataError DiagnosticsConfig := readEntries visit {} t

def ofItems : List Item → Except DataError DiagnosticsConfig
  | [] => .ok {}
  | stream :: _ => do return { stream := ← Stream.ofItem stream }

def ofItem (item : Item) : Except DataError DiagnosticsConfig :=
  item.sectionOf .diagnosticsSection {} ofTable ofItems

end DiagnosticsConfig

/-- Why a text cannot be read. -/
inductive ParseError where
  /-- It is not TOML. -/
  | notToml
  /-- It is TOML that does not fit. -/
  | data (cause : Misfit) (place : Option Excerpt)

/-- An error in TOML that does not fit shows where the fault lies and ends its line. -/
def ParseError.message : ParseError → String
  | .notToml => "invalid TOML"
  | .data cause none => cause.message ++ "\n"
  | .data cause (some place) =>
    let heading := s!"TOML parse error at line {place.line}, column {place.column}"
    String.join ((heading :: place.lines ++ [cause.message]).map (· ++ "\n"))

/-- Reads a text as TOML and then its root table. -/
def readToml {α : Type} (ofRoot : Placed Table → Except DataError α) (text : String) :
    Except ParseError α :=
  match Toml.parse text with
  | none => .error .notToml
  | some root => (ofRoot root).mapError fun e => .data e.cause (e.span.map (·.excerpt text.toList))

namespace BootConfig

def visit (c : BootConfig) (name : String) (item : Item) : Except DataError BootConfig :=
  match name with
  | "logging" => do return { c with logging := ← LoggingConfig.ofItem item }
  | "diagnostics" => do return { c with diagnostics := ← DiagnosticsConfig.ofItem item }
  | _ => .ok c

def ofTable (t : Table) : Except DataError BootConfig := readEntries visit {} t

/-- The configuration that a TOML text gives. -/
def ofToml (text : String) : Except ParseError BootConfig := readToml (ofTable ·.value) text

end BootConfig

namespace Layout

/-- The numbers of a contract as far as they have been read. -/
abbrev Fields := Field → Option UInt64

/-- Reads one entry. -/
def Fields.visit (fields : Fields) (name : String) (item : Item) : Except DataError Fields :=
  match Field.all.find? (·.name == name) with
  | none => .ok fields
  | some field => do
    let word ← item.word
    return fun f => if f = field then some word else fields f

/-- The contract of the numbers, if all are present. -/
def Fields.contract (fields : Fields) : Except Misfit Contract :=
  match Field.all.find? fun field => (fields field).isNone with
  | some field => .error (.missingField field.name)
  | none => .ok (.ofFields fun field => (fields field).getD 0)

/-- A number that is missing is a fault of the whole table. -/
def Contract.ofRoot (root : Placed Table) : Except DataError Contract := do
  let fields ← readEntries Fields.visit (fun _ => none) root.value
  fields.contract.mapError (⟨·, root.span⟩)

/-- The contract that a TOML text gives. -/
def Contract.ofToml (text : String) : Except ParseError Contract := readToml ofRoot text

end Layout
end ManagedBoot
