import ManagedBoot.Toml.Build
import ManagedBoot.Toml.Number
/-!
TOML documents.

`parse` yields the root table of a text, or nothing if the text is not a document. A mark of byte
order may stand in front. Keys have fewer than 80 parts, and fewer than 80 brackets and braces are
open at a time.
-/
namespace ManagedBoot.Toml

/-- The bound on the parts of a key and on nesting. -/
def nestingLimit : Nat := 80

/-- One part of a key: bare, or between quotes on one line. -/
def keyPart (s : List Char) : Option (String × List Char) :=
  match s with
  | '"' :: rest => (basicString (.plain false) rest).map fun (k, rest) => (String.ofList k, rest)
  | '\'' :: rest => (literalString rest).map fun (k, rest) => (String.ofList k, rest)
  | _ =>
    let bare := s.takeWhile isBareKeyChar
    if bare.isEmpty then none else some (String.ofList bare, s.dropWhile isBareKeyChar)

/-- The parts of a key between dots, with blanks around each. -/
def keyParts (s : List Char) : Option (List Key × List Char) :=
  match keyPart (skipBlanks s) with
  | none => none
  | some (text, rest) =>
    let part : Key := ⟨text, .between (skipBlanks s) rest⟩
    match skipBlanks rest with
    | '.' :: more =>
      if more.length < s.length then (keyParts more).map fun (ps, rest) => (part :: ps, rest)
      else none
    | rest => some ([part], rest)
termination_by s.length

/-- A key. -/
def key (s : List Char) : Option (List Key × List Char) := do
  let (parts, rest) ← keyParts s
  if parts.length < nestingLimit then some (parts, rest) else none

/-- A value without parts of its own. -/
def scalar (s : List Char) : Option (Value × List Char) :=
  match s with
  | '"' :: _ => (string s).map fun (text, rest) => (.string text, rest)
  | '\'' :: _ => (string s).map fun (text, rest) => (.string text, rest)
  | 't' :: 'r' :: 'u' :: 'e' :: rest => some (.boolean true, rest)
  | 'f' :: 'a' :: 'l' :: 's' :: 'e' :: rest => some (.boolean false, rest)
  | _ => number s

/-- A value with its place. -/
def placed (item : Reader Value) : Reader (Placed Value) := fun s =>
  (item s).map fun (v, rest) => (⟨v, some (.between s rest)⟩, rest)

/-- The items of an array, up to and with its closing bracket. A comma may follow the last one. -/
def items (item : Reader Value) (s : List Char) : Option (List (Placed Value) × List Char) :=
  match skipFiller false s with
  | ']' :: rest => some ([], rest)
  | start =>
    match placed item start with
    | none => none
    | some (v, rest) =>
      match skipFiller false rest with
      | ']' :: rest => some ([v], rest)
      | ',' :: more =>
        if more.length < s.length then (items item more).map fun (vs, rest) => (v :: vs, rest)
        else none
      | _ => none
termination_by s.length

/-- A key, an equals sign and a value. -/
def keyValue (item : Reader Value) (s : List Char) :
    Option ((List Key × Placed Value) × List Char) :=
  match key s with
  | some (path, '=' :: rest) =>
    (placed item (skipBlanks rest)).map fun (v, rest) => ((path, v), rest)
  | _ => none

/-- The entries of an inline table, up to and with its closing brace. No comma follows the last. -/
def inlineEntries (item : Reader Value) (s : List Char) :
    Option (List (List Key × Placed Value) × List Char) :=
  match keyValue item s with
  | none => none
  | some (entry, rest) =>
    match skipBlanks rest with
    | '}' :: rest => some ([entry], rest)
    | ',' :: more =>
      if more.length < s.length then
        (inlineEntries item more).map fun (es, rest) => (entry :: es, rest)
      else none
    | _ => none
termination_by s.length

/-- An inline table, after its opening brace. -/
def inlineTable (item : Reader Value) (s : List Char) : Option (Value × List Char) :=
  match skipBlanks s with
  | '}' :: rest => some (.table .inline [], rest)
  | start => do
    let (entries, rest) ← inlineEntries item start
    let t ← Table.ofEntries entries
    some (.table .inline t, rest)

/-- A value that opens at most `depth` brackets and braces at a time. -/
def value : (depth : Nat) → Reader Value
  | 0, s => scalar s
  | depth + 1, s =>
    match s with
    | '[' :: rest => (items (value depth) rest).map fun (vs, rest) => (.array vs, rest)
    | '{' :: rest => inlineTable (value depth) rest
    | _ => scalar s

/-- A header, from its opening bracket on. -/
def header (s : List Char) : Option (Statement × List Char) :=
  match s with
  | '[' :: '[' :: rest =>
    match key rest with
    | some (path, ']' :: ']' :: rest) => some (.arrayHeader path (.between s rest), rest)
    | _ => none
  | '[' :: rest =>
    match key rest with
    | some (path, ']' :: rest) => some (.header path (.between s rest), rest)
    | _ => none
  | _ => none

/-- A header or an entry, with the end of its line. -/
def statement (s : List Char) : Option (Statement × List Char) := do
  let (st, rest) ←
    match s with
    | '[' :: _ => header s
    | _ =>
      (keyValue (value (nestingLimit - 1)) s).map fun ((path, v), rest) => (.entry path v, rest)
  some (st, ← lineEnd rest)

/-- The statements of a text. Lines may be empty or hold nothing but a comment. -/
def statements (s : List Char) : Option (List Statement) :=
  match skipBlanks s with
  | [] => some []
  | start =>
    match lineEnd start with
    | some rest => if rest.length < s.length then statements rest else none
    | none =>
      match statement start with
      | none => none
      | some (st, rest) =>
        if rest.length < s.length then (statements rest).map (st :: ·) else none
termination_by s.length

/-- Drops the mark of byte order in front of a text. -/
def skipByteOrderMark : List Char → List Char
  | c :: rest => if c.toNat = 0xFEFF then rest else c :: rest
  | [] => []

/-- The root table of a text. -/
def parse (text : String) : Option (Placed Table) := do
  Table.ofStatements text.length (← statements (skipByteOrderMark text.toList))

end ManagedBoot.Toml
