import ManagedBoot.Pattern.Cursor
import ManagedBoot.Text.Basic
/-!
Escapes: what a backslash and the characters behind it stand for.
-/
namespace ManagedBoot.Pattern

/-- The characters with a meaning of their own, in a pattern or in a class. -/
def isMeta (c : Char) : Bool := "\\.+*?()|[]\x7b\x7d^$#&-~".toList.contains c

/-- What a backslash leaves as it is: every sign of ASCII but the angle brackets. -/
def isEscapable (c : Char) : Bool :=
  isMeta c || (c.toNat < 0x80 && !c.isAlphanum && c ≠ '<' && c ≠ '>')

/-- The control characters that are written with a letter. -/
def controlEscape? : Char → Option Char
  | 'a' => some '\x07'
  | 'f' => some '\x0c'
  | 't' => some '\t'
  | 'n' => some '\n'
  | 'r' => some '\r'
  | 'v' => some '\x0b'
  | _ => none

/-- The conditions that are written with a letter or a sign. -/
def assertionEscape? : Char → Option Assertion
  | 'A' => some .textStart
  | 'z' => some .textEnd
  | 'B' => some (.word .noBoundary)
  | '<' => some (.word .start)
  | '>' => some (.word .stop)
  | _ => none

/-- The classes that are written with a letter. An upper-case letter stands for the complement. -/
def classEscape? : Char → Option (AsciiClass × Bool)
  | 'd' => some (.digit, false)
  | 's' => some (.space, false)
  | 'w' => some (.word, false)
  | 'D' => some (.digit, true)
  | 'S' => some (.space, true)
  | 'W' => some (.word, true)
  | _ => none

/-- How many digits the number of a character has without braces. -/
def hexWidth? : Char → Option Nat
  | 'x' => some 2
  | 'u' => some 4
  | 'U' => some 8
  | _ => none

def isHexDigit (c : Char) : Bool := (hexDigit? c).isSome

/-- The character whose number is written in hexadecimal. -/
def hexChar? (digits : List Char) : Option Char :=
  scalar? (digits.foldl (fun n d => 16 * n + (hexDigit? d).getD 0) 0)

namespace Reading

/-- A fixed number of digits, of which the first is not missing. -/
def hexDigits : Nat → Reading (List Char)
  | 0 => return []
  | n + 1 => do
    match ← here with
    | [] => fail .escapeUnfinished [] []
    | c :: rest =>
      if isHexDigit c then
        step
        return c :: (← hexDigits n)
      else failAt .escapeHexInvalidDigit (c :: rest)

/-- A character by its number, from the digits or the opening brace on. -/
def hexLiteral (start : List Char) (width : Nat) : Reading Literal := do
  let first ← here
  match first with
  | '{' :: inside => do
    step
    let digits ← collect isHexDigit
    let stop ← here
    match stop with
    | [] => fail .escapeUnfinished first []
    | '}' :: _ =>
      step
      if digits.isEmpty then fail .escapeHexEmpty first (← here)
      match hexChar? digits with
      | some c => return { char := c, span := .between start (← here) }
      | none => fail .escapeHexInvalid inside stop
    | stop => failAt .escapeHexInvalidDigit stop
  | first => do
    let digits ← hexDigits width
    match hexChar? digits with
    | some c => return { char := c, span := .between start (← here), isByte := width = 2 }
    | none => fail .escapeHexInvalid first (← here)

/-- The class of a property, from its name or the opening brace on. -/
def property (start : List Char) : Reading CharClass := do
  match ← here with
  | '{' :: _ =>
    step
    let name ← collect (· ≠ '}')
    orUnfinished .escapeUnfinished []
    advance
    return .property name (.between start (← here))
  | '\\' :: rest => failAt .propertyInvalid ('\\' :: rest)
  | s =>
    step
    return .property (s.take 1) (.between start (← here))

/-- Letters and hyphens. -/
def isWordEdgeChar (c : Char) : Bool := c.isAlpha || c = '-'

/-- What is at the edge of a word, after the letter for a boundary. A brace that no name follows is
left alone. -/
def wordEdge (start : List Char) : Reading WordEdge := do
  let brace ← here
  match brace with
  | '{' :: _ =>
    step
    orUnfinished .wordEdgeUnfinished start
    let inside ← here
    if inside.head?.any isWordEdgeChar then
      let name ← collect isWordEdgeChar
      let stop ← here
      match stop with
      | '}' :: _ =>
        advance
        match WordEdge.ofName? (String.ofList name) with
        | some edge => return edge
        | none => fail .wordEdgeUnrecognized inside stop
      | stop => fail .wordEdgeUnclosed brace stop
    else
      goTo brace
      return .boundary
  | _ => return .boundary

/-- An escape. The cursor is at the backslash. -/
def escape : Reading Node := do
  let start ← here
  advance
  match ← here with
  | [] => fail .escapeUnfinished start []
  | c :: rest =>
    if c.isDigit then fail .backreference start rest
    else if let some width := hexWidth? c then
      step
      orUnfinished .escapeUnfinished []
      return .literal (← hexLiteral start width)
    else if c = 'p' || c = 'P' then
      step
      orUnfinished .escapeUnfinished []
      return .charClass (← property start)
    else
      advance
      let span := Span.between start rest
      if let some (cls, negated) := classEscape? c then
        return .charClass (.escaped cls negated span)
      else if isEscapable c then return .literal { char := c, span := span }
      else if let some control := controlEscape? c then
        return .literal { char := control, span := span }
      else if let some assertion := assertionEscape? c then return .assertion assertion span
      else if c = 'b' then
        let edge ← wordEdge start
        return .assertion (.word edge) (.between start (← here))
      else failOver .escapeUnrecognized span

end Reading
end ManagedBoot.Pattern
