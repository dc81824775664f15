import ManagedBoot.Pattern.Basic
import ManagedBoot.Text.Basic
/-!
What can be wrong with a pattern, and how it is shown.

An error is shown under the pattern that it is about: marks point out where it is. A pattern of
several lines is set off by rules and its lines have numbers.
-/
namespace ManagedBoot.Pattern

/-- The bound on the levels of a pattern. -/
def nestingLimit : Nat := 250

inductive Cause where
  | classEscapeInvalid
  | classRangeInvalid
  | classRangeLiteral
  | classUnclosed
  | decimalInvalid
  | escapeHexEmpty
  | escapeHexInvalid
  | escapeHexInvalidDigit
  | escapeUnfinished
  | escapeUnrecognized
  | flagDanglingNegation
  | flagDuplicate
  | flagRepeatedNegation
  | flagUnfinished
  | flagUnrecognized
  | nameDuplicate
  | nameEmpty
  | nameInvalid
  | nameUnfinished
  | groupUnclosed
  | groupUnopened
  | nestedTooDeep
  | countInvalid
  | countEmpty
  | countUnclosed
  | repetitionMissing
  | wordEdgeUnclosed
  | wordEdgeUnrecognized
  | wordEdgeUnfinished
  | propertyInvalid
  | backreference
  | lookAround
  | unicodeNotAllowed
  | invalidUtf8
  | propertyNotFound
  | propertyValueNotFound
  | escapedClassNotFound
  | caseUnavailable
  deriving DecidableEq, Repr

def Cause.message : Cause → String
  | classEscapeInvalid => "invalid escape sequence found in character class"
  | classRangeInvalid => "invalid character class range, the start must be <= the end"
  | classRangeLiteral => "invalid range boundary, must be a literal"
  | classUnclosed => "unclosed character class"
  | decimalInvalid => "decimal literal invalid"
  | escapeHexEmpty => "hexadecimal literal empty"
  | escapeHexInvalid => "hexadecimal literal is not a Unicode scalar value"
  | escapeHexInvalidDigit => "invalid hexadecimal digit"
  | escapeUnfinished => "incomplete escape sequence, reached end of pattern prematurely"
  | escapeUnrecognized => "unrecognized escape sequence"
  | flagDanglingNegation => "dangling flag negation operator"
  | flagDuplicate => "duplicate flag"
  | flagRepeatedNegation => "flag negation operator repeated"
  | flagUnfinished => "expected flag but got end of regex"
  | flagUnrecognized => "unrecognized flag"
  | nameDuplicate => "duplicate capture group name"
  | nameEmpty => "empty capture group name"
  | nameInvalid => "invalid capture group character"
  | nameUnfinished => "unclosed capture group name"
  | groupUnclosed => "unclosed group"
  | groupUnopened => "unopened group"
  | nestedTooDeep =>
    s!"exceed the maximum number of nested parentheses/brackets ({nestingLimit})"
  | countInvalid => "invalid repetition count range, the start must be <= the end"
  | countEmpty => "repetition quantifier expects a valid decimal"
  | countUnclosed => "unclosed counted repetition"
  | repetitionMissing => "repetition operator missing expression"
  | wordEdgeUnclosed =>
    "special word boundary assertion is either unclosed or contains an invalid character"
  | wordEdgeUnrecognized =>
    "unrecognized special word boundary assertion, valid choices are: start, end, start-half or " ++
      "end-half"
  | wordEdgeUnfinished =>
    "found either the beginning of a special word boundary or a bounded repetition on a \\b " ++
      "with an opening brace, but no closing brace"
  | propertyInvalid => "invalid Unicode character class"
  | backreference => "backreferences are not supported"
  | lookAround => "look-around, including look-ahead and look-behind, is not supported"
  | unicodeNotAllowed => "Unicode not allowed here"
  | invalidUtf8 => "pattern can match invalid UTF-8"
  | propertyNotFound => "Unicode property not found"
  | propertyValueNotFound => "Unicode property value not found"
  | escapedClassNotFound =>
    "Unicode-aware Perl class not found (make sure the unicode-perl feature is enabled)"
  | caseUnavailable =>
    "Unicode-aware case insensitivity matching is not available (make sure the unicode-case " ++
      "feature is enabled)"

/-- What is wrong with a pattern and where. Where something was given twice, the first of the two is
shown as well. -/
structure Error where
  cause : Cause
  span : Span
  first : Option Span := none
  deriving DecidableEq, Repr

/-- A stretch by where it starts and where it ends. -/
abbrev Extent := Point × Point

/-- The marks under a line. A stretch without characters has one mark. -/
def marks (extents : List Extent) : String :=
  extents.foldl (fun line (first, last) =>
    Column.padRight (first.column - 1) line ++
      Column.fill (max 1 (last.column - first.column)) '^') ""

namespace Error

/-- The stretches that are pointed out, in their order. -/
def extents (e : Error) (pattern : String) : List Extent :=
  let text := pattern.toList
  ((e.span :: e.first.toList).mergeSort Span.le).map fun span => (span.first text, span.last text)

/-- The width of line numbers. A pattern of one line has none. -/
def numberWidth (pattern : String) : Nat :=
  if pattern.toList.contains '\n' then
    let last := (linesOf pattern).length
    (toString (if pattern.toList.getLast? = some '\n' then last + 1 else last)).length
  else 0

/-- The lines of the pattern, with marks under each part that is pointed out. -/
def rows (e : Error) (pattern : String) : List String :=
  let width := numberWidth pattern
  let short := (e.extents pattern).filter fun (first, last) => first.line = last.line
  ((linesOf pattern).zipIdx 1).flatMap fun (line, n) =>
    let head := if width = 0 then "    " else Column.padLeft width (toString n) ++ ": "
    let under := short.filter (·.1.line = n)
    (head ++ line) ::
      if under.isEmpty then [] else [Column.padRight head.length "" ++ marks under]

/-- Where the stretches are that go over several lines. -/
def notes (e : Error) (pattern : String) : List String :=
  ((e.extents pattern).filter fun (first, last) => first.line ≠ last.line).map
    fun (first, last) =>
      s!"on line {first.line} (column {first.column}) through line {last.line} " ++
        s!"(column {last.column - 1})"

/-- The pattern with what is wrong. -/
def report (e : Error) (pattern : String) : String :=
  let shown :=
    if pattern.toList.contains '\n' then
      let rule := Column.fill 79 '~'
      rule :: e.rows pattern ++ rule :: e.notes pattern
    else e.rows pattern
  "\n".intercalate ("regex parse error:" :: shown ++ ["error: " ++ e.cause.message])

end Error
end ManagedBoot.Pattern
