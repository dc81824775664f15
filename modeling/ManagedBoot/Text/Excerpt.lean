import ManagedBoot.Text.Basic
/-!
Excerpts: one line of a text with marks under a part of it.

The text comes in three parts, of which the middle one is marked. Where that part goes over several
lines, the first of them is shown.
-/
namespace ManagedBoot

/-- A place in a text. Lines and columns are counted from one. -/
structure Point where
  line : Nat
  column : Nat
  deriving DecidableEq, Repr

/-- The place behind a text. -/
def Point.behind (before : List Char) : Point :=
  ⟨before.count '\n' + 1, (before.reverse.takeWhile isInLine).length + 1⟩

/-- A line of a text and the place where the marks start. -/
structure Excerpt extends Point where
  content : String
  /-- How many marks stand under the line. -/
  width : Nat
  deriving DecidableEq, Repr

namespace Excerpt

/-- The line on which the marked part starts. Every byte has a mark, up to the end of the line, and
there is one mark at least. -/
def ofParts (before marked after : List Char) : Excerpt :=
  let lead := (before.reverse.takeWhile isInLine).reverse
  let content := String.ofList (lead ++ (marked ++ after).takeWhile isInLine)
  { Point.behind before with
    content := content
    width := max 1 (min (String.ofList marked).utf8ByteSize (content.utf8ByteSize - lead.length)) }

/-- The line with its number, between a rule above and the marks below. -/
def lines (e : Excerpt) : List String :=
  let number := toString e.line
  let rule := Column.padLeft (number.length + 2) "|"
  let marks := Column.padLeft (e.column + e.width) (Column.fill e.width '^')
  [rule, s!"{number} | {e.content}", rule ++ marks]

end Excerpt
end ManagedBoot
