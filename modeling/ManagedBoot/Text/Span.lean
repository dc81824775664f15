import ManagedBoot.Text.Excerpt
/-!
Stretches of a text.

A reader that takes a text from the front knows what is left of it, so a place is the number of
characters that are left there.
-/
namespace ManagedBoot

/-- A stretch of a text: how many characters are left where it starts and where it stops. -/
structure Span where
  start : Nat
  stop : Nat
  deriving DecidableEq, Repr

namespace Span

/-- From one place to another. What is left at each place is given. -/
def between (s rest : List Char) : Span := ⟨s.length, rest.length⟩

/-- The place where a text is left. -/
def point (s : List Char) : Span := between s s

/-- From the start of one stretch to the end of another. -/
def through (first last : Span) : Span := ⟨first.start, last.stop⟩

/-- How many characters it covers. -/
def length (span : Span) : Nat := span.start - span.stop

/-- Where a stretch of a text starts. -/
def first (span : Span) (text : List Char) : Point :=
  .behind (text.take (text.length - span.start))

/-- The place behind a stretch of a text. -/
def last (span : Span) (text : List Char) : Point := .behind (text.take (text.length - span.stop))

/-- The order in a text: by the start, then by the end. -/
def le (a b : Span) : Bool := b.start < a.start || (a.start = b.start && b.stop ≤ a.stop)

/-- The line of a text on which a stretch starts. -/
def excerpt (span : Span) (text : List Char) : Excerpt :=
  let (before, rest) := text.splitAt (text.length - span.start)
  let (marked, after) := rest.splitAt span.length
  .ofParts before marked after

end Span
end ManagedBoot
