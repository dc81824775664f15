import ManagedBoot.Pattern.Error
import ManagedBoot.Text.Basic
/-!
Reading a pattern from its front.

A cursor knows what is left of the pattern. Where the flag for it is set, free space is skipped
between the parts: blanks, and comments from a hash sign to the end of the line.
-/
namespace ManagedBoot.Pattern

/-- How far a pattern has been read. -/
structure Cursor where
  rest : List Char
  /-- Free space means nothing. -/
  extended : Bool := false
  /-- The names of the groups so far. -/
  names : List (String × Span) := []

abbrev Reading := StateT Cursor (Except Error)

/-- Drops blanks and comments. `inComment` tells where the text begins. -/
def dropFree : (inComment : Bool) → List Char → List Char
  | _, [] => []
  | true, c :: rest => dropFree (isInLine c) rest
  | false, c :: rest =>
    if isSpace c then dropFree false rest
    else if c = '#' then dropFree true rest
    else c :: rest

theorem length_dropFree_le (inComment : Bool) (s : List Char) :
    (dropFree inComment s).length ≤ s.length := by
  fun_induction dropFree inComment s <;> simp_all <;> omega

/-- Takes the characters of a kind from the front, and the free space behind each. -/
def takeLoose (extended : Bool) (kind : Char → Bool) : List Char → List Char × List Char
  | [] => ([], [])
  | c :: rest =>
    if kind c then
      let left := if extended then dropFree false rest else rest
      let (taken, left) := takeLoose extended kind left
      (c :: taken, left)
    else ([], c :: rest)
termination_by s => s.length
decreasing_by
  have := length_dropFree_le false rest
  simp only [List.length_cons]
  split <;> omega

namespace Reading

/-- What is left of the pattern. -/
def here : Reading (List Char) := return (← get).rest

def goTo (rest : List Char) : Reading Unit := modify fun c => { c with rest := rest }

/-- Moves past free space. -/
def skipFree : Reading Unit :=
  modify fun c => if c.extended then { c with rest := dropFree false c.rest } else c

/-- Moves past one character. -/
def advance : Reading Unit := modify fun c => { c with rest := c.rest.tail }

/-- Moves past one character and the free space behind it. -/
def step : Reading Unit := do
  advance
  skipFree

/-- Moves past the characters of a kind, with the free space behind each. -/
def collect (kind : Char → Bool) : Reading (List Char) := do
  let c ← get
  let (taken, rest) := takeLoose c.extended kind c.rest
  goTo rest
  return taken

/-- Fails over the stretch between two places. -/
def fail {α : Type} (cause : Cause) (start stop : List Char) : Reading α :=
  throw { cause := cause, span := .between start stop }

/-- Fails over the character at the front. -/
def failAt {α : Type} (cause : Cause) (s : List Char) : Reading α := fail cause s s.tail

/-- Fails over a stretch. -/
def failOver {α : Type} (cause : Cause) (span : Span) : Reading α :=
  throw { cause := cause, span := span }

/-- Fails from a place to the cursor if nothing is left of the pattern. -/
def orUnfinished (cause : Cause) (start : List Char) : Reading Unit := do
  if (← here).isEmpty then fail cause start []

end Reading
end ManagedBoot.Pattern
