import ManagedBoot.Pattern.Basic
/-!
Matching.

A matcher moves along a text. `step` takes the places before a matcher to those behind it, all at
once, so that the time is bounded whatever the matcher is.
A text has one place more than it has characters.

A repetition makes at most as many rounds as there are places. Further ones change nothing: among so
many rounds one is empty, and an empty round may be left out or made twice.
-/
namespace ManagedBoot.Pattern

/-- A condition on a place, which depends on what stands on its two sides. -/
inductive Look where
  | textStart
  | textEnd
  | lineStart
  | lineEnd
  /-- A carriage return and a line feed end a line together or alone. -/
  | crlfStart
  | crlfEnd
  /-- Words consist of letters of all scripts or only of those of ASCII. -/
  | word (edge : WordEdge) (unicode : Bool)
  deriving DecidableEq, Repr

/-- Whether a character of ASCII is part of a word. -/
def isWordChar (c : Char) : Bool := AsciiClass.word.charSet.contains c

def WordEdge.holds (edge : WordEdge) (before after : Bool) : Bool :=
  match edge with
  | boundary => before != after
  | noBoundary => before == after
  | start => !before && after
  | stop => before && !after
  | startHalf => !before
  | stopHalf => !after

/-- Whether a place is right, by what stands before it and behind it. -/
def Look.holds (look : Look) (before after : Option Char) : Bool :=
  match look with
  | textStart => before.isNone
  | textEnd => after.isNone
  | lineStart => before.all (· = '\n')
  | lineEnd => after.all (· = '\n')
  | crlfStart => before.all fun c => c = '\n' || (c = '\r' && after ≠ some '\n')
  | crlfEnd => after.all fun c => c = '\r' || (c = '\n' && before ≠ some '\r')
  | word edge _ => edge.holds (before.any isWordChar) (after.any isWordChar)

inductive Matcher where
  | empty
  | one (set : CharSet)
  | look (l : Look)
  | sequence (a b : Matcher)
  | alternate (a b : Matcher)
  | repetition (body : Matcher) (least : Nat) (most : Option Nat)
  deriving DecidableEq, Repr

/-- For each place of a text, whether it has been reached. -/
abbrev Front := List Bool

namespace Front

def union (f g : Front) : Front := f.zipWith (· || ·) g

/-- A function several times over. -/
def iterate (step : Front → Front) : Nat → Front → Front
  | 0, f => f
  | n + 1, f => iterate step n (step f)

/-- What is reached by any number of rounds up to a bound. -/
def closure (step : Front → Front) : (bound : Nat) → Front → Front
  | 0, f => f
  | n + 1, f =>
    let g := f.union (step f)
    if g = f then f else closure step n g

/-- Moves each place past a character of a set. -/
def advance (set : CharSet) (text : List Char) (f : Front) : Front :=
  false :: text.zipWith (fun c reached => reached && set.contains c) f

/-- Keeps the places with the right surroundings. -/
def keep (look : Look) (text : List Char) (f : Front) : Front :=
  let before := none :: text.map some
  let after := text.map some ++ [none]
  f.zipWith (· && ·) (before.zipWith look.holds after)

end Front

namespace Matcher

/-- The places behind a match from the places before it. -/
def step (text : List Char) : Matcher → Front → Front
  | empty, f => f
  | one set, f => f.advance set text
  | look l, f => f.keep l text
  | sequence a b, f => b.step text (a.step text f)
  | alternate a b, f => (a.step text f).union (b.step text f)
  | repetition body least most, f =>
    let places := text.length + 1
    let rounds := (most.map (· - least)).getD places
    .closure (body.step text) (min rounds places)
      (.iterate (body.step text) (min least places) f)

/-- Whether there is a match anywhere in a text. -/
def matchesIn (m : Matcher) (text : List Char) : Bool :=
  (m.step text (List.replicate (text.length + 1) true)).any id

/-- Whether no match has a character. -/
def isWeightless : Matcher → Bool
  | empty => true
  | one _ => false
  | look _ => true
  | sequence a b => a.isWeightless && b.isWeightless
  | alternate a b => a.isWeightless && b.isWeightless
  | repetition body _ _ => body.isWeightless

/-- A repetition in its simplest form: without characters one round is as good as many, and no
round at all is empty. -/
def repeated (body : Matcher) (least : Nat) (most : Option Nat) : Matcher :=
  let least := if body.isWeightless then min least 1 else least
  let most := if body.isWeightless then some (min (most.getD 1) 1) else most
  if most = some 0 then empty
  else if least = 1 && most = some 1 then body
  else repetition body least most

/-- Whether a matcher asks for words of all scripts. -/
def asksForWords : Matcher → Bool
  | look (.word _ unicode) => unicode
  | sequence a b => a.asksForWords || b.asksForWords
  | alternate a b => a.asksForWords || b.asksForWords
  | repetition body _ _ => body.asksForWords
  | _ => false

/-- About how many states a machine for a set of characters has. -/
def statesOfSet : CharSet → Nat
  | .range first last =>
    if first = last then first.utf8Size else if last.toNat < 0x80 then 1 else 10
  | set => if set.isAscii then 1 else 10

/-- About how many states a machine for a matcher has. Each round of a repetition has its own. -/
def states : Matcher → Nat
  | empty => 1
  | one set => statesOfSet set
  | look _ => 1
  | sequence a b => a.states + b.states
  | alternate a b => a.states + b.states + 1
  | repetition body least most => max 1 (most.getD least) * (body.states + 1)

end Matcher
end ManagedBoot.Pattern
