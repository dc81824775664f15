import ManagedBoot.Pattern.CharSet
import ManagedBoot.Text.Span
/-!
Patterns as they are written.

A pattern is a tree whose parts know where they stand. Things in a row and branches are put together
two at a time, the first ones first. What a part means depends on the flags in force, which a part
of the pattern may change.
-/
namespace ManagedBoot.Pattern

/-- A character of a pattern. -/
structure Literal where
  char : Char
  span : Span
  /-- It was written as a byte, by two hexadecimal digits. -/
  isByte : Bool := false
  deriving DecidableEq, Repr

inductive Flag where
  | ignoreCase
  | multiLine
  | dotAll
  | swapGreed
  | unicode
  | crlf
  /-- Free space between the parts means nothing. -/
  | extended
  deriving DecidableEq, Repr

def Flag.ofChar? : Char → Option Flag
  | 'i' => some ignoreCase
  | 'm' => some multiLine
  | 's' => some dotAll
  | 'U' => some swapGreed
  | 'u' => some unicode
  | 'R' => some crlf
  | 'x' => some extended
  | _ => none

/-- Flags to set and flags to clear. -/
structure FlagChange where
  set : List Flag := []
  clear : List Flag := []
  deriving DecidableEq, Repr

/-- What a flag is after a change. -/
def FlagChange.apply (change : FlagChange) (flag : Flag) (old : Bool) : Bool :=
  if change.set.contains flag then true
  else if change.clear.contains flag then false
  else old

/-- Places relative to a word. -/
inductive WordEdge where
  | boundary
  /-- Anywhere but at a boundary. -/
  | noBoundary
  | start
  | stop
  /-- Not after a word character. -/
  | startHalf
  /-- Not before a word character. -/
  | stopHalf
  deriving DecidableEq, Repr

/-- The edges that are written by name. -/
def WordEdge.ofName? : String → Option WordEdge
  | "start" => some start
  | "end" => some stop
  | "start-half" => some startHalf
  | "end-half" => some stopHalf
  | _ => none

/-- A condition on a place. -/
inductive Assertion where
  | lineStart
  | lineEnd
  | textStart
  | textEnd
  | word (edge : WordEdge)
  deriving DecidableEq, Repr

inductive SetOp where
  | intersection
  | difference
  | symmetricDifference
  deriving DecidableEq, Repr

/-- A class of characters. -/
inductive CharClass where
  | empty (span : Span)
  | literal (l : Literal)
  | range (first last : Literal)
  /-- A class of ASCII by name, between brackets and colons. -/
  | named (cls : AsciiClass) (negated : Bool) (span : Span)
  /-- A class by an escape of one letter. -/
  | escaped (cls : AsciiClass) (negated : Bool) (span : Span)
  /-- The characters with a property. -/
  | property (name : List Char) (span : Span)
  | bracketed (negated : Bool) (inside : CharClass) (span : Span)
  | union (a b : CharClass)
  | combined (op : SetOp) (a b : CharClass)
  deriving DecidableEq, Repr

namespace CharClass

def span : CharClass → Span
  | empty span => span
  | literal l => l.span
  | range first last => first.span.through last.span
  | named _ _ span => span
  | escaped _ _ span => span
  | property _ span => span
  | bracketed _ _ span => span
  | union a b => a.span.through b.span
  | combined _ a b => a.span.through b.span

/-- Adds an item at the end. -/
def push (items item : CharClass) : CharClass :=
  match items with
  | empty _ => item
  | items => union items item

/-- Whether a class holds nothing that was written out. -/
def isVacuous : CharClass → Bool
  | empty _ => true
  | bracketed _ inside _ => inside.isVacuous
  | union a b => a.isVacuous && b.isVacuous
  | combined _ a b => a.isVacuous && b.isVacuous
  | _ => false

def isUnion : CharClass → Bool
  | union _ _ => true
  | _ => false

/-- The first part under more than `limit` others. The items of a union are on one level. -/
def tooDeep : (limit : Nat) → CharClass → Option Span
  | limit, bracketed _ inside span => if limit = 0 then some span else tooDeep (limit - 1) inside
  | limit, union a b =>
    if limit = 0 then some (a.span.through b.span)
    else tooDeep (if a.isUnion then limit else limit - 1) a <|> tooDeep (limit - 1) b
  | limit, combined _ a b =>
    if limit = 0 then some (a.span.through b.span)
    else tooDeep (limit - 1) a <|> tooDeep (limit - 1) b
  | _, _ => none

end CharClass

/-- A pattern. -/
inductive Node where
  | empty (span : Span)
  /-- Changes the flags for what follows. -/
  | flags (change : FlagChange) (span : Span)
  | literal (l : Literal)
  | dot (span : Span)
  | assertion (a : Assertion) (span : Span)
  | charClass (cls : CharClass)
  | repetition (body : Node) (least : Nat) (most : Option Nat) (span : Span)
  | group (change : FlagChange) (body : Node) (span : Span)
  | sequence (a b : Node)
  | alternate (a b : Node)
  deriving DecidableEq, Repr

namespace Node

def span : Node → Span
  | empty span => span
  | flags _ span => span
  | literal l => l.span
  | dot span => span
  | assertion _ span => span
  | charClass cls => cls.span
  | repetition _ _ _ span => span
  | group _ _ span => span
  | sequence a b => a.span.through b.span
  | alternate a b => a.span.through b.span

def isSequence : Node → Bool
  | sequence _ _ => true
  | _ => false

def isAlternate : Node → Bool
  | alternate _ _ => true
  | _ => false

/-- The first part under more than `limit` others. Things in a row are on one level, and so are the
branches of a choice. -/
def tooDeep : (limit : Nat) → Node → Option Span
  | limit, charClass cls => cls.tooDeep limit
  | limit, repetition body _ _ span => if limit = 0 then some span else tooDeep (limit - 1) body
  | limit, group _ body span => if limit = 0 then some span else tooDeep (limit - 1) body
  | limit, sequence a b =>
    if limit = 0 then some (a.span.through b.span)
    else tooDeep (if a.isSequence then limit else limit - 1) a <|> tooDeep (limit - 1) b
  | limit, alternate a b =>
    if limit = 0 then some (a.span.through b.span)
    else tooDeep (if a.isAlternate then limit else limit - 1) a <|> tooDeep (limit - 1) b
  | _, _ => none

end Node
end ManagedBoot.Pattern
