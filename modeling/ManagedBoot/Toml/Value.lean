import ManagedBoot.Decimal.Binary64
import ManagedBoot.Text.Span
/-!
Values of a TOML document.

A table keeps its entries in the order in which they were made. It also remembers how it came to be,
since that decides whether later lines may still add to it. Keys and values know where they stand in
the document.
-/
namespace ManagedBoot.Toml

/-- How a table came to be. -/
inductive TableKind where
  /-- Between braces. It is complete. -/
  | inline
  /-- By a header of its own. -/
  | header
  /-- As the parent of a header. -/
  | implied
  /-- By a dotted key. -/
  | dotted
  deriving DecidableEq, Repr

structure Date where
  year : Nat
  month : Nat
  day : Nat
  deriving DecidableEq, Repr

structure Time where
  hour : Nat
  minute : Nat
  second : Nat
  /-- The digits of the fraction. -/
  fraction : List Char := []
  deriving DecidableEq, Repr

/-- Minutes east of Greenwich; `none` is the letter Z. -/
abbrev Offset := Option Int

inductive DateTime where
  | date (date : Date)
  | time (time : Time)
  | civil (date : Date) (time : Time)
  | offset (date : Date) (time : Time) (offset : Offset)
  deriving DecidableEq, Repr

/-- A part of a key, with the place where it stands. -/
structure Key where
  text : String
  span : Span
  deriving DecidableEq, Repr

/-- Something with the place where it stands. A table that only follows from longer keys stands
nowhere. -/
structure Placed (α : Type) where
  value : α
  span : Option Span

inductive Value where
  | string (text : String)
  | integer (n : Int)
  | float (x : Binary64)
  | boolean (b : Bool)
  | datetime (t : DateTime)
  | array (items : List (Placed Value))
  | table (kind : TableKind) (entries : List (Key × Placed Value))
  /-- An array of tables that was built by headers. -/
  | tables (elements : List (Placed (List (Key × Placed Value))))

/-- Entries in the order in which they were made. -/
abbrev Table := List (Key × Placed Value)

namespace Table

def get? (t : Table) (key : String) : Option (Placed Value) :=
  (t.find? (·.1.text == key)).map (·.2)

def contains (t : Table) (key : String) : Bool := (t.get? key).isSome

/-- Adds an entry at the end. -/
def push (t : Table) (key : Key) (v : Placed Value) : Table := t ++ [(key, v)]

/-- Puts another value in the place of an entry. -/
def replace (t : Table) (key : String) (v : Placed Value) : Table :=
  t.map fun (k, old) => if k.text = key then (k, v) else (k, old)

/-- Takes an entry out. -/
def erase (t : Table) (key : String) : Table := t.filter fun (k, _) => k.text ≠ key

end Table
end ManagedBoot.Toml
