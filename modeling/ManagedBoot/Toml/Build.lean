import ManagedBoot.Toml.Value
/-!
Tables from statements.

A document is a sequence of headers and entries. A header opens the table at its path, making the
parents that are missing; it may give a header to a table that was only implied so far, which then
moves behind its siblings. An entry goes into the table that the last header opened. Its dotted key
makes tables of its own and may add to no table that has a header or stands between braces. No key
is ever given twice.
-/
namespace ManagedBoot.Toml

/-- A line of a document, or of the inside of an inline table. A header has a place. -/
inductive Statement where
  | header (path : List Key) (span : Span)
  | arrayHeader (path : List Key) (span : Span)
  | entry (path : List Key) (value : Placed Value)

namespace Table

/-- An array of tables. It reaches from its first table to its last. -/
def ofElements (elements : List (Placed Table)) : Placed Value where
  value := .tables elements
  span := do
    let first ← elements.head?
    let last ← elements.getLast?
    return (← first.span).through (← last.span)

/-- The last of several tables. -/
def lastElement (elements : List (Placed Table)) : Placed Table := elements.getLastD ⟨[], none⟩

/-- Puts another table in the place of the last of several. -/
def replaceLast (elements : List (Placed Table)) (t : Placed Table) : Placed Value :=
  ofElements (elements.dropLast ++ [t])

/-- Adds an entry along a dotted key. -/
def addEntry (v : Placed Value) : (path : List Key) → Table → Option Table
  | [], _ => none
  | [key], t => if t.contains key.text then none else some (t.push key v)
  | key :: next :: more, t =>
    match t.get? key.text with
    | none =>
      (addEntry v (next :: more) []).map fun sub => t.push key ⟨.table .dotted sub, none⟩
    | some ⟨.table kind sub, span⟩ =>
      if kind = .header || kind = .inline then none
      else if more.isEmpty && kind ≠ .dotted then none
      else
        (addEntry v (next :: more) sub).map fun sub => t.replace key.text ⟨.table kind sub, span⟩
    | some ⟨.tables elements, _⟩ =>
      if more.isEmpty then none
      else
        let last := lastElement elements
        (addEntry v (next :: more) last.value).map fun sub =>
          t.replace key.text (replaceLast elements { last with value := sub })
    | some _ => none

/-- Changes the table to which the last key of a path belongs, and makes the parents that are
missing. -/
def atParent (change : Key → Table → Option Table) : (path : List Key) → Table → Option Table
  | [], _ => none
  | [key], t => change key t
  | key :: next :: more, t =>
    match t.get? key.text with
    | none =>
      (atParent change (next :: more) []).map fun sub => t.push key ⟨.table .implied sub, none⟩
    | some ⟨.table kind sub, span⟩ =>
      if kind = .inline then none
      else
        (atParent change (next :: more) sub).map fun sub =>
          t.replace key.text ⟨.table kind sub, span⟩
    | some ⟨.tables elements, _⟩ =>
      let last := lastElement elements
      (atParent change (next :: more) last.value).map fun sub =>
        t.replace key.text (replaceLast elements { last with value := sub })
    | some _ => none

/-- Gives a header to a table that is new or was only implied. -/
def openTable (span : Span) (key : Key) (t : Table) : Option Table :=
  match t.get? key.text with
  | none => some (t.push key ⟨.table .header [], some span⟩)
  | some ⟨.table .implied sub, _⟩ =>
    some ((t.erase key.text).push key ⟨.table .header sub, some span⟩)
  | some _ => none

/-- Adds a table to an array of tables that is new or was built the same way. -/
def openElement (span : Span) (key : Key) (t : Table) : Option Table :=
  match t.get? key.text with
  | none => some (t.push key (ofElements [⟨[], some span⟩]))
  | some ⟨.tables elements, _⟩ =>
    some (t.replace key.text (ofElements (elements ++ [⟨[], some span⟩])))
  | some _ => none

/-- Changes the table that a header opened. -/
def inside (change : Placed Table → Option (Placed Table)) :
    (path : List Key) → Placed Table → Option (Placed Table)
  | [], t => change t
  | key :: more, t =>
    match t.value.get? key.text with
    | some ⟨.table kind sub, span⟩ =>
      (inside change more ⟨sub, span⟩).map fun sub =>
        { t with value := t.value.replace key.text ⟨.table kind sub.value, sub.span⟩ }
    | some ⟨.tables elements, _⟩ =>
      (inside change more (lastElement elements)).map fun last =>
        { t with value := t.value.replace key.text (replaceLast elements last) }
    | _ => none

/-- Adds an entry to the table of a header, which then reaches up to the entry's value. -/
def addLine (path : List Key) (v : Placed Value) (t : Placed Table) : Option (Placed Table) :=
  (addEntry v path t.value).map fun entries =>
    { value := entries
      span :=
        match t.span, v.span with
        | some first, some last => some (first.through last)
        | span, _ => span }

/-- The table of an inline table's entries. -/
def ofEntries (entries : List (List Key × Placed Value)) : Option Table :=
  entries.foldlM (fun t (path, v) => addEntry v path t) []

end Table

/-- A document as far as it has been read: the path of the last header and the root. -/
structure Draft where
  current : List Key := []
  root : Placed Table

namespace Draft

def add (d : Draft) : Statement → Option Draft
  | .header path span =>
    (Table.atParent (Table.openTable span) path d.root.value).map fun t =>
      ⟨path, { d.root with value := t }⟩
  | .arrayHeader path span =>
    (Table.atParent (Table.openElement span) path d.root.value).map fun t =>
      ⟨path, { d.root with value := t }⟩
  | .entry path v =>
    (Table.inside (Table.addLine path v) d.current d.root).map ({ d with root := · })

end Draft

/-- The root table of a document with `size` characters. -/
def Table.ofStatements (size : Nat) (statements : List Statement) : Option (Placed Table) :=
  (statements.foldlM Draft.add { root := ⟨[], some ⟨size, size⟩⟩ }).map (·.root)

end ManagedBoot.Toml
