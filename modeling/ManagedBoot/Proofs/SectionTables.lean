import ManagedBoot.Toml.Build
/-!
The tables of documents in sections, and of documents without any.

A section is a header with one name and entries with one name each. If no name repeats, neither
among the sections nor inside one, the root table has the sections in their order, each with its
entries in theirs (`ofStatements_sections`). Entries without a header are the root table themselves
(`ofStatements_entries`).
-/
namespace ManagedBoot.Toml

structure Section where
  name : Key
  span : Span
  entries : Table

/-- How far a table reaches that gets one more value. -/
def reach (first last : Option Span) : Option Span :=
  match first, last with
  | some first, some last => some (first.through last)
  | span, _ => span

namespace Section

def statements (s : Section) : List Statement :=
  .header [s.name] s.span :: s.entries.map fun e => .entry [e.1] e.2

/-- The table of a section, with the entries it has so far. -/
def table (s : Section) (entries : Table) : Key × Placed Value :=
  (s.name, ⟨.table .header entries,
    entries.foldl (fun span e => reach span e.2.span) (some s.span)⟩)

end Section

namespace Table

/-- No entry of the table has the name. -/
def Lacks (t : Table) (name : String) : Prop := ∀ e ∈ t, e.1.text ≠ name

section
variable {t : Table} {name : String}

theorem find?_of_lacks (h : t.Lacks name) : t.find? (·.1.text == name) = none :=
  List.find?_eq_none.mpr fun e he => by simp [h e he]

theorem get?_of_lacks (h : t.Lacks name) : t.get? name = none := by
  rw [get?, find?_of_lacks h]
  rfl

theorem get?_last {k : Key} (h : t.Lacks k.text) (v : Placed Value) :
    Table.get? (t ++ [(k, v)]) k.text = some v := by
  simp [get?, List.find?_append, find?_of_lacks h]

theorem replace_last {k : Key} (h : t.Lacks k.text) (v v' : Placed Value) :
    Table.replace (t ++ [(k, v)]) k.text v' = t ++ [(k, v')] := by
  rw [replace, List.map_append]
  congr 1
  · conv => rhs; rw [← List.map_id t]
    apply List.map_congr_left
    intro e he
    simp [h e he]
  · simp

/-- Where no name repeats, an entry is new behind those before it. -/
theorem lacks_of_nodup {after : Table} {e : Key × Placed Value}
    (nodup : ((t ++ e :: after).map (·.1.text)).Nodup) : t.Lacks e.1.text := by
  intro d hd heq
  rw [List.map_append, List.nodup_append] at nodup
  exact nodup.2.2 _ (List.mem_map_of_mem hd) _ (by simp) heq

theorem addLine_new {k : Key} (h : t.Lacks k.text) (span : Option Span) (v : Placed Value) :
    addLine [k] v ⟨t, span⟩ = some ⟨t ++ [(k, v)], reach span v.span⟩ := by
  simp only [addLine, addEntry, contains, get?_of_lacks h, push]
  rfl

end
end Table

namespace Draft

section
variable {t : Table} {s : Section} {span : Option Span}

theorem add_header (h : t.Lacks s.name.text) (current : List Key) :
    add ⟨current, ⟨t, span⟩⟩ (.header [s.name] s.span) =
      some ⟨[s.name], ⟨t ++ [s.table []], span⟩⟩ := by
  simp only [add, Table.atParent, Table.openTable, Table.get?_of_lacks h]
  rfl

/-- An entry goes into the section that was begun last. -/
theorem add_entry (h : t.Lacks s.name.text) {entries : Table} {e : Key × Placed Value}
    (hnew : entries.Lacks e.1.text) :
    add ⟨[s.name], ⟨t ++ [s.table entries], span⟩⟩ (.entry [e.1] e.2) =
      some ⟨[s.name], ⟨t ++ [s.table (entries ++ [e])], span⟩⟩ := by
  simp only [add, Section.table, Table.inside, Table.get?_last h, Table.addLine_new hnew,
    Option.map_some, Table.replace_last h, List.foldl_append]
  rfl

theorem add_entries (h : t.Lacks s.name.text) : ∀ entries before : Table,
    ((before ++ entries).map (·.1.text)).Nodup →
    (entries.map fun e => Statement.entry [e.1] e.2).foldlM add
        ⟨[s.name], ⟨t ++ [s.table before], span⟩⟩ =
      some ⟨[s.name], ⟨t ++ [s.table (before ++ entries)], span⟩⟩
  | [], before, _ => by
    rw [List.append_nil]
    rfl
  | e :: entries, before, nodup => by
    -- The entry is new, so it goes behind those before it, and the rest follows on that table.
    have hnew := Table.lacks_of_nodup nodup
    have hsplit : before ++ e :: entries = before ++ [e] ++ entries := List.append_cons ..
    rw [hsplit] at nodup ⊢
    rw [List.map_cons, List.foldlM_cons, add_entry h hnew]
    exact add_entries h entries (before ++ [e]) nodup

/-- A section that is new goes behind all others. -/
theorem add_section (h : t.Lacks s.name.text) (nodup : (s.entries.map (·.1.text)).Nodup)
    (current : List Key) :
    s.statements.foldlM add ⟨current, ⟨t, span⟩⟩ =
      some ⟨[s.name], ⟨t ++ [s.table s.entries], span⟩⟩ := by
  rw [Section.statements, List.foldlM_cons, add_header h]
  exact add_entries h s.entries [] nodup

theorem add_sections (span : Option Span) : ∀ (sections : List Section) (t : Table)
    (current : List Key),
    (t.map (·.1.text) ++ sections.map (·.name.text)).Nodup →
    (∀ s ∈ sections, (s.entries.map (·.1.text)).Nodup) →
    ∃ current', (sections.flatMap Section.statements).foldlM add ⟨current, ⟨t, span⟩⟩ =
      some ⟨current', ⟨t ++ sections.map fun s => s.table s.entries, span⟩⟩
  | [], t, current, _, _ => ⟨current, by rw [List.map_nil, List.append_nil]; rfl⟩
  | s :: sections, t, current, nodup, hentries => by
    have hnew : t.Lacks s.name.text := by
      intro d hd heq
      exact (List.nodup_append.mp nodup).2.2 _ (List.mem_map_of_mem hd) _ (by simp) heq
    have hrest : ((t ++ [s.table s.entries]).map (·.1.text) ++
        sections.map (·.name.text)).Nodup := by
      simpa [Section.table] using nodup
    obtain ⟨current', hfold⟩ := add_sections span sections (t ++ [s.table s.entries]) [s.name] hrest
      fun s' hs' => hentries s' (List.mem_cons_of_mem s hs')
    refine ⟨current', ?_⟩
    rw [List.flatMap_cons, List.foldlM_append, add_section hnew (hentries s List.mem_cons_self)]
    simpa using hfold

/-- Entries in front of every header go into the root table. -/
theorem add_root_entries : ∀ (entries before : Table) (span : Option Span),
    ((before ++ entries).map (·.1.text)).Nodup →
    ∃ span', (entries.map fun e => Statement.entry [e.1] e.2).foldlM add ⟨[], ⟨before, span⟩⟩ =
      some ⟨[], ⟨before ++ entries, span'⟩⟩
  | [], before, span, _ => by
    rw [List.append_nil]
    exact ⟨span, rfl⟩
  | e :: entries, before, span, nodup => by
    have hadd : add ⟨[], ⟨before, span⟩⟩ (.entry [e.1] e.2) =
        some ⟨[], ⟨before ++ [e], reach span e.2.span⟩⟩ := by
      simp only [add, Table.inside, Table.addLine_new (Table.lacks_of_nodup nodup)]
      rfl
    rw [List.append_cons] at nodup ⊢
    rw [List.map_cons, List.foldlM_cons, hadd]
    exact add_root_entries entries (before ++ [e]) _ nodup

end
end Draft

/-- The root table of entries without a header has them in their order. -/
theorem ofStatements_entries {entries : Table} (distinct : (entries.map (·.1.text)).Nodup)
    (size : Nat) :
    ∃ span, Table.ofStatements size (entries.map fun e => .entry [e.1] e.2) =
      some ⟨entries, span⟩ := by
  obtain ⟨span, hfold⟩ := Draft.add_root_entries entries [] (some ⟨size, size⟩) distinct
  refine ⟨span, ?_⟩
  rw [Table.ofStatements, hfold]
  rfl

/-- The root table of a document in sections has them in their order. -/
theorem ofStatements_sections {sections : List Section}
    (names : (sections.map (·.name.text)).Nodup)
    (entries : ∀ s ∈ sections, (s.entries.map (·.1.text)).Nodup) (size : Nat) :
    Table.ofStatements size (sections.flatMap Section.statements) =
      some ⟨sections.map fun s => s.table s.entries, some ⟨size, size⟩⟩ := by
  obtain ⟨current, hfold⟩ := Draft.add_sections (some ⟨size, size⟩) sections [] []
    names entries
  rw [Table.ofStatements, hfold]
  rfl

end ManagedBoot.Toml
