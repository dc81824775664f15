import ManagedBoot.Proofs.SectionTables
import ManagedBoot.Toml.Number
import Mathlib.Data.List.Nodup
/-!
Tables without repeated keys.

A proper value has no table in which a key stands twice and no integer outside 64 bits, at any
depth. A table is changed by adding an entry that it lacks, by putting a value in the place of an
old one, or by taking an entry out, and each of these keeps it proper. So do the additions of
entries along a path and of headers (`addEntry_proper`, `atParent_proper`, `inside_proper`), and the
root of proper statements is proper (`ofStatements_proper`).
-/
namespace ManagedBoot.Toml

/-- At every depth no table has a key twice and every integer has 64 bits. -/
inductive Value.Proper : Value → Prop
  | string (text : String) : Proper (.string text)
  | integer {n : Int} (range : inRange n = true) : Proper (.integer n)
  | float (x : Binary64) : Proper (.float x)
  | boolean (b : Bool) : Proper (.boolean b)
  | datetime (t : DateTime) : Proper (.datetime t)
  | array {items : List (Placed Value)} (each : ∀ v ∈ items, v.value.Proper) :
    Proper (.array items)
  | table {kind : TableKind} {t : Table} (distinct : (t.map (·.1.text)).Nodup)
      (each : ∀ e ∈ t, e.2.value.Proper) : Proper (.table kind t)
  | tables {ts : List (Placed Table)} (distinct : ∀ t ∈ ts, (t.value.map (·.1.text)).Nodup)
      (each : ∀ t ∈ ts, ∀ e ∈ t.value, e.2.value.Proper) : Proper (.tables ts)

/-- No key stands twice and every value is proper. -/
structure Table.Proper (t : Table) : Prop where
  distinct : (t.map (·.1.text)).Nodup
  each : ∀ e ∈ t, e.2.value.Proper

theorem Value.proper_table_iff {kind : TableKind} {t : Table} :
    (Value.table kind t).Proper ↔ t.Proper := by
  constructor
  · rintro (_ | _ | _ | _ | _ | _ | ⟨distinct, each⟩)
    exact ⟨distinct, each⟩
  · intro h
    exact .table h.distinct h.each

theorem Value.proper_tables_iff {ts : List (Placed Table)} :
    (Value.tables ts).Proper ↔ ∀ t ∈ ts, t.value.Proper := by
  constructor
  · rintro (_ | _ | _ | _ | _ | _ | _ | ⟨distinct, each⟩) t ht
    exact ⟨distinct t ht, each t ht⟩
  · intro h
    exact .tables (fun t ht => (h t ht).distinct) fun t ht => (h t ht).each

namespace Table

section
variable {t : Table} {name : String} {key : Key} {v : Placed Value}

/-! ## Entries -/

theorem exists_of_get? (h : t.get? name = some v) : ∃ key, (key, v) ∈ t ∧ key.text = name := by
  obtain ⟨⟨key, v'⟩, hfind, rfl⟩ := Option.map_eq_some_iff.mp h
  exact ⟨key, List.mem_of_find?_eq_some hfind, by simpa using List.find?_some hfind⟩

theorem lacks_of_get? (h : t.get? name = none) : t.Lacks name := by
  intro e he
  have hfind := List.find?_eq_none.mp (Option.map_eq_none_iff.mp h) e he
  simpa using hfind

theorem lacks_iff_not_mem : t.Lacks name ↔ name ∉ t.map (·.1.text) := by
  simp [Lacks]

theorem lacks_of_not_contains (h : ¬t.contains name = true) : t.Lacks name :=
  lacks_of_get? (by simpa [contains] using h)

theorem lacks_erase (t : Table) (name : String) : (t.erase name).Lacks name := by
  intro e he
  simpa using (List.mem_filter.mp he).2

theorem map_text_replace (t : Table) (name : String) (v : Placed Value) :
    (t.replace name v).map (·.1.text) = t.map (·.1.text) := by
  rw [replace, List.map_map]
  apply List.map_congr_left
  intro e he
  by_cases h : e.1.text = name <;> simp [h]

theorem mem_replace {e : Key × Placed Value} (h : e ∈ t.replace name v) : e.2 = v ∨ e ∈ t := by
  obtain ⟨⟨k, old⟩, hold, rfl⟩ := List.mem_map.mp h
  by_cases hk : k.text = name
  · simp [hk]
  · simpa [hk] using .inr hold

/-! ## Changes -/

theorem proper_nil : Table.Proper [] := ⟨List.nodup_nil, by simp⟩

theorem Proper.get? (h : t.Proper) (hget : t.get? name = some v) : v.value.Proper := by
  obtain ⟨key, hmem, -⟩ := exists_of_get? hget
  exact h.each _ hmem

theorem Proper.push (h : t.Proper) (new : t.Lacks key.text) (hv : v.value.Proper) :
    (t.push key v).Proper where
  distinct := by
    rw [Table.push, List.map_append, List.map_singleton, ← List.concat_eq_append]
    exact h.distinct.concat (lacks_iff_not_mem.mp new)
  each := by
    intro e he
    rcases List.mem_append.mp he with old | new
    · exact h.each e old
    · rw [List.mem_singleton.mp new]
      exact hv

theorem Proper.replace (h : t.Proper) (name : String) (hv : v.value.Proper) :
    (t.replace name v).Proper where
  distinct := by
    rw [map_text_replace]
    exact h.distinct
  each := by
    intro e he
    rcases mem_replace he with new | old
    · rw [new]
      exact hv
    · exact h.each e old

/-- The table behind a key. -/
theorem Proper.table (h : t.Proper) {kind : TableKind} {sub : Table} {span : Option Span}
    (hget : t.get? name = some ⟨.table kind sub, span⟩) : sub.Proper :=
  Value.proper_table_iff.mp (h.get? hget)

theorem Proper.replaceTable (h : t.Proper) (name : String) (kind : TableKind) {sub : Table}
    (hsub : sub.Proper) (span : Option Span) :
    (t.replace name ⟨.table kind sub, span⟩).Proper :=
  h.replace name (Value.proper_table_iff.mpr hsub)

/-- The last of the tables behind a key. -/
theorem Proper.lastElement (h : t.Proper) {ts : List (Placed Table)} {span : Option Span}
    (hget : t.get? name = some ⟨.tables ts, span⟩) : (lastElement ts).value.Proper := by
  have hts := Value.proper_tables_iff.mp (h.get? hget)
  rw [Table.lastElement, List.getLastD_eq_getLast?]
  cases hlast : ts.getLast? with
  | none => exact proper_nil
  | some last => exact hts last (List.mem_of_getLast? hlast)

theorem Proper.replaceLast (h : t.Proper) {ts : List (Placed Table)} {span : Option Span}
    (hget : t.get? name = some ⟨.tables ts, span⟩) {last : Placed Table}
    (hlast : last.value.Proper) : (t.replace name (replaceLast ts last)).Proper := by
  have hts := Value.proper_tables_iff.mp (h.get? hget)
  refine h.replace name (Value.proper_tables_iff.mpr ?_)
  intro t' ht'
  rcases List.mem_append.mp ht' with old | new
  · exact hts t' (List.dropLast_subset ts old)
  · rw [List.mem_singleton.mp new]
    exact hlast

theorem Proper.erase (h : t.Proper) (name : String) : (t.erase name).Proper where
  distinct := h.distinct.sublist (List.filter_sublist.map _)
  each := fun e he => h.each e (List.mem_of_mem_filter he)

end

/-! ## Paths -/

theorem addEntry_proper {v : Placed Value} (hv : v.value.Proper) {path : List Key} {t t' : Table}
    (h : t.Proper) (hadd : addEntry v path t = some t') : t'.Proper := by
  fun_induction addEntry v path t generalizing t' with
  | case1 => cases hadd
  | case2 => cases hadd
  | case3 key t new =>
    cases hadd
    exact h.push (lacks_of_not_contains new) hv
  | case4 key next more t hget ih =>
    obtain ⟨sub, hsub, rfl⟩ := Option.map_eq_some_iff.mp hadd
    exact h.push (lacks_of_get? hget) (Value.proper_table_iff.mpr (ih proper_nil hsub))
  | case5 => cases hadd
  | case6 => cases hadd
  | case7 key next more t kind sub span hget _ _ ih =>
    obtain ⟨sub', hsub, rfl⟩ := Option.map_eq_some_iff.mp hadd
    exact h.replaceTable key.text kind (ih (h.table hget) hsub) span
  | case8 => cases hadd
  | case9 key next more t ts span hget _ last =>
    rename_i ih
    obtain ⟨sub', hsub, rfl⟩ := Option.map_eq_some_iff.mp hadd
    exact h.replaceLast hget (ih (h.lastElement hget) hsub)
  | case10 => cases hadd

/-- A change that keeps tables proper may be made at the end of any path. -/
theorem atParent_proper {change : Key → Table → Option Table}
    (hchange : ∀ {key t t'}, Table.Proper t → change key t = some t' → t'.Proper)
    {path : List Key} {t t' : Table} (h : t.Proper) (hat : atParent change path t = some t') :
    t'.Proper := by
  fun_induction atParent change path t generalizing t' with
  | case1 => cases hat
  | case2 key t => exact hchange h hat
  | case3 key next more t hget ih =>
    obtain ⟨sub, hsub, rfl⟩ := Option.map_eq_some_iff.mp hat
    exact h.push (lacks_of_get? hget) (Value.proper_table_iff.mpr (ih proper_nil hsub))
  | case4 => cases hat
  | case5 key next more t kind sub span hget _ ih =>
    obtain ⟨sub', hsub, rfl⟩ := Option.map_eq_some_iff.mp hat
    exact h.replaceTable key.text kind (ih (h.table hget) hsub) span
  | case6 key next more t ts span hget last =>
    rename_i ih
    obtain ⟨sub', hsub, rfl⟩ := Option.map_eq_some_iff.mp hat
    exact h.replaceLast hget (ih (h.lastElement hget) hsub)
  | case7 => cases hat

theorem openTable_proper {span : Span} {key : Key} {t t' : Table} (h : t.Proper)
    (hopen : openTable span key t = some t') : t'.Proper := by
  rw [openTable] at hopen
  split at hopen
  case h_1 hget =>
    cases hopen
    exact h.push (lacks_of_get? hget) (Value.proper_table_iff.mpr proper_nil)
  case h_2 sub place hget =>
    cases hopen
    exact (h.erase key.text).push (lacks_erase t key.text)
      (Value.proper_table_iff.mpr (h.table hget))
  case h_3 => cases hopen

theorem openElement_proper {span : Span} {key : Key} {t t' : Table} (h : t.Proper)
    (hopen : openElement span key t = some t') : t'.Proper := by
  rw [openElement] at hopen
  split at hopen
  case h_1 hget =>
    cases hopen
    refine h.push (lacks_of_get? hget) (Value.proper_tables_iff.mpr ?_)
    intro t' ht'
    rw [List.mem_singleton.mp ht']
    exact proper_nil
  case h_2 ts place hget =>
    cases hopen
    refine h.replace key.text (Value.proper_tables_iff.mpr ?_)
    intro t' ht'
    rcases List.mem_append.mp ht' with old | new
    · exact Value.proper_tables_iff.mp (h.get? hget) t' old
    · rw [List.mem_singleton.mp new]
      exact proper_nil
  case h_3 => cases hopen

theorem inside_proper {change : Placed Table → Option (Placed Table)}
    (hchange : ∀ {t t'}, t.value.Proper → change t = some t' → t'.value.Proper)
    {path : List Key} {t t' : Placed Table} (h : t.value.Proper)
    (hin : inside change path t = some t') : t'.value.Proper := by
  fun_induction inside change path t generalizing t' with
  | case1 t => exact hchange h hin
  | case2 key more t kind sub span hget ih =>
    obtain ⟨sub', hsub, rfl⟩ := Option.map_eq_some_iff.mp hin
    exact h.replaceTable key.text kind (ih (h.table hget) hsub) sub'.span
  | case3 key more t ts span hget ih =>
    obtain ⟨last, hlast, rfl⟩ := Option.map_eq_some_iff.mp hin
    exact h.replaceLast hget (ih (h.lastElement hget) hlast)
  | case4 => cases hin

theorem addLine_proper {path : List Key} {v : Placed Value} (hv : v.value.Proper)
    {t t' : Placed Table} (h : t.value.Proper) (hadd : addLine path v t = some t') :
    t'.value.Proper := by
  obtain ⟨entries, hentries, rfl⟩ := Option.map_eq_some_iff.mp hadd
  exact addEntry_proper hv h hentries

end Table

/-! ## Documents -/

/-- The value of an entry is proper. -/
def Statement.Proper : Statement → Prop
  | .entry _ v => v.value.Proper
  | .header _ _ | .arrayHeader _ _ => True

theorem Draft.add_proper {d d' : Draft} {st : Statement} (hst : st.Proper)
    (h : d.root.value.Proper) (hadd : d.add st = some d') : d'.root.value.Proper := by
  cases st with
  | header path span =>
    obtain ⟨t, ht, rfl⟩ := Option.map_eq_some_iff.mp hadd
    exact Table.atParent_proper Table.openTable_proper h ht
  | arrayHeader path span =>
    obtain ⟨t, ht, rfl⟩ := Option.map_eq_some_iff.mp hadd
    exact Table.atParent_proper Table.openElement_proper h ht
  | entry path v =>
    obtain ⟨root, hroot, rfl⟩ := Option.map_eq_some_iff.mp hadd
    exact Table.inside_proper (Table.addLine_proper hst) h hroot

/-- What every step keeps, all steps keep. -/
theorem foldlM_keeps {α β : Type} {step : α → β → Option α} {kept : α → Prop} :
    ∀ {bs : List β}, (∀ b ∈ bs, ∀ {a a'}, kept a → step a b = some a' → kept a') →
    ∀ {a a' : α}, kept a → bs.foldlM step a = some a' → kept a'
  | [], _, _, _, h, hfold => by
    cases hfold
    exact h
  | b :: bs, hstep, a, a', h, hfold => by
    rw [List.foldlM_cons, Option.bind_eq_bind, Option.bind_eq_some_iff] at hfold
    obtain ⟨a₁, hfirst, hrest⟩ := hfold
    exact foldlM_keeps (fun b hb => hstep b (List.mem_cons_of_mem _ hb))
      (hstep b List.mem_cons_self h hfirst) hrest

theorem ofEntries_proper {entries : List (List Key × Placed Value)}
    (hentries : ∀ e ∈ entries, e.2.value.Proper) {t : Table}
    (h : Table.ofEntries entries = some t) : t.Proper :=
  foldlM_keeps (fun e he _ _ => Table.addEntry_proper (hentries e he)) Table.proper_nil h

theorem ofStatements_proper {size : Nat} {sts : List Statement} (hsts : ∀ st ∈ sts, st.Proper)
    {root : Placed Table} (h : Table.ofStatements size sts = some root) : root.value.Proper := by
  obtain ⟨d, hd, rfl⟩ := Option.map_eq_some_iff.mp h
  exact foldlM_keeps (fun st hst _ _ => Draft.add_proper (hsts st hst)) Table.proper_nil hd

end ManagedBoot.Toml
