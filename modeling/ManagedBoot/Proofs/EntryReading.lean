import ManagedBoot.Config.Reading
import ManagedBoot.Proofs.ProperDocuments
/-!
Reading a record entry by entry.

The readers of configurations and contracts visit the entries of a table in order, and each entry
either sets the one setting that it names or is ignored. If no key stands twice, the order does not
matter: each setting is what its own entry says, or what it was before (`readEntries_ok_iff`), and
an error is that of an entry which cannot be read (`readEntries_error`). Of a section only its
entries count, however it is written, and a section that is absent counts as empty
(`settled_section`).
-/
namespace ManagedBoot

open Toml (Key Placed Table TableKind Value)

def Toml.Value.IsTable (v : Value) : Prop := ∃ kind sub, v = .table kind sub

instance : DecidablePred Value.IsTable
  | .table kind sub => .isTrue ⟨kind, sub, rfl⟩
  | .string _ | .integer _ | .float _ | .boolean _ | .datetime _ | .array _ | .tables _ =>
    .isFalse fun h => nomatch h

instance (v : Value) : Decidable (∃ text, v = .string text) :=
  match v with
  | .string text => .isTrue ⟨text, rfl⟩
  | .integer _ | .float _ | .boolean _ | .datetime _ | .array _ | .table _ _ | .tables _ =>
    .isFalse fun h => nomatch h

namespace Toml.Table

/-- The value behind a key. -/
def value? (t : Table) (name : String) : Option Value := (t.get? name).map (·.value)

/-- The entries of the table behind a key, and none where there is no table. -/
def inner (t : Table) (name : String) : Table :=
  match t.value? name with
  | some (.table _ sub) => sub
  | _ => []

/-- The value behind a key as a reader meets it. -/
def item? (t : Table) (name : String) : Option Item :=
  (t.find? (·.1.text == name)).map fun e => .ofEntry e.1 e.2

section
variable {t : Table} {name : String}

theorem value?_eq_item? : t.value? name = (t.item? name).map (·.value) := by
  simp only [item?, value?, get?, Option.map_map]
  rfl

theorem value?_of_item? {item : Item} (h : t.item? name = some item) :
    t.value? name = some item.value := by
  rw [value?_eq_item?, h]
  rfl

theorem item?_cons_self (e : Key × Placed Value) (t : Table) :
    Table.item? (e :: t) e.1.text = some (.ofEntry e.1 e.2) := by
  simp [item?]

theorem item?_cons_of_ne {e : Key × Placed Value} (h : e.1.text ≠ name) :
    Table.item? (e :: t) name = t.item? name := by
  rw [item?, List.find?_cons_of_neg (by simpa using h)]
  rfl

theorem item?_of_lacks (h : t.Lacks name) : t.item? name = none := by
  rw [item?, find?_of_lacks h]
  rfl

theorem Proper.value? (h : t.Proper) {v : Value} (hvalue : t.value? name = some v) : v.Proper := by
  obtain ⟨placed, hget, rfl⟩ := Option.map_eq_some_iff.mp hvalue
  exact h.get? hget

theorem Proper.inner (h : t.Proper) (name : String) : (t.inner name).Proper := by
  rw [Table.inner]
  split
  case h_1 hvalue => exact Value.proper_table_iff.mp (h.value? hvalue)
  case h_2 => exact proper_nil

/-- The table behind a key at which a reader meets one. -/
theorem inner_of_item? {item : Item} (hitem : t.item? name = some item)
    (htable : ∀ v, t.value? name = some v → v.IsTable) :
    ∃ kind, item.value = .table kind (t.inner name) := by
  have hvalue := value?_of_item? hitem
  obtain ⟨kind, sub, hsub⟩ := htable item.value hvalue
  refine ⟨kind, ?_⟩
  rw [Table.inner, hvalue, hsub]

end
end Toml.Table

/-- A section that is a table is read by its entries. -/
theorem Item.sectionOf_table {α : Type} {item : Item} {kind : TableKind} {t : Table}
    (h : item.value = .table kind t) (expected : Expectation) (empty : α)
    (ofTable : Table → Except DataError α) (ofItems : List Item → Except DataError α) :
    item.sectionOf expected empty ofTable ofItems = ofTable t := by
  rw [sectionOf, h]

/-! ## Settings of their own -/

theorem bind_pure_eq_map {ε α β : Type} (read : Except ε α) (f : α → β) :
    (read >>= fun a => pure (f a)) = read.map f := by
  cases read <;> rfl

theorem map_eq_error_iff {ε α β : Type} {read : Except ε α} {f : α → β} {e : ε} :
    read.map f = .error e ↔ read = .error e := by
  cases read <;> simp [Except.map]

/-- The settings of a record `α`: their names in a table, how each is read, and where it is kept. -/
structure Settings (ι : Type) (β : ι → Type) (α : Type) where
  name : ι → String
  read : (i : ι) → Item → Except DataError (β i)
  get : (i : ι) → α → β i
  set : (i : ι) → β i → α → α

namespace Settings

variable {ι : Type} {β : ι → Type} {α : Type}

/-- The settings are apart from each other and a visit of an entry sets the one that it names. -/
structure Describe (s : Settings ι β α) (visit : α → String → Item → Except DataError α) :
    Prop where
  named : ∀ c i item, visit c (s.name i) item = (s.read i item).map (s.set i · c)
  unnamed : ∀ c name item, (∀ i, s.name i ≠ name) → visit c name item = .ok c
  name_injective : ∀ i j, s.name i = s.name j → i = j
  get_set : ∀ i b c, s.get i (s.set i b c) = b
  get_set_ne : ∀ i j b c, j ≠ i → s.get j (s.set i b c) = s.get j c
  ext : ∀ c c', (∀ i, s.get i c = s.get i c') → c = c'

/-- A setting is what its entry says, or as before if it has none. -/
def Settled (s : Settings ι β α) (t : Table) (start c : α) (i : ι) : Prop :=
  match t.item? (s.name i) with
  | some item => s.read i item = .ok (s.get i c)
  | none => s.get i c = s.get i start

variable {s : Settings ι β α} {visit : α → String → Item → Except DataError α}

/-- An entry that could be read settles its setting, and the rest of the table the others. -/
theorem Describe.settled_cons (h : s.Describe visit) {e : Key × Placed Value} {t : Table}
    (new : t.Lacks e.1.text) {i : ι} (hi : s.name i = e.1.text) {b : β i}
    (hread : s.read i (.ofEntry e.1 e.2) = .ok b) (start c : α) (j : ι) :
    s.Settled t (s.set i b start) c j ↔ s.Settled (e :: t) start c j := by
  by_cases same : j = i
  · subst same
    rw [Settled, Settled, hi, Table.item?_of_lacks new, Table.item?_cons_self]
    dsimp only
    rw [h.get_set, hread, Except.ok.injEq, eq_comm]
  · have hne : e.1.text ≠ s.name j := by
      intro heq
      exact same (h.name_injective j i (heq.symm.trans hi.symm))
    rw [Settled, Settled, Table.item?_cons_of_ne hne, h.get_set_ne i j b start same]

/-- The table is read if every entry that names a setting can be read, and gives what they say. -/
theorem Describe.readEntries_ok_iff (h : s.Describe visit) {c : α} : ∀ {t : Table} {start : α},
    (t.map (·.1.text)).Nodup →
    (readEntries visit start t = .ok c ↔ ∀ i, s.Settled t start c i)
  | [], start, _ => by
    constructor
    · intro hread i
      cases hread
      exact rfl
    · intro settled
      rw [h.ext c start settled]
      rfl
  | e :: t, start, distinct => by
    obtain ⟨hnew, hrest⟩ := List.nodup_cons.mp distinct
    have new : Table.Lacks t e.1.text := Table.lacks_iff_not_mem.mpr hnew
    rw [readEntries, List.foldlM_cons]
    -- The entry names a setting, which no later entry names again, or it is passed over.
    by_cases hname : ∃ i, s.name i = e.1.text
    · obtain ⟨i, hi⟩ := hname
      dsimp only
      rw [← hi, h.named]
      cases hread : s.read i (.ofEntry e.1 e.2) with
      | error cause =>
        constructor
        · intro hfold
          cases hfold
        · intro settled
          have hentry := settled i
          rw [Settled, hi, Table.item?_cons_self] at hentry
          dsimp only at hentry
          rw [hread] at hentry
          cases hentry
      | ok b =>
        have ih : readEntries visit (s.set i b start) t = .ok c ↔
            ∀ j, s.Settled t (s.set i b start) c j := h.readEntries_ok_iff hrest
        exact ih.trans (forall_congr' (h.settled_cons new hi hread start c))
    · have hother : ∀ i, s.name i ≠ e.1.text := not_exists.mp hname
      dsimp only
      rw [h.unnamed _ _ _ hother]
      refine (h.readEntries_ok_iff hrest).trans (forall_congr' ?_)
      intro i
      rw [Settled, Settled, Table.item?_cons_of_ne (hother i).symm]

/-- An error is that of an entry which names a setting and cannot be read. -/
theorem Describe.readEntries_error (h : s.Describe visit) {e : DataError} :
    ∀ {t : Table} {start : α},
    (t.map (·.1.text)).Nodup → readEntries visit start t = .error e →
    ∃ i item, t.item? (s.name i) = some item ∧ s.read i item = .error e
  | [], _, _, hread => by cases hread
  | entry :: t, start, distinct, hread => by
    obtain ⟨hnew, hrest⟩ := List.nodup_cons.mp distinct
    have new : Table.Lacks t entry.1.text := Table.lacks_iff_not_mem.mpr hnew
    -- An error in the rest of the table is one of the whole table: the first key is not there.
    have later : ∀ {c}, readEntries visit c t = .error e →
        ∃ i item, Table.item? (entry :: t) (s.name i) = some item ∧ s.read i item = .error e := by
      intro c hlater
      obtain ⟨i, item, hitem, hcause⟩ := h.readEntries_error hrest hlater
      refine ⟨i, item, ?_, hcause⟩
      rw [Table.item?_cons_of_ne, hitem]
      intro heq
      rw [← heq, Table.item?_of_lacks new] at hitem
      cases hitem
    rw [readEntries, List.foldlM_cons] at hread
    dsimp only at hread
    by_cases hname : ∃ i, s.name i = entry.1.text
    · obtain ⟨i, hi⟩ := hname
      rw [← hi, h.named] at hread
      cases hentry : s.read i (.ofEntry entry.1 entry.2) with
      | error cause =>
        rw [hentry] at hread
        cases hread
        exact ⟨i, _, hi ▸ Table.item?_cons_self entry t, hentry⟩
      | ok b =>
        rw [hentry] at hread
        exact later hread
    · rw [h.unnamed _ _ _ (not_exists.mp hname)] at hread
      exact later hread

/-! ## Sections -/

/-- A setting that is a section of its own is what the entries of its table say. -/
theorem settled_section {t : Table} {start c : α} {i : ι} {ofTable : Table → Except DataError (β i)}
    (hread : ∀ item kind sub, item.value = .table kind sub → s.read i item = ofTable sub)
    (hempty : ofTable [] = .ok (s.get i start))
    (htable : ∀ v, t.value? (s.name i) = some v → v.IsTable) :
    s.Settled t start c i ↔ ofTable (t.inner (s.name i)) = .ok (s.get i c) := by
  rw [Settled]
  cases hitem : t.item? (s.name i) with
  | none =>
    rw [Table.inner, Table.value?_eq_item?, hitem]
    dsimp only [Option.map_none]
    rw [hempty, Except.ok.injEq, eq_comm]
  | some item =>
    obtain ⟨kind, hinner⟩ := Table.inner_of_item? hitem htable
    dsimp only
    rw [hread item kind _ hinner]

end Settings

/-! ## Texts -/

theorem eq_ok_of_toOption {ε α : Type} {result : Except ε α} {a : α}
    (h : result.toOption = some a) : result = .ok a := by
  cases result with
  | error e => cases h
  | ok b => exact congrArg Except.ok (Option.some.inj h)

section
variable {α : Type} {ofRoot : Placed Table → Except DataError α} {text : String}
  {root : Placed Table}

theorem readToml_eq_ok_iff (h : Toml.parse text = some root) {a : α} :
    readToml ofRoot text = .ok a ↔ ofRoot root = .ok a := by
  rw [readToml, h]
  dsimp only
  cases ofRoot root <;> simp [Except.mapError]

theorem exists_of_readToml_error (h : Toml.parse text = some root) {e : ParseError}
    (herror : readToml ofRoot text = .error e) :
    ∃ cause, ofRoot root = .error cause ∧ ∃ place, e = .data cause.cause place := by
  rw [readToml, h] at herror
  dsimp only at herror
  cases hroot : ofRoot root with
  | ok a =>
    rw [hroot] at herror
    cases herror
  | error cause =>
    rw [hroot] at herror
    cases herror
    exact ⟨cause, rfl, _, rfl⟩

end
end ManagedBoot
