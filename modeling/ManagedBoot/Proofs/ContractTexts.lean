import ManagedBoot.Command.Report
import ManagedBoot.Proofs.DecimalNumerals
import ManagedBoot.Proofs.EntryReading
import ManagedBoot.Proofs.GatedStart
/-!
Layout contracts as texts.

A contract is read from the five entries that its fields name, whatever else the document has and in
whatever order (`ofRoot_eq_ok_iff`). Its own text is a document of these entries alone, one to a
line, so it is read back as the contract (`ofToml_of_toToml`). There is no such text exactly if a
number is too large for an integer of TOML (`toToml_eq_ok_iff`).
-/
namespace ManagedBoot

open Toml (Key Line Placed Statement Table Value)

/-- A number is read exactly from an integer that it is; none that is proper leaves its word. -/
theorem Item.word_eq_ok_iff {item : Item} (h : item.value.Proper) {w : UInt64} :
    item.word = .ok w ↔ item.value = .integer w.toNat := by
  rw [word]
  split
  case h_1 n hvalue =>
    rw [hvalue] at h ⊢
    cases h with | integer range =>
    simp only [Toml.inRange, Bool.and_eq_true, decide_eq_true_eq] at range
    split
    case isTrue hneg =>
      constructor
      · intro hread
        cases hread
      · intro heq
        cases heq
        omega
    case isFalse hneg =>
      have small : n.toNat < 2 ^ 64 := by omega
      have hword : (UInt64.ofNat n.toNat).toNat = n.toNat := UInt64.toNat_ofNat_of_lt' small
      rw [Except.ok.injEq, Value.integer.injEq, ← UInt64.toNat_inj, hword]
      omega
  case h_2 hvalue =>
    constructor
    · intro hread
      cases hread
    · intro heq
      exact absurd heq (hvalue _)

theorem Item.cause_of_word {item : Item} {e : DataError} (h : item.word = .error e) :
    (∃ n, item.value = .integer n ∧ n < 0 ∧ e.cause = .negative n) ∨
      (∀ n, item.value ≠ .integer n) ∧ e.cause = .invalidType item.value .word := by
  rw [word] at h
  split at h
  case h_1 n hvalue =>
    split at h
    case isTrue below =>
      cases h
      exact .inl ⟨n, hvalue, below, rfl⟩
    case isFalse => cases h
  case h_2 other =>
    cases h
    exact .inr ⟨other, rfl⟩

namespace Layout

/-! ## Fields -/

theorem Field.find?_name (field : Field) : Field.all.find? (·.name == field.name) = some field := by
  cases field <;> rfl

theorem Field.mem_all (field : Field) : field ∈ Field.all :=
  List.mem_of_find?_eq_some field.find?_name

theorem Field.name_injective {f g : Field} (h : f.name = g.name) : f = g := by
  have hf := f.find?_name
  rw [h, g.find?_name] at hf
  exact (Option.some.inj hf).symm

namespace Fields

/-- Each number of a contract is a setting of its own. -/
def settings : Settings Field (fun _ => Option UInt64) Fields where
  name := Field.name
  read _ item := item.word.map some
  get field fields := fields field
  set field word fields := fun f => if f = field then word else fields f

theorem settings_describe : settings.Describe visit where
  named := by
    intro fields field item
    have hfind : Field.all.find? (·.name == settings.name field) = some field := field.find?_name
    rw [visit, hfind]
    dsimp only [settings]
    cases item.word <;> rfl
  unnamed := by
    intro fields name item h
    have hnone : Field.all.find? (·.name == name) = none :=
      List.find?_eq_none.mpr fun field _ => by simpa using! h field
    rw [visit, hnone]
  name_injective _ _ := Field.name_injective
  get_set field word fields := if_pos rfl
  get_set_ne field f word fields hne := if_neg hne
  ext _ _ h := funext h

variable {fields : Fields}

theorem contract_eq_ok_iff {c : Contract} :
    fields.contract = .ok c ↔ fields = fun field => some (c.get field) := by
  rw [contract]
  cases hfind : Field.all.find? fun field => (fields field).isNone with
  | some field =>
    have hnone := List.find?_some hfind
    rw [Option.isNone_iff_eq_none] at hnone
    constructor
    · intro h
      cases h
    · intro h
      rw [h] at hnone
      cases hnone
  | none =>
    have hpresent (field : Field) : some ((fields field).getD 0) = fields field := by
      have hsome := List.find?_eq_none.mp hfind field field.mem_all
      obtain ⟨w, hw⟩ := Option.ne_none_iff_exists'.mp (mt Option.isNone_iff_eq_none.mpr hsome)
      rw [hw]
      rfl
    constructor
    · intro h
      cases h
      funext field
      rw [← hpresent]
      cases field <;> rfl
    · intro h
      subst h
      rfl

theorem exists_of_contract_error {cause : Misfit} (h : fields.contract = .error cause) :
    ∃ field, fields field = none ∧ cause = .missingField field.name := by
  rw [contract] at h
  split at h
  case h_1 field hfind =>
    cases h
    have hnone := List.find?_some hfind
    exact ⟨field, Option.isNone_iff_eq_none.mp hnone, rfl⟩
  case h_2 => cases h

/-- A number is the value of its entry, and is missing if it has none. -/
theorem settled_iff {t : Table} (h : t.Proper) (field : Field) :
    settings.Settled t (fun _ => none) fields field ↔
      t.value? field.name = (fields field).map fun w => .integer w.toNat := by
  have hname : settings.name field = field.name := rfl
  rw [Settings.Settled, hname]
  cases hitem : t.item? field.name with
  | none =>
    rw [Table.value?_eq_item?, hitem]
    show fields field = none ↔ _
    cases fields field <;> simp
  | some item =>
    have hvalue := Table.value?_of_item? hitem
    rw [hvalue]
    show item.word.map some = .ok (fields field) ↔ _
    cases fields field with
    | none => cases item.word <;> simp [Except.map]
    | some w =>
      rw [Option.map_some, Option.some.injEq, ← Item.word_eq_ok_iff (h.value? hvalue)]
      cases item.word <;> simp [Except.map]

end Fields

namespace Contract

/-! ## Documents -/

variable {root : Placed Table} {c : Contract}

/-- What is wrong with an entry that gives its field no number. -/
inductive Misfits (t : Table) : Misfit → Prop
  | missing (field : Field) (absent : t.value? field.name = none) :
    Misfits t (.missingField field.name)
  | negative (field : Field) {n : Int} (entry : t.value? field.name = some (.integer n))
      (below : n < 0) : Misfits t (.negative n)
  | otherType (field : Field) {v : Value} (entry : t.value? field.name = some v)
      (other : ∀ n, v ≠ .integer n) : Misfits t (.invalidType v .word)

/-- A contract is read exactly if each of its numbers is the value of its entry. -/
theorem ofRoot_eq_ok_iff (h : root.value.Proper) :
    ofRoot root = .ok c ↔
      ∀ field, root.value.value? field.name = some (.integer (c.get field).toNat) := by
  -- All numbers are missing at first, and none is when the contract is made.
  have hfields : ofRoot root = .ok c ↔
      readEntries Fields.visit (fun _ => none) root.value =
        .ok fun field => some (c.get field) := by
    rw [ofRoot]
    cases hread : readEntries Fields.visit (fun _ => none) root.value with
    | error e =>
      constructor <;> intro h <;> cases h
    | ok fields =>
      rw [Except.ok.injEq, ← Fields.contract_eq_ok_iff]
      show fields.contract.mapError _ = .ok c ↔ _
      cases fields.contract <;> simp [Except.mapError]
  rw [hfields, Fields.settings_describe.readEntries_ok_iff h.distinct]
  exact forall_congr' fun field => Fields.settled_iff h field

/-- An error is that of an entry, or a number is missing when all entries have been read. -/
theorem of_ofRoot_error {e : DataError} (h : ofRoot root = .error e) :
    readEntries Fields.visit (fun _ => none) root.value = .error e ∨
      ∃ fields, readEntries Fields.visit (fun _ => none) root.value = .ok fields ∧
        fields.contract = .error e.cause := by
  rw [ofRoot] at h
  cases hread : readEntries Fields.visit (fun _ => none) root.value with
  | error cause =>
    rw [hread] at h
    cases h
    exact .inl rfl
  | ok fields =>
    rw [hread] at h
    have hcontract : fields.contract.mapError (⟨·, root.span⟩) = .error e := h
    refine .inr ⟨fields, rfl, ?_⟩
    cases hmissing : fields.contract with
    | ok c =>
      rw [hmissing] at hcontract
      cases hcontract
    | error cause =>
      rw [hmissing] at hcontract
      cases hcontract
      rfl

theorem misfits_of_error (h : root.value.Proper) {e : DataError} (herror : ofRoot root = .error e) :
    Misfits root.value e.cause := by
  rcases of_ofRoot_error herror with hread | ⟨fields, hread, hmissing⟩
  · obtain ⟨field, item, hitem, hcause⟩ :=
      Fields.settings_describe.readEntries_error h.distinct hread
    have hvalue := Table.value?_of_item? hitem
    rcases Item.cause_of_word (map_eq_error_iff.mp hcause) with
      ⟨n, hn, below, hnegative⟩ | ⟨other, htype⟩
    · rw [hnegative]
      exact .negative field (hvalue.trans (congrArg some hn)) below
    · rw [htype]
      exact .otherType field hvalue other
  · obtain ⟨field, hnone, hcause⟩ := Fields.exists_of_contract_error hmissing
    have settled := (Fields.settings_describe.readEntries_ok_iff h.distinct).mp hread field
    rw [Fields.settled_iff h, hnone] at settled
    rw [hcause]
    exact .missing field settled

/-! ## Own texts -/

/-- The lines of a contract's text. -/
def entryLines (c : Contract) : List Line :=
  Field.all.map fun field =>
    .entry field.name.toList (toString (c.get field)).toList (.integer (c.get field).toNat)

/-- What the lines say. -/
def named (c : Contract) : List (String × Value) :=
  Field.all.map fun field => (field.name, .integer (c.get field).toNat)

theorem toList_join_lines (c : Contract) :
    (String.join c.lines).toList = c.entryLines.flatMap Line.text := by
  rw [String.toList_join, lines, entryLines, List.flatMap_map, List.flatMap_map]
  congr 1
  funext field
  rw [Line.text]
  simp only [String.toList_append, List.append_assoc]
  rfl

theorem entryLines_plain (small : ∀ field, (c.get field).toNat ≤ 2 ^ 63 - 1) :
    ∀ l ∈ c.entryLines, l.Plain := by
  rw [entryLines, List.forall_mem_map]
  intro field _
  constructor
  · cases field <;> decide
  · exact Toml.writes_integer (Nat.lt_of_le_pred (by decide) (small field))

theorem toToml_eq_ok_iff {text : String} :
    c.toToml = .ok text ↔
      (∀ field, (c.get field).toNat ≤ 2 ^ 63 - 1) ∧ String.join c.lines = text := by
  have hall :
      (Field.all.all fun field => decide ((c.get field).toNat < 0x8000000000000000)) = true ↔
        ∀ field, (c.get field).toNat ≤ 2 ^ 63 - 1 := by
    simp only [List.all_eq_true, decide_eq_true_eq]
    constructor
    · intro h field
      exact Nat.le_pred_of_lt (h field field.mem_all)
    · intro h field _
      exact Nat.lt_of_le_pred (by decide) (h field)
  rw [toToml, ← hall]
  split
  case isTrue small => simp [small]
  case isFalse large => simp [large]

/-- Among the entries of a contract's text, a field has its number. -/
theorem value?_of_named {t : Table} (h : t.map (fun e => (e.1.text, e.2.value)) = c.named)
    (field : Field) : t.value? field.name = some (.integer (c.get field).toNat) := by
  have hfind : c.named.find? (·.1 == field.name) =
      some (field.name, .integer (c.get field).toNat) := by
    rw [named, List.find?_map]
    show (Field.all.find? (·.name == field.name)).map _ = _
    rw [field.find?_name]
    rfl
  rw [← h, List.find?_map] at hfind
  obtain ⟨e, he, heq⟩ := Option.map_eq_some_iff.mp hfind
  have hentry : t.find? (·.1.text == field.name) = some e := he
  rw [Table.value?, Table.get?, hentry]
  exact congrArg some (Prod.mk.inj heq).2

/-- The text of a contract is a document whose root table has its numbers. -/
theorem exists_parse_lines (small : ∀ field, (c.get field).toNat ≤ 2 ^ 63 - 1) :
    ∃ root, Toml.parse (String.join c.lines) = some root ∧
      root.value.map (fun e => (e.1.text, e.2.value)) = c.named := by
  obtain ⟨sts, hsts, hmeaning⟩ := Toml.statements_text c.entryLines (c.entryLines_plain small)
  have hentries : sts.map Statement.meaning = c.named.map fun e => .entry [e.1] e.2 := by
    rw [hmeaning]
    rfl
  obtain ⟨entries, rfl, hnamed⟩ := Statement.exists_entries hentries
  have distinct : (entries.map (·.1.text)).Nodup := by
    have htexts : entries.map (·.1.text) = c.named.map Prod.fst := by
      rw [← hnamed, List.map_map]
      rfl
    rw [htexts]
    show (Field.all.map Field.name).Nodup
    decide
  obtain ⟨span, hroot⟩ := Toml.ofStatements_entries distinct (String.join c.lines).length
  have hmark :
      Toml.skipByteOrderMark (String.join c.lines).toList = (String.join c.lines).toList := by
    rw [toList_join_lines]
    rfl
  refine ⟨⟨entries, span⟩, ?_, hnamed⟩
  rw [Toml.parse, hmark, toList_join_lines, hsts]
  exact hroot

/-- The text of a contract is read as the contract. -/
theorem ofToml_of_toToml {text : String} (h : c.toToml = .ok text) : ofToml text = .ok c := by
  obtain ⟨small, rfl⟩ := toToml_eq_ok_iff.mp h
  obtain ⟨root, hroot, hnamed⟩ := exists_parse_lines small
  rw [ofToml, readToml_eq_ok_iff hroot, ofRoot_eq_ok_iff (Toml.parse_proper hroot)]
  exact value?_of_named hnamed

/-! ## The laws -/

theorem get_ofFields (value : Field → UInt64) (field : Field) :
    (ofFields value).get field = value field := by
  cases field <;> rfl

theorem exists_numbers_iff {t : Table} (h : t.Proper) :
    (∃ c : Contract, ∀ field, t.value? field.name = some (.integer (c.get field).toNat)) ↔
      ∀ field : Field, ∃ n : Int, 0 ≤ n ∧ t.value? field.name = some (.integer n) := by
  constructor
  · intro hnumbers field
    obtain ⟨c, hc⟩ := hnumbers
    exact ⟨_, Int.natCast_nonneg _, hc field⟩
  · intro hnumbers
    have hwords (field : Field) :
        ∃ w : UInt64, t.value? field.name = some (.integer w.toNat) := by
      obtain ⟨n, nonneg, hn⟩ := hnumbers field
      have hread : Item.word ⟨.integer n, none⟩ = .ok (.ofNat n.toNat) := if_neg (by omega)
      exact ⟨_, hn.trans (congrArg some ((Item.word_eq_ok_iff (h.value? hn)).mp hread))⟩
    choose word hword using hwords
    refine ⟨ofFields word, fun field => ?_⟩
    rw [get_ofFields]
    exact hword field

/-- What holds of a contract's own text. -/
structure TextLaw (c : Contract) : Prop where
  /-- It is there exactly if every number is an integer of TOML. -/
  written_iff : (∃ text, c.toToml = .ok text) ↔ ∀ field, (c.get field).toNat ≤ 2 ^ 63 - 1
  read_back : ∀ text, c.toToml = .ok text → ofToml text = .ok c
  /-- What is read agrees with the contract, whichever of them is the host's. -/
  agrees : ∀ text c', c.toToml = .ok text → ofToml text = .ok c' →
    c.ensureMatches c' = .ok () ∧ c'.ensureMatches c = .ok ()
  /-- No other contract has the same text. -/
  own : ∀ text c', c.toToml = .ok text → c'.toToml = .ok text → c' = c

/-- What holds of reading a contract from a document with the given root table. -/
structure DocumentLaw (text : String) (root : Table) : Prop where
  ok_iff : ∀ c, ofToml text = .ok c ↔
    ∀ field, root.value? field.name = some (.integer (c.get field).toNat)
  succeeds_iff : (∃ c, ofToml text = .ok c) ↔
    ∀ field : Field, ∃ n : Int, 0 ≤ n ∧ root.value? field.name = some (.integer n)
  misfits : ∀ e, ofToml text = .error e → ∃ cause place, e = .data cause place ∧ Misfits root cause

theorem textLaw (c : Contract) : TextLaw c where
  written_iff := by
    constructor
    · rintro ⟨text, htext⟩
      exact (toToml_eq_ok_iff.mp htext).1
    · intro small
      exact ⟨_, toToml_eq_ok_iff.mpr ⟨small, rfl⟩⟩
  read_back _ := ofToml_of_toToml
  agrees := by
    intro text c' htext hread
    rw [ofToml_of_toToml htext] at hread
    cases hread
    have hself := (ensureMatches_eq_ok_iff c c).mpr fun _ => rfl
    exact ⟨hself, hself⟩
  own := by
    intro text c' htext htext'
    have hread := ofToml_of_toToml htext'
    rw [ofToml_of_toToml htext] at hread
    exact (Except.ok.inj hread).symm

theorem documentLaw {text : String} (h : Toml.parse text = some root) :
    DocumentLaw text root.value := by
  have proper := Toml.parse_proper h
  have ok_iff (c : Contract) : ofToml text = .ok c ↔
      ∀ field, root.value.value? field.name = some (.integer (c.get field).toNat) :=
    (readToml_eq_ok_iff h).trans (ofRoot_eq_ok_iff proper)
  refine ⟨ok_iff, ?_, ?_⟩
  · rw [← exists_numbers_iff proper]
    exact exists_congr ok_iff
  · intro e herror
    obtain ⟨cause, hcause, place, rfl⟩ := exists_of_readToml_error h herror
    exact ⟨cause.cause, place, rfl, misfits_of_error proper hcause⟩

end Contract
end Layout

/-- The layout command prints the text of the host's contract. -/
theorem CommandLine.run_layout {args : List String} (h : parse args = .ok (.layout .toml))
    (environment : Environment) (files : FileReader) :
    ∃ text, Layout.Contract.host.toToml = .ok text ∧
      run args environment files = { exitCode := 0, stdout := text } := by
  have small (field : Layout.Field) : (Layout.Contract.host.get field).toNat ≤ 2 ^ 63 - 1 := by
    cases field <;> decide
  have htext := Layout.Contract.toToml_eq_ok_iff.mpr ⟨small, rfl⟩
  refine ⟨_, htext, ?_⟩
  rw [run, outcome_of_parse h]
  dsimp only [Command.output]
  rw [htext]
  rfl

namespace Layout.Contract

/-- A contract survives being written and read, and is read from every document that has its five
numbers. -/
theorem contract_round_trip :
    (∀ c : Contract, TextLaw c) ∧
    (∀ (text : String) (root : Placed Table), Toml.parse text = some root →
      DocumentLaw text root.value) ∧
    ∀ (args : List String) (environment : Environment) (files : FileReader),
      CommandLine.parse args = .ok (.layout .toml) →
      ∃ text, host.toToml = .ok text ∧
        CommandLine.run args environment files = { exitCode := 0, stdout := text } := by
  refine ⟨textLaw, ?_, ?_⟩
  · intro text root hparse
    exact documentLaw hparse
  · intro args environment files hargs
    exact CommandLine.run_layout hargs environment files

/-- The largest numbers that are integers of TOML. -/
def largest : Contract := .ofFields fun _ => 0x7fffffffffffffff

/-- The host's numbers in another order and notation, among other entries. -/
def shuffledText : String :=
  "char_size = 2\n'pointer_size' = 0x08\nowner.name = \"a\"\ndata_offset = 1_2\n" ++
    "length_offset = +8\ntype_descriptor_offset = 0\n[image]\nchar_size = [-1]\n"

theorem contract_round_trip_of_shuffled :
    (∃ text, largest.toToml = .ok text ∧ ofToml text = .ok largest) ∧
    (∃ root, Toml.parse shuffledText = some root ∧
      ∀ field, root.value.value? field.name = some (.integer (host.get field).toNat)) ∧
    ofToml shuffledText = .ok host ∧
    CommandLine.parse ["layout", "--format", "toml"] = .ok (.layout .toml) ∧
    ∃ text, host.toToml = .ok text ∧
      CommandLine.run ["layout", "--format", "toml"] (fun _ => none) (fun _ => .error .notFound) =
        { exitCode := 0, stdout := text } := by
  have hparse : (Toml.parse shuffledText).isSome = true := by decide +kernel
  have hread : (ofToml shuffledText).toOption = some host := by decide +kernel
  have hargs : CommandLine.parse ["layout", "--format", "toml"] = .ok (.layout .toml) := by
    decide +kernel
  obtain ⟨ofContract, ofDocument, ofCommand⟩ := contract_round_trip
  have small (field : Field) : (largest.get field).toNat ≤ 2 ^ 63 - 1 := by
    cases field <;> decide
  obtain ⟨text, htext⟩ := (ofContract largest).written_iff.mpr small
  obtain ⟨root, hroot⟩ := Option.isSome_iff_exists.mp hparse
  have hok := eq_ok_of_toOption hread
  refine ⟨⟨text, htext, ?_⟩, ⟨root, hroot, ?_⟩, hok, hargs, ?_⟩
  · exact (ofContract largest).read_back text htext
  · exact ((ofDocument shuffledText root hroot).ok_iff host).mp hok
  · exact ofCommand _ _ _ hargs

end Layout.Contract
end ManagedBoot
