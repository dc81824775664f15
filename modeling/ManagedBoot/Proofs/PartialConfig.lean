import ManagedBoot.Proofs.EntryReading
/-!
Configurations that give some of the settings.

A document in sections gives the log filter, the timestamps and the stream of reports each at its
own place or not at all. What is read of it depends on these three entries alone: each setting is
the value that the document has for it, and its default if there is none, whatever the other two are
(`ofTable_ok_iff`). Nothing is read exactly if one of the entries has no such value, and the error
then names one that has not (`misfits_of_error`). `overlayLaw` says so for texts.
-/
namespace ManagedBoot

open Toml (Placed Table Value)

/-! ## Values -/

namespace Item

variable {item : Item}

theorem string_eq_ok_iff {text : String} : item.string = .ok text ↔ item.value = .string text := by
  rw [string]
  cases item.value <;> simp [failType, fail]

theorem boolean_eq_ok_iff {b : Bool} : item.boolean = .ok b ↔ item.value = .boolean b := by
  rw [boolean]
  cases item.value <;> simp [failType, fail]

theorem cause_of_string {e : DataError} (h : item.string = .error e) :
    e.cause = .invalidType item.value .string ∧ ∀ text, item.value ≠ .string text := by
  rw [string] at h
  split at h
  case h_1 => cases h
  case h_2 hvalue =>
    cases h
    exact ⟨rfl, hvalue⟩

theorem cause_of_boolean {e : DataError} (h : item.boolean = .error e) :
    e.cause = .invalidType item.value .boolean ∧ ∀ b, item.value ≠ .boolean b := by
  rw [boolean] at h
  split at h
  case h_1 => cases h
  case h_2 hvalue =>
    cases h
    exact ⟨rfl, hvalue⟩

end Item

namespace Stream

theorem ofName?_eq_some_iff {name : String} {s : Stream} :
    ofName? name = some s ↔ name = s.name := by
  constructor
  · intro h
    have hname := List.find?_some h
    rw [beq_iff_eq] at hname
    exact hname.symm
  · rintro rfl
    cases s <;> rfl

theorem ofName?_eq_none_iff {name : String} :
    ofName? name = none ↔ ∀ s : Stream, name ≠ s.name := by
  constructor
  · intro h s hname
    rw [ofName?_eq_some_iff.mpr hname] at h
    cases h
  · intro h
    cases hname : ofName? name with
    | none => rfl
    | some s => exact absurd (ofName?_eq_some_iff.mp hname) (h s)

variable {item : Item} {name : String}

/-- A text is read as the stream that it names. -/
theorem ofItem_eq_ok_iff (hitem : item.value = .string name) {s : Stream} :
    ofItem item = .ok s ↔ name = s.name := by
  rw [ofItem, hitem, ← ofName?_eq_some_iff]
  dsimp only
  rw [ofText]
  cases ofName? name <;> simp

theorem cause_of_ofItem (hitem : item.value = .string name) {e : DataError}
    (h : ofItem item = .error e) : e.cause = .unknownStream name ∧ ∀ s : Stream, name ≠ s.name := by
  rw [ofItem, hitem] at h
  dsimp only at h
  rw [ofText] at h
  cases hname : ofName? name with
  | none =>
    rw [hname] at h
    cases h
    exact ⟨rfl, ofName?_eq_none_iff.mp hname⟩
  | some s =>
    rw [hname] at h
    cases h

end Stream

/-- A setting whose values are written in one form is the value of its entry in that form. -/
theorem Settings.settled_iff {ι : Type} {β : ι → Type} {α : Type} {s : Settings ι β α} {t : Table}
    {start c : α} {i : ι} {form : β i → Value} (hform : Function.Injective form)
    (hread : ∀ item, t.item? (s.name i) = some item →
      ∀ b, s.read i item = .ok b ↔ item.value = form b) :
    s.Settled t start c i ↔
      (t.value? (s.name i)).getD (form (s.get i start)) = form (s.get i c) := by
  rw [Settled, Table.value?_eq_item?]
  cases hitem : t.item? (s.name i) with
  | none =>
    dsimp only [Option.map_none, Option.getD_none]
    rw [hform.eq_iff, eq_comm]
  | some item => exact hread item hitem _

/-! ## The logging section -/

inductive LoggingSetting where
  | filter
  | timestamps
  deriving DecidableEq, Repr

abbrev LoggingSetting.Content : LoggingSetting → Type
  | .filter => String
  | .timestamps => Bool

namespace LoggingConfig

def settings : Settings LoggingSetting LoggingSetting.Content LoggingConfig where
  name
    | .filter => "filter"
    | .timestamps => "timestamps"
  read
    | .filter => Item.string
    | .timestamps => Item.boolean
  get
    | .filter => filter
    | .timestamps => timestamps
  set
    | .filter => fun filter c => { c with filter }
    | .timestamps => fun timestamps c => { c with timestamps }

theorem settings_describe : settings.Describe visit where
  named := by
    intro c i item
    cases i with
    | filter => exact bind_pure_eq_map item.string _
    | timestamps => exact bind_pure_eq_map item.boolean _
  unnamed := by
    intro c name item h
    have hfilter : "filter" ≠ name := h .filter
    have htimestamps : "timestamps" ≠ name := h .timestamps
    unfold visit
    split
    · exact absurd rfl hfilter
    · exact absurd rfl htimestamps
    · rfl
  name_injective := by
    intro i j h
    cases i <;> cases j
    case filter.filter | timestamps.timestamps => rfl
    case filter.timestamps | timestamps.filter => exact absurd h (by decide)
  get_set := by
    intro i b c
    cases i <;> rfl
  get_set_ne := by
    intro i j b c hne
    cases i <;> cases j
    case filter.filter | timestamps.timestamps => exact absurd rfl hne
    case filter.timestamps | timestamps.filter => rfl
  ext := by
    rintro ⟨filter, timestamps⟩ ⟨filter', timestamps'⟩ h
    cases h .filter
    cases h .timestamps
    rfl

/-- What the entries of the section say. -/
theorem ofTable_ok_iff {t : Table} (h : t.Proper) {c : LoggingConfig} :
    ofTable t = .ok c ↔
      (t.value? "filter").getD (.string defaultFilter) = .string c.filter ∧
      (t.value? "timestamps").getD (.boolean false) = .boolean c.timestamps := by
  have hfilter : settings.Settled t {} c .filter ↔
      (t.value? "filter").getD (.string defaultFilter) = .string c.filter :=
    Settings.settled_iff (fun _ _ => Value.string.inj) fun _ _ _ => Item.string_eq_ok_iff
  have htimestamps : settings.Settled t {} c .timestamps ↔
      (t.value? "timestamps").getD (.boolean false) = .boolean c.timestamps :=
    Settings.settled_iff (fun _ _ => Value.boolean.inj) fun _ _ _ => Item.boolean_eq_ok_iff
  rw [ofTable, settings_describe.readEntries_ok_iff h.distinct, ← hfilter, ← htimestamps]
  constructor
  · intro settled
    exact ⟨settled .filter, settled .timestamps⟩
  · intro settled i
    cases i with
    | filter => exact settled.1
    | timestamps => exact settled.2

end LoggingConfig

/-! ## The diagnostics section -/

namespace DiagnosticsConfig

def settings : Settings Unit (fun _ => Stream) DiagnosticsConfig where
  name _ := "stream"
  read _ := Stream.ofItem
  get _ := stream
  set _ stream c := { c with stream }

theorem settings_describe : settings.Describe visit where
  named := fun _ _ item => bind_pure_eq_map (Stream.ofItem item) _
  unnamed := by
    intro c name item h
    have hstream : "stream" ≠ name := h ()
    unfold visit
    split
    · exact absurd rfl hstream
    · rfl
  name_injective := fun _ _ _ => rfl
  get_set := fun _ _ _ => rfl
  get_set_ne := fun _ _ _ _ hne => absurd rfl hne
  ext := by
    rintro ⟨stream⟩ ⟨stream'⟩ h
    cases h ()
    rfl

/-- A stream as a value. -/
def streamValue (s : Stream) : Value := .string s.name

theorem streamValue_injective : Function.Injective streamValue := by
  intro s s' h
  have hname : s.name = s'.name := Value.string.inj h
  cases s <;> cases s'
  case stdout.stdout | stderr.stderr => rfl
  case stdout.stderr | stderr.stdout => exact absurd hname (by decide)

/-- What the entry of the section says, if it is a text. -/
theorem ofTable_ok_iff {t : Table} (h : t.Proper)
    (hstream : ∀ v, t.value? "stream" = some v → ∃ name, v = .string name) {c : DiagnosticsConfig} :
    ofTable t = .ok c ↔
      (t.value? "stream").getD (streamValue .stdout) = streamValue c.stream := by
  have hsettled : settings.Settled t {} c () ↔
      (t.value? "stream").getD (streamValue .stdout) = streamValue c.stream := by
    refine Settings.settled_iff streamValue_injective ?_
    intro item hitem s
    obtain ⟨name, hname⟩ := hstream item.value (Table.value?_of_item? hitem)
    rw [streamValue, hname, Value.string.injEq]
    exact Stream.ofItem_eq_ok_iff hname
  rw [ofTable, settings_describe.readEntries_ok_iff h.distinct, ← hsettled]
  constructor
  · intro settled
    exact settled ()
  · intro settled i
    exact settled

end DiagnosticsConfig

/-! ## The configuration -/

inductive ConfigSection where
  | logging
  | diagnostics
  deriving DecidableEq, Repr

abbrev ConfigSection.Content : ConfigSection → Type
  | .logging => LoggingConfig
  | .diagnostics => DiagnosticsConfig

namespace BootConfig

def settings : Settings ConfigSection ConfigSection.Content BootConfig where
  name
    | .logging => "logging"
    | .diagnostics => "diagnostics"
  read
    | .logging => LoggingConfig.ofItem
    | .diagnostics => DiagnosticsConfig.ofItem
  get
    | .logging => logging
    | .diagnostics => diagnostics
  set
    | .logging => fun logging c => { c with logging }
    | .diagnostics => fun diagnostics c => { c with diagnostics }

theorem settings_describe : settings.Describe visit where
  named := by
    intro c i item
    cases i with
    | logging => exact bind_pure_eq_map (LoggingConfig.ofItem item) _
    | diagnostics => exact bind_pure_eq_map (DiagnosticsConfig.ofItem item) _
  unnamed := by
    intro c name item h
    have hlogging : "logging" ≠ name := h .logging
    have hdiagnostics : "diagnostics" ≠ name := h .diagnostics
    unfold visit
    split
    · exact absurd rfl hlogging
    · exact absurd rfl hdiagnostics
    · rfl
  name_injective := by
    intro i j h
    cases i <;> cases j
    case logging.logging | diagnostics.diagnostics => rfl
    case logging.diagnostics | diagnostics.logging => exact absurd h (by decide)
  get_set := by
    intro i b c
    cases i <;> rfl
  get_set_ne := by
    intro i j b c hne
    cases i <;> cases j
    case logging.logging | diagnostics.diagnostics => exact absurd rfl hne
    case logging.diagnostics | diagnostics.logging => rfl
  ext := by
    rintro ⟨logging, diagnostics⟩ ⟨logging', diagnostics'⟩ h
    cases h .logging
    cases h .diagnostics
    rfl

/-- The entry for the log filter. -/
def filterEntry (root : Table) : Option Value := (root.inner "logging").value? "filter"

def timestampsEntry (root : Table) : Option Value := (root.inner "logging").value? "timestamps"

/-- The entry for the stream of reports. -/
def streamEntry (root : Table) : Option Value := (root.inner "diagnostics").value? "stream"

/-- The sections are tables or absent, and the stream is given by a text or not at all. -/
structure Sectioned (root : Table) : Prop where
  logging : ∀ v, root.value? "logging" = some v → v.IsTable
  diagnostics : ∀ v, root.value? "diagnostics" = some v → v.IsTable
  stream : ∀ v, streamEntry root = some v → ∃ name, v = .string name

instance (root : Table) : Decidable (Sectioned root) :=
  decidable_of_iff
    ((∀ v ∈ root.value? "logging", v.IsTable) ∧ (∀ v ∈ root.value? "diagnostics", v.IsTable) ∧
      ∀ v ∈ streamEntry root, ∃ name, v = .string name)
    ⟨fun ⟨logging, diagnostics, stream⟩ => ⟨logging, diagnostics, stream⟩,
      fun h => ⟨h.logging, h.diagnostics, h.stream⟩⟩

/-- Each setting is the value of its entry, and its default where it has none. -/
structure Overlays (root : Table) (c : BootConfig) : Prop where
  filter : (filterEntry root).getD (.string defaultFilter) = .string c.logging.filter
  timestamps : (timestampsEntry root).getD (.boolean false) = .boolean c.logging.timestamps
  stream : (streamEntry root).getD (.string "stdout") = .string c.diagnostics.stream.name

/-- Each entry that is there has a value of its setting. -/
structure Typed (root : Table) : Prop where
  filter : ∀ v, filterEntry root = some v → ∃ text, v = .string text
  timestamps : ∀ v, timestampsEntry root = some v → ∃ b, v = .boolean b
  stream : ∀ v, streamEntry root = some v → v = .string "stdout" ∨ v = .string "stderr"

/-- What is wrong with an entry that has no value of its setting. -/
inductive Misfits (root : Table) : Misfit → Prop
  | filter {v : Value} (entry : filterEntry root = some v) (other : ∀ text, v ≠ .string text) :
    Misfits root (.invalidType v .string)
  | timestamps {v : Value} (entry : timestampsEntry root = some v) (other : ∀ b, v ≠ .boolean b) :
    Misfits root (.invalidType v .boolean)
  | stream {name : String} (entry : streamEntry root = some (.string name))
      (other : name ≠ "stdout" ∧ name ≠ "stderr") : Misfits root (.unknownStream name)

section
variable {root : Table}

theorem ofTable_ok_iff (h : root.Proper) (sectioned : Sectioned root) {c : BootConfig} :
    ofTable root = .ok c ↔ Overlays root c := by
  have hlogging : settings.Settled root {} c .logging ↔
      LoggingConfig.ofTable (root.inner "logging") = .ok c.logging := by
    refine Settings.settled_section ?_ rfl sectioned.logging
    intro item kind sub hitem
    exact Item.sectionOf_table hitem _ _ _ _
  have hdiagnostics : settings.Settled root {} c .diagnostics ↔
      DiagnosticsConfig.ofTable (root.inner "diagnostics") = .ok c.diagnostics := by
    refine Settings.settled_section ?_ rfl sectioned.diagnostics
    intro item kind sub hitem
    exact Item.sectionOf_table hitem _ _ _ _
  rw [LoggingConfig.ofTable_ok_iff (h.inner "logging")] at hlogging
  rw [DiagnosticsConfig.ofTable_ok_iff (h.inner "diagnostics") sectioned.stream] at hdiagnostics
  rw [ofTable, settings_describe.readEntries_ok_iff h.distinct]
  constructor
  · intro settled
    obtain ⟨hfilter, htimestamps⟩ := hlogging.mp (settled .logging)
    exact ⟨hfilter, htimestamps, hdiagnostics.mp (settled .diagnostics)⟩
  · intro overlays i
    cases i with
    | logging => exact hlogging.mpr ⟨overlays.filter, overlays.timestamps⟩
    | diagnostics => exact hdiagnostics.mpr overlays.stream

/-- An entry that is absent, or has a value of the form asked for, gives a value of that form. -/
theorem exists_getD_iff {γ : Type} (entry : Option Value) (form : γ → Value) (given : γ) :
    (∃ g, entry.getD (form given) = form g) ↔ ∀ v, entry = some v → ∃ g, v = form g := by
  cases entry with
  | none => simp
  | some v => simp

theorem exists_overlays_iff : (∃ c, Overlays root c) ↔ Typed root := by
  have hfilter := exists_getD_iff (filterEntry root) Value.string defaultFilter
  have htimestamps := exists_getD_iff (timestampsEntry root) Value.boolean false
  have hstream := exists_getD_iff (streamEntry root) DiagnosticsConfig.streamValue .stdout
  constructor
  · intro h
    obtain ⟨c, overlays⟩ := h
    refine ⟨hfilter.mp ⟨_, overlays.filter⟩, htimestamps.mp ⟨_, overlays.timestamps⟩, ?_⟩
    intro v hv
    obtain ⟨s, rfl⟩ := hstream.mp ⟨c.diagnostics.stream, overlays.stream⟩ v hv
    cases s with
    | stdout => exact .inl rfl
    | stderr => exact .inr rfl
  · intro typed
    obtain ⟨filter, hf⟩ := hfilter.mpr typed.filter
    obtain ⟨timestamps, ht⟩ := htimestamps.mpr typed.timestamps
    obtain ⟨stream, hs⟩ := hstream.mpr (by
      intro v hv
      rcases typed.stream v hv with hname | hname
      · exact ⟨.stdout, hname⟩
      · exact ⟨.stderr, hname⟩)
    exact ⟨⟨⟨filter, timestamps⟩, ⟨stream⟩⟩, hf, ht, hs⟩

theorem misfits_of_error (h : root.Proper) (sectioned : Sectioned root) {e : DataError}
    (herror : ofTable root = .error e) : Misfits root e.cause := by
  obtain ⟨i, item, hitem, hread⟩ := settings_describe.readEntries_error h.distinct herror
  cases i with
  | logging =>
    obtain ⟨kind, hinner⟩ := Table.inner_of_item? hitem sectioned.logging
    have hsection : LoggingConfig.ofTable (root.inner "logging") = .error e :=
      (Item.sectionOf_table hinner _ _ _ _).symm.trans hread
    obtain ⟨j, entry, hentry, hcause⟩ := LoggingConfig.settings_describe.readEntries_error
      (h.inner "logging").distinct hsection
    have hvalue := Table.value?_of_item? hentry
    cases j with
    | filter =>
      obtain ⟨hcause, other⟩ := Item.cause_of_string hcause
      rw [hcause]
      exact .filter hvalue other
    | timestamps =>
      obtain ⟨hcause, other⟩ := Item.cause_of_boolean hcause
      rw [hcause]
      exact .timestamps hvalue other
  | diagnostics =>
    obtain ⟨kind, hinner⟩ := Table.inner_of_item? hitem sectioned.diagnostics
    have hsection : DiagnosticsConfig.ofTable (root.inner "diagnostics") = .error e :=
      (Item.sectionOf_table hinner _ _ _ _).symm.trans hread
    obtain ⟨j, entry, hentry, hcause⟩ := DiagnosticsConfig.settings_describe.readEntries_error
      (h.inner "diagnostics").distinct hsection
    have hvalue : streamEntry root = some entry.value := Table.value?_of_item? hentry
    obtain ⟨name, hname⟩ := sectioned.stream entry.value hvalue
    obtain ⟨hcause, other⟩ := Stream.cause_of_ofItem hname hcause
    rw [hcause]
    exact .stream (hname ▸ hvalue) ⟨other .stdout, other .stderr⟩

end

/-! ## The law -/

/-- Two entries that no setting tells apart: both are absent, or both are the same text or truth
value, or neither is any. -/
structure Agree (entry other : Option Value) : Prop where
  none : entry = none ↔ other = none
  string : ∀ text, entry = some (.string text) ↔ other = some (.string text)
  boolean : ∀ b, entry = some (.boolean b) ↔ other = some (.boolean b)

/-- Two documents agree on the three settings. -/
structure Agreeing (root other : Table) : Prop where
  filter : Agree (filterEntry root) (filterEntry other)
  timestamps : Agree (timestampsEntry root) (timestampsEntry other)
  stream : Agree (streamEntry root) (streamEntry other)

theorem Agree.getD_string {entry other : Option Value} (h : Agree entry other)
    (given text : String) :
    entry.getD (.string given) = .string text ↔ other.getD (.string given) = .string text := by
  rw [Option.getD_eq_iff, Option.getD_eq_iff, h.none, h.string]

theorem Agree.getD_boolean {entry other : Option Value} (h : Agree entry other) (given b : Bool) :
    entry.getD (.boolean given) = .boolean b ↔ other.getD (.boolean given) = .boolean b := by
  rw [Option.getD_eq_iff, Option.getD_eq_iff, h.none, h.boolean]

theorem Agreeing.overlays_iff {root other : Table} (h : Agreeing root other) (c : BootConfig) :
    Overlays root c ↔ Overlays other c := by
  have hfilter := h.filter.getD_string defaultFilter c.logging.filter
  have htimestamps := h.timestamps.getD_boolean false c.logging.timestamps
  have hstream := h.stream.getD_string "stdout" c.diagnostics.stream.name
  constructor
  · intro overlays
    exact ⟨hfilter.mp overlays.filter, htimestamps.mp overlays.timestamps,
      hstream.mp overlays.stream⟩
  · intro overlays
    exact ⟨hfilter.mpr overlays.filter, htimestamps.mpr overlays.timestamps,
      hstream.mpr overlays.stream⟩

/-- What a document in sections is read as. -/
structure OverlayLaw (text : String) (root : Table) : Prop where
  ok_iff : ∀ c, ofToml text = .ok c ↔ Overlays root c
  succeeds_iff : (∃ c, ofToml text = .ok c) ↔ Typed root
  misfits : ∀ e, ofToml text = .error e → ∃ cause place, e = .data cause place ∧ Misfits root cause
  congr : ∀ text' root', Toml.parse text' = some root' → Sectioned root'.value →
    Agreeing root root'.value → ∀ c, ofToml text = .ok c ↔ ofToml text' = .ok c

theorem ofToml_ok_iff {text : String} {root : Placed Table} (h : Toml.parse text = some root)
    (sectioned : Sectioned root.value) (c : BootConfig) :
    ofToml text = .ok c ↔ Overlays root.value c :=
  (readToml_eq_ok_iff h).trans (ofTable_ok_iff (Toml.parse_proper h) sectioned)

/-- A document in sections is the defaults with its own settings laid over them, and is refused
exactly if one of these has no value of its setting. -/
theorem overlayLaw {text : String} {root : Placed Table} (h : Toml.parse text = some root)
    (sectioned : Sectioned root.value) : OverlayLaw text root.value where
  ok_iff := ofToml_ok_iff h sectioned
  succeeds_iff := by
    rw [← exists_overlays_iff]
    exact exists_congr (ofToml_ok_iff h sectioned)
  misfits := by
    intro e herror
    obtain ⟨cause, hcause, place, rfl⟩ := exists_of_readToml_error h herror
    exact ⟨cause.cause, place, rfl, misfits_of_error (Toml.parse_proper h) sectioned hcause⟩
  congr := by
    intro text' root' h' sectioned' agreeing c
    rw [ofToml_ok_iff h sectioned, ofToml_ok_iff h' sectioned']
    exact agreeing.overlays_iff c

/-- Two settings among other entries, by a dotted key and under a header. -/
def dottedText : String :=
  "other.keys = [1, \x7ba = 2\x7d]\nlogging.timestamps = true\n" ++
    "[diagnostics]\nsince = 1979-05-27\nstream = \"stderr\"\n"

/-- The same two in the other order, in an inline table and under a header. -/
def inlineText : String :=
  "diagnostics = \x7bstream = 'stderr'\x7d\n[logging]\nlevel = 0x10\ntimestamps = true\n"

/-- Both notations give the same two settings, and the filter stays at its default. -/
theorem overlayLaw_of_dotted :
    (∃ root, Toml.parse dottedText = some root ∧ Sectioned root.value ∧
      Overlays root.value ⟨⟨defaultFilter, true⟩, ⟨.stderr⟩⟩) ∧
    ∃ root, Toml.parse inlineText = some root ∧ Sectioned root.value ∧
      Overlays root.value ⟨⟨defaultFilter, true⟩, ⟨.stderr⟩⟩ := by
  have overlays {text : String} {c : BootConfig}
      (hsectioned : ∀ root ∈ Toml.parse text, Sectioned root.value)
      (hread : (ofToml text).toOption = some c) :
      ∃ root, Toml.parse text = some root ∧ Sectioned root.value ∧ Overlays root.value c := by
    cases hparse : Toml.parse text with
    | none =>
      rw [ofToml, readToml, hparse] at hread
      cases hread
    | some root =>
      have sectioned := hsectioned root hparse
      have law := overlayLaw hparse sectioned
      exact ⟨root, rfl, sectioned, (law.ok_iff c).mp (eq_ok_of_toOption hread)⟩
  constructor
  · exact overlays (by decide +kernel) (by decide +kernel)
  · exact overlays (by decide +kernel) (by decide +kernel)

end BootConfig

end ManagedBoot
