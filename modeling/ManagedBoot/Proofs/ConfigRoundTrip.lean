import ManagedBoot.Proofs.LineReading
import ManagedBoot.Proofs.SectionTables
import ManagedBoot.Command.Report
/-!
Configurations survive being written and read.

The text of a configuration is a plain document (`lines_plain`), so its statements are known up to
the places where they stand, and its root table has the two sections. Reading visits their entries
in the order in which they were written (`ofToml_toToml`). The command that prints the effective
configuration prints that text and nothing else (`run_config`).
-/
namespace ManagedBoot

open Toml

theorem Stream.ofName?_name (s : Stream) : ofName? s.name = some s := by cases s <;> rfl

namespace BootConfig

/-- The lines of a configuration. -/
def lines (c : BootConfig) : List Line := [
  .header "logging".toList,
  .entry "filter".toList (writeString c.logging.filter.toList) (.string c.logging.filter),
  .entry "timestamps".toList (boolText c.logging.timestamps).toList
    (.boolean c.logging.timestamps),
  .blank,
  .header "diagnostics".toList,
  .entry "stream".toList (writeString c.diagnostics.stream.name.toList)
    (.string c.diagnostics.stream.name)]

theorem toList_toToml (c : BootConfig) : c.toToml.toList = c.lines.flatMap Line.text := by
  have logging : "[logging]\nfilter = ".toList =
      '[' :: ("logging".toList ++ [']', '\n']) ++ "filter".toList ++ [' ', '=', ' '] := rfl
  have timestamps : "\ntimestamps = ".toList =
      '\n' :: ("timestamps".toList ++ [' ', '=', ' ']) := rfl
  have diagnostics : "\n\n[diagnostics]\nstream = ".toList =
      ['\n', '\n'] ++ '[' :: ("diagnostics".toList ++ [']', '\n']) ++ "stream".toList ++
        [' ', '=', ' '] := rfl
  have last : "\n".toList = ['\n'] := rfl
  obtain ⟨⟨filter, timed⟩, ⟨stream⟩⟩ := c
  unfold toToml lines
  simp only [String.toList_append, String.toList_ofList, logging, timestamps, diagnostics,
    last, List.flatMap_cons, List.flatMap_nil, Line.text, List.append_assoc,
    List.cons_append, List.nil_append, List.append_nil]

theorem lines_plain (c : BootConfig) : ∀ l ∈ c.lines, l.Plain := by
  have hfilter := writes_string c.logging.filter.toList
  have hstream := writes_string c.diagnostics.stream.name.toList
  rw [String.ofList_toList] at hfilter hstream
  have htimestamps :
      Writes (boolText c.logging.timestamps).toList (.boolean c.logging.timestamps) := by
    cases c.logging.timestamps
    · exact writes_false
    · exact writes_true
  simp only [lines, List.forall_mem_cons, Line.Plain]
  exact ⟨by decide, ⟨by decide, hfilter⟩, ⟨by decide, htimestamps⟩, trivial, by decide,
    ⟨by decide, hstream⟩, by simp⟩

/-- The text of a configuration is a document in two sections. -/
theorem statements_toToml (c : BootConfig) :
    ∃ logging logging' filter filter' timestamps timestamps' diagnostics diagnostics' stream
      stream',
      statements c.toToml.toList = some ([
        Section.mk ⟨"logging", logging⟩ logging' [
          (⟨"filter", filter⟩, ⟨.string c.logging.filter, filter'⟩),
          (⟨"timestamps", timestamps⟩, ⟨.boolean c.logging.timestamps, timestamps'⟩)],
        Section.mk ⟨"diagnostics", diagnostics⟩ diagnostics' [
          (⟨"stream", stream⟩, ⟨.string c.diagnostics.stream.name, stream'⟩)]].flatMap
        Section.statements) := by
  obtain ⟨sts, hsts, hmeaning⟩ := statements_text c.lines c.lines_plain
  -- What the five statements say fixes them up to the places where they stand.
  simp only [lines, List.filterMap_cons, List.filterMap_nil, Line.meaning, List.map_eq_cons_iff,
    List.map_eq_nil_iff, String.ofList_toList] at hmeaning
  obtain ⟨st₁, _, rfl, h₁, st₂, _, rfl, h₂, st₃, _, rfl, h₃, st₄, _, rfl, h₄, st₅, _, rfl, h₅,
    rfl⟩ := hmeaning
  obtain ⟨_, _, rfl⟩ := Statement.exists_header h₁
  obtain ⟨_, _, rfl⟩ := Statement.exists_entry h₂
  obtain ⟨_, _, rfl⟩ := Statement.exists_entry h₃
  obtain ⟨_, _, rfl⟩ := Statement.exists_header h₄
  obtain ⟨_, _, rfl⟩ := Statement.exists_entry h₅
  rw [toList_toToml]
  exact ⟨_, _, _, _, _, _, _, _, _, _, hsts⟩

/-- The root table of a configuration's text is read as the configuration. -/
theorem exists_parse_toToml (c : BootConfig) :
    ∃ root, parse c.toToml = some root ∧ ofTable root.value = .ok c := by
  obtain ⟨_, _, _, _, _, _, _, _, _, _, hstatements⟩ := c.statements_toToml
  have hmark : skipByteOrderMark c.toToml.toList = c.toToml.toList := by
    rw [toList_toToml]
    rfl
  rw [parse, hmark, hstatements, Option.bind_eq_bind, Option.bind_some,
    ofStatements_sections (by simp) (by simp)]
  refine ⟨_, rfl, ?_⟩
  simp [ofTable, readEntries, visit, LoggingConfig.ofItem, LoggingConfig.ofTable,
    LoggingConfig.visit, DiagnosticsConfig.ofItem, DiagnosticsConfig.ofTable,
    DiagnosticsConfig.visit, Item.ofEntry, Item.sectionOf, Item.string, Item.boolean,
    Stream.ofItem, Stream.ofText, Stream.ofName?_name, Section.table]
  rfl

/-- The text of a configuration is read as the configuration. -/
theorem ofToml_toToml (c : BootConfig) : ofToml c.toToml = .ok c := by
  obtain ⟨root, hroot, hconfig⟩ := c.exists_parse_toToml
  rw [ofToml, readToml, hroot]
  dsimp only
  rw [hconfig]
  rfl

end BootConfig

namespace CommandLine

/-- The configuration command succeeds exactly if the configuration resolves, and prints it. -/
theorem run_config {args : List String} {file : Option String} (h : parse args = .ok (.config file))
    (environment : Environment) (files : FileReader) :
    match BootConfig.resolve (environmentFor environment file) files with
    | .ok c => run args environment files = { exitCode := 0, stdout := c.toToml }
    | .error _ => (run args environment files).exitCode = 1 := by
  rw [run, outcome_of_parse h]
  dsimp only [Command.output]
  cases BootConfig.resolve (environmentFor environment file) files <;> rfl

/-- A configuration survives being written and read, and so does the effective one when it is
printed. -/
theorem config_round_trip :
    (∀ c : BootConfig, BootConfig.ofToml c.toToml = .ok c) ∧
    ∀ (args : List String) (environment : Environment) (files : FileReader) (file : Option String),
      parse args = .ok (.config file) → (run args environment files).exitCode = 0 →
      ∃ c, BootConfig.resolve (environmentFor environment file) files = .ok c ∧
        BootConfig.ofToml (run args environment files).stdout = .ok c := by
  refine ⟨BootConfig.ofToml_toToml, ?_⟩
  intro args environment files file hparse succeeds
  have hrun := run_config hparse environment files
  cases hresolve : BootConfig.resolve (environmentFor environment file) files with
  | error e =>
    rw [hresolve] at hrun
    rw [hrun] at succeeds
    cases succeeds
  | ok c =>
    rw [hresolve] at hrun
    exact ⟨c, rfl, by rw [hrun]; exact c.ofToml_toToml⟩

/-- An environment whose log filter has every kind of quote, a line feed and a control character. -/
def quotedEnvironment : Environment :=
  Environment.set (fun _ => none) logVariable "a\"\"\"b'''\\\n\x01"

theorem config_round_trip_of_quoted :
    parse ["config"] = .ok (.config none) ∧
    (run ["config"] quotedEnvironment fun _ => .error .notFound).exitCode = 0 ∧
    ∃ c, BootConfig.resolve quotedEnvironment (fun _ => .error .notFound) = .ok c ∧
      c.logging.filter = "a\"\"\"b'''\\\n\x01" ∧
      BootConfig.ofToml (run ["config"] quotedEnvironment fun _ => .error .notFound).stdout =
        .ok c := by
  have hparse : parse ["config"] = .ok (.config none) := by
    have long : "config".startsWith "--" = false := by decide +kernel
    have option : isOption "config" = false := by decide +kernel
    simp only [parse, readFrom, long, option, named]
    rfl
  have succeeds : (run ["config"] quotedEnvironment fun _ => .error .notFound).exitCode = 0 := by
    decide +kernel
  obtain ⟨c, hresolve, hread⟩ := config_round_trip.2 _ _ _ _ hparse succeeds
  refine ⟨hparse, succeeds, c, hresolve, ?_, hread⟩
  cases hresolve
  rfl

end CommandLine
end ManagedBoot
