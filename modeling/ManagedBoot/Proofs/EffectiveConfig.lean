import ManagedBoot.Proofs.ConfigRoundTrip
import ManagedBoot.Proofs.HostSurroundings
/-!
Which configuration is in force, for the host and for the tool that prints it.

A resolution takes the file that the configuration variable names, or the defaults, and then the log
filter that the log variable names (`BootConfig.resolutionLaw`). The tool prints what is resolved
with its file in the place of the variable's (`CommandLine.fileLaw`). Without a file it prints what
the host boots with, and fails where the host goes on with the defaults (`CommandLine.hostLaw`).
-/
namespace ManagedBoot

namespace BootConfig

/-! ## Resolution -/

/-- The configuration before the log variable is asked for. -/
inductive Named (environment : Environment) (files : FileReader) : BootConfig → Prop
  | unset (h : environment configVariable = none) : Named environment files {}
  | empty (h : environment configVariable = some "") : Named environment files {}
  | file {path text : String} {c : BootConfig} (h : environment configVariable = some path)
      (nonempty : path ≠ "") (read : files path = .ok text) (parsed : ofToml text = .ok c) :
      Named environment files c

/-- Why there is no such configuration. -/
inductive Unnamed (environment : Environment) (files : FileReader) : ConfigError → Prop
  | read {path : String} {cause : ReadError} (h : environment configVariable = some path)
      (nonempty : path ≠ "") (unreadable : files path = .error cause) :
      Unnamed environment files (.read path cause)
  | parse {path text : String} {cause : ParseError} (h : environment configVariable = some path)
      (nonempty : path ≠ "") (read : files path = .ok text)
      (unparsed : ofToml text = .error cause) : Unnamed environment files (.parse cause)

/-- A configuration with the log filter of an environment, the same otherwise. -/
structure Filtered (environment : Environment) (given c : BootConfig) : Prop where
  replaced : ∀ filter, environment logVariable = some filter → filter ≠ "" →
    c.logging.filter = filter
  kept : environment logVariable = none ∨ environment logVariable = some "" →
    c.logging.filter = given.logging.filter
  timestamps : c.logging.timestamps = given.logging.timestamps
  stream : c.diagnostics.stream = given.diagnostics.stream

/-- When a resolution fails, and what it comes to if it does not. -/
structure ResolutionLaw (environment : Environment) (files : FileReader) : Prop where
  error_iff : ∀ e, resolve environment files = .error e ↔ Unnamed environment files e
  /-- The log variable makes no error, and prevents none. -/
  error_congr : ∀ other : Environment,
    (∀ name, name ≠ logVariable → other name = environment name) →
    ∀ e, resolve other files = .error e ↔ resolve environment files = .error e
  ok_iff : ∀ c, resolve environment files = .ok c ↔
    ∃ given, Named environment files given ∧ Filtered environment given c

variable {environment : Environment} {files : FileReader}

theorem base_of_unset (h : environment configVariable = none) :
    base environment files = .ok {} := by
  rw [base, h]

theorem base_of_empty (h : environment configVariable = some "") :
    base environment files = .ok {} := by
  rw [base, h]
  rfl

theorem base_of_path {path : String} (h : environment configVariable = some path)
    (nonempty : path ≠ "") : base environment files = load files path := by
  rw [base, h]
  exact if_neg fun hempty => nonempty (String.isEmpty_iff.mp hempty)

theorem load_of_parsed {path text : String} {c : BootConfig} (read : files path = .ok text)
    (parsed : ofToml text = .ok c) : load files path = .ok c := by
  rw [load, read]
  dsimp only
  rw [parsed]
  rfl

theorem load_of_unparsed {path text : String} {cause : ParseError} (read : files path = .ok text)
    (unparsed : ofToml text = .error cause) : load files path = .error (.parse cause) := by
  rw [load, read]
  dsimp only
  rw [unparsed]
  rfl

theorem load_of_unreadable {path : String} {cause : ReadError}
    (unreadable : files path = .error cause) : load files path = .error (.read path cause) := by
  rw [load, unreadable]

theorem base_of_named {c : BootConfig} (h : Named environment files c) :
    base environment files = .ok c := by
  cases h with
  | unset h => exact base_of_unset h
  | empty h => exact base_of_empty h
  | file h nonempty read parsed =>
    exact (base_of_path h nonempty).trans (load_of_parsed read parsed)

theorem base_of_unnamed {e : ConfigError} (h : Unnamed environment files e) :
    base environment files = .error e := by
  cases h with
  | read h nonempty unreadable =>
    exact (base_of_path h nonempty).trans (load_of_unreadable unreadable)
  | parse h nonempty read unparsed =>
    exact (base_of_path h nonempty).trans (load_of_unparsed read unparsed)

/-- There is such a configuration, or a reason why not. -/
theorem named_or_unnamed (environment : Environment) (files : FileReader) :
    (∃ c, Named environment files c) ∨ ∃ e, Unnamed environment files e := by
  cases henv : environment configVariable with
  | none => exact .inl ⟨_, .unset henv⟩
  | some path =>
    by_cases nonempty : path = ""
    · rw [nonempty] at henv
      exact .inl ⟨_, .empty henv⟩
    cases hread : files path with
    | error cause => exact .inr ⟨_, .read henv nonempty hread⟩
    | ok text =>
      cases hparse : ofToml text with
      | error cause => exact .inr ⟨_, .parse henv nonempty hread hparse⟩
      | ok c => exact .inl ⟨c, .file henv nonempty hread hparse⟩

theorem resolve_of_named {c : BootConfig} (h : Named environment files c) :
    resolve environment files = .ok (c.withFilter (environment logVariable)) := by
  rw [resolve, resolution, base_of_named h]

/-- The log variable does not matter where there is no configuration. -/
theorem resolve_of_unnamed {e : ConfigError} (h : Unnamed environment files e) :
    resolve environment files = .error e := by
  rw [resolve, resolution, base_of_unnamed h]

theorem withFilter_of_nonempty {given : BootConfig} {filter : String} (nonempty : filter ≠ "") :
    given.withFilter (some filter) = { given with logging := { given.logging with filter } } :=
  if_neg fun hempty => nonempty (String.isEmpty_iff.mp hempty)

theorem filtered_withFilter (environment : Environment) (given : BootConfig) :
    Filtered environment given (given.withFilter (environment logVariable)) := by
  cases hfilter : environment logVariable with
  | none =>
    refine ⟨?_, fun _ => rfl, rfl, rfl⟩
    intro filter h
    rw [hfilter] at h
    cases h
  | some filter =>
    by_cases nonempty : filter = ""
    · subst nonempty
      refine ⟨?_, fun _ => rfl, rfl, rfl⟩
      intro filter h hne
      rw [hfilter] at h
      cases h
      exact absurd rfl hne
    · rw [withFilter_of_nonempty nonempty]
      refine ⟨?_, ?_, rfl, rfl⟩
      · intro filter h _
        rw [hfilter] at h
        cases h
        rfl
      · intro h
        rw [hfilter] at h
        rcases h with h | h
        · cases h
        · cases h
          exact absurd rfl nonempty

theorem Filtered.unique {given c c' : BootConfig} (h : Filtered environment given c)
    (h' : Filtered environment given c') : c = c' := by
  have hfilter : c.logging.filter = c'.logging.filter := by
    cases hlog : environment logVariable with
    | none => rw [h.kept (.inl hlog), h'.kept (.inl hlog)]
    | some filter =>
      by_cases nonempty : filter = ""
      · rw [nonempty] at hlog
        rw [h.kept (.inr hlog), h'.kept (.inr hlog)]
      · rw [h.replaced filter hlog nonempty, h'.replaced filter hlog nonempty]
  have htimestamps := h.timestamps.trans h'.timestamps.symm
  have hstream := h.stream.trans h'.stream.symm
  obtain ⟨⟨filter, timestamps⟩, ⟨stream⟩⟩ := c
  obtain ⟨⟨filter', timestamps'⟩, ⟨stream'⟩⟩ := c'
  cases hfilter
  cases htimestamps
  cases hstream
  rfl

theorem resolve_eq_error_iff {e : ConfigError} :
    resolve environment files = .error e ↔ Unnamed environment files e := by
  constructor
  · intro h
    rcases named_or_unnamed environment files with ⟨c, hc⟩ | ⟨e', he⟩
    · rw [resolve_of_named hc] at h
      cases h
    · rw [resolve_of_unnamed he] at h
      cases h
      exact he
  · exact resolve_of_unnamed

/-- Only the configuration variable has a say in what goes wrong. -/
theorem Unnamed.congr {other : Environment}
    (h : other configVariable = environment configVariable) {e : ConfigError}
    (hunnamed : Unnamed environment files e) : Unnamed other files e := by
  cases hunnamed with
  | read hpath nonempty unreadable => exact .read (h.trans hpath) nonempty unreadable
  | parse hpath nonempty read unparsed => exact .parse (h.trans hpath) nonempty read unparsed

theorem resolutionLaw (environment : Environment) (files : FileReader) :
    ResolutionLaw environment files where
  error_iff := fun _ => resolve_eq_error_iff
  error_congr := by
    intro other hother e
    have hconfig := hother configVariable (by decide)
    rw [resolve_eq_error_iff, resolve_eq_error_iff]
    exact ⟨.congr hconfig.symm, .congr hconfig⟩
  ok_iff := by
    intro c
    constructor
    · intro h
      rcases named_or_unnamed environment files with ⟨given, hgiven⟩ | ⟨e, he⟩
      · rw [resolve_of_named hgiven] at h
        cases h
        exact ⟨given, hgiven, filtered_withFilter environment given⟩
      · rw [resolve_of_unnamed he] at h
        cases h
    · intro h
      obtain ⟨given, hgiven, hfiltered⟩ := h
      rw [resolve_of_named hgiven, (filtered_withFilter environment given).unique hfiltered]

end BootConfig

namespace CommandLine

/-! ## The tool -/

/-- The tool prints a configuration and succeeds. -/
def Prints (args : List String) (environment : Environment) (files : FileReader)
    (c : BootConfig) : Prop :=
  run args environment files = { exitCode := 0, stdout := c.toToml }

/-- The tool fails for want of a configuration, and prints nothing. -/
structure Fails (args : List String) (environment : Environment) (files : FileReader)
    (e : ConfigError) : Prop where
  cause : outcome args environment files = .error (.command (.config e))
  finished : run args environment files = { exitCode := 1 }

/-- What the tool makes of an explicit file: what is resolved where the variable names that file. -/
structure FileLaw (args : List String) (file : String) (environment : Environment)
    (files : FileReader) : Prop where
  prints_iff : ∀ c, Prints args environment files c ↔
    BootConfig.resolve (environment.set configVariable file) files = .ok c
  fails : ∀ e, BootConfig.resolve (environment.set configVariable file) files = .error e →
    Fails args environment files e
  /-- The file that the environment names is of no account. -/
  independent : ∀ other : Environment,
    (∀ name, name ≠ configVariable → other name = environment name) →
    run args other files = run args environment files

variable {args : List String} {file : Option String}

theorem prints_iff (h : parse args = .ok (.config file)) (environment : Environment)
    (files : FileReader) (c : BootConfig) : Prints args environment files c ↔
      BootConfig.resolve (environmentFor environment file) files = .ok c := by
  have hrun := run_config h environment files
  rw [Prints]
  cases hresolve : BootConfig.resolve (environmentFor environment file) files with
  | error e =>
    rw [hresolve] at hrun
    dsimp only at hrun
    constructor
    · intro hprints
      rw [hprints] at hrun
      cases hrun
    · intro h
      cases h
  | ok c' =>
    rw [hresolve] at hrun
    dsimp only at hrun
    rw [hrun]
    constructor
    · intro hprints
      have htext : c'.toToml = c.toToml := congrArg Finished.stdout hprints
      -- Both texts are read back, so the configurations are equal.
      have hread := c'.ofToml_toToml
      rw [htext, c.ofToml_toToml] at hread
      cases hread
      rfl
    · intro h
      cases h
      rfl

theorem fails_of_error (h : parse args = .ok (.config file)) {environment : Environment}
    {files : FileReader} {e : ConfigError}
    (hresolve : BootConfig.resolve (environmentFor environment file) files = .error e) :
    Fails args environment files e := by
  have cause : outcome args environment files = .error (.command (.config e)) := by
    rw [outcome_of_parse h]
    dsimp only [Command.output]
    rw [hresolve]
    rfl
  exact ⟨cause, by rw [run, cause]; rfl⟩

/-- Environments that differ in no other variable are the same once that one is set. -/
theorem set_congr {environment other : Environment} {name : String}
    (h : ∀ asked, asked ≠ name → other asked = environment asked) (value : String) :
    other.set name value = environment.set name value := by
  funext asked
  rw [Environment.set, Environment.set]
  by_cases hasked : asked = name
  · rw [if_pos hasked, if_pos hasked]
  · rw [if_neg hasked, if_neg hasked, h asked hasked]

theorem fileLaw {file : String} (h : parse args = .ok (.config (some file)))
    (environment : Environment) (files : FileReader) : FileLaw args file environment files where
  prints_iff := prints_iff h environment files
  fails := fun _ => fails_of_error h
  independent := by
    intro other hother
    have hset : environmentFor other (some file) = environmentFor environment (some file) :=
      set_congr hother file
    rw [run, run, outcome_of_parse h, outcome_of_parse h]
    dsimp only [Command.output]
    rw [hset]

theorem attached?_append (o : OptionName) (value : String) :
    attached? o (o.long ++ "=" ++ value) = some value := by
  have htext : (o.long ++ "=" ++ value).toList = (o.long ++ "=").toList ++ value.toList :=
    String.toList_append
  have hprefix : (o.long ++ "=").toList.isPrefixOf (o.long ++ "=" ++ value).toList = true := by
    rw [htext, List.isPrefixOf_iff_prefix]
    exact List.prefix_append _ _
  rw [attached?, if_pos hprefix, htext, List.drop_left, String.ofList_toList]

/-- An attached file name is no argument without the sign that attaches it. -/
theorem assigned_ne {file name : String} (h : name.toList[6]? ≠ some '=') :
    fileOption.long ++ "=" ++ file ≠ name := by
  have hsign : (fileOption.long ++ "=" ++ file).toList[6]? = some '=' := by
    rw [String.toList_append]
    rfl
  intro heq
  rw [heq] at hsign
  exact h hsign

/-- A file name that is attached to its option. -/
theorem readArgument_file {file : String} (nonempty : file ≠ "") :
    readArgument fileOption {} (fileOption.long ++ "=" ++ file) =
      .ok ({ value := some file }, false) := by
  have hflag : ({} : Flags).addLong? (fileOption.long ++ "=" ++ file) = none := by
    have hverbose : fileOption.long ++ "=" ++ file ≠ "--verbose" := assigned_ne (by decide)
    have hquiet : fileOption.long ++ "=" ++ file ≠ "--quiet" := assigned_ne (by decide)
    rw [Flags.addLong?, if_neg hverbose, if_neg hquiet]
  have hvalue : file.isEmpty = false := by
    rw [← Bool.not_eq_true, String.isEmpty_iff]
    exact nonempty
  have hapart : fileOption.long ++ "=" ++ file ≠ fileOption.long := assigned_ne (by decide)
  unfold readArgument
  dsimp only
  rw [hflag]
  dsimp only
  rw [if_neg hapart, attached?_append]
  dsimp only
  rw [Tail.setValue, hvalue]
  rfl

theorem parse_config (rest : List String) :
    parse ("config" :: rest) = (readCommand fileOption rest).map .config := by
  have hlong : "config".startsWith "--" = false := by decide +kernel
  have hoption : isOption "config" = false := by decide +kernel
  simp only [parse, readFrom, hlong, hoption]
  show named "config" rest = _
  rw [named]
  cases readCommand fileOption rest <;> rfl

/-- Any file can be asked for whose name is not empty. -/
theorem parse_file {file : String} (nonempty : file ≠ "") :
    parse ["config", fileOption.long ++ "=" ++ file] = .ok (.config (some file)) := by
  have hend : fileOption.long ++ "=" ++ file ≠ "--" := assigned_ne (by decide)
  rw [parse_config, readCommand, readTail, if_neg Bool.false_ne_true, if_neg hend,
    readArgument_file nonempty]
  rfl

end CommandLine

namespace Host

/-! ## The host -/

variable {σ : Type}

/-- How a host ends that loaded a configuration. -/
def endingUnder (c : BootConfig) (image : LinkedImage σ) (runtime : σ) (args : ArgVector) :
    Ending (Session σ) (BootConfig × Int32) :=
  Run.start (boot image (.ok c) args) { runtime := runtime }

/-- An ending with a record first that another configuration is ignored. -/
def ignoring (e : ConfigError) (ending : Ending (Session σ) (BootConfig × Int32)) :
    Ending (Session σ) (BootConfig × Int32) :=
  { ending with
    output := .log ⟨.warn, target, "Ignoring configuration: " ++ e.message⟩ :: ending.output }

/-- The host is in every way one that loaded this configuration. -/
structure BootsWith (s : Surroundings) (c : BootConfig) (image : LinkedImage σ) (runtime : σ)
    (args : ArgVector) : Prop where
  ending : s.ending image runtime args = endingUnder c image runtime args
  finished : s.finished image runtime args = shown c s.clock (s.ending image runtime args)
  config : ∀ config code, (s.ending image runtime args).outcome = .ok (config, code) → config = c

/-- The host tells of an error, and is otherwise in every way one with the defaults. -/
structure FallsBack (s : Surroundings) (e : ConfigError) (image : LinkedImage σ) (runtime : σ)
    (args : ArgVector) : Prop where
  ending : s.ending image runtime args = ignoring e (endingUnder {} image runtime args)
  finished : s.finished image runtime args = shown {} s.clock (s.ending image runtime args)
  config : ∀ config code, (s.ending image runtime args).outcome = .ok (config, code) → config = {}

variable {image : LinkedImage σ} {runtime : σ} {args : ArgVector}

theorem finished_eq_shown (s : Surroundings) : s.finished image runtime args =
    shown (settled s.resolved) s.clock (s.ending image runtime args) := rfl

/-- A place with no configuration to load. -/
def unconfigured (s : Surroundings) : Surroundings := { s with environment := fun _ => none }

theorem endingUnder_default (s : Surroundings) :
    (unconfigured s).ending image runtime args = endingUnder {} image runtime args := rfl

theorem outcome_config {s : Surroundings} {config : BootConfig} {code : Int32}
    (h : (s.ending image runtime args).outcome = .ok (config, code)) :
    config = settled s.resolved := by
  rw [ending_eq] at h
  cases hexit : exitOutcome image runtime args with
  | error u =>
    rw [hexit] at h
    cases h
  | ok code' =>
    rw [hexit] at h
    cases h
    rfl

theorem bootsWith_of_resolved {s : Surroundings} {c : BootConfig} (h : s.resolved = .ok c) :
    BootsWith s c image runtime args where
  ending := by rw [Surroundings.ending, h, endingUnder]
  finished := by rw [finished_eq_shown, h, settled]
  config := by
    intro config code hout
    rw [outcome_config hout, h, settled]

theorem fallsBack_of_error {s : Surroundings} {e : ConfigError} (h : s.resolved = .error e) :
    FallsBack s e image runtime args where
  ending := by
    rw [← endingUnder_default s, ending_eq, ending_eq (unconfigured s), ignoring,
      Surroundings.stream, h]
    rfl
  finished := by rw [finished_eq_shown, h, settled]
  config := by
    intro config code hout
    rw [outcome_config hout, h, settled]

/-- A host that falls back shows one thing more than one with the defaults. -/
theorem length_output (image : LinkedImage σ) (runtime : σ) (args : ArgVector)
    (s : Surroundings) : (s.ending image runtime args).output.length = (notice s.resolved).length +
      ((unconfigured s).ending image runtime args).output.length := by
  have hreport : ∀ stream,
      ((caught image runtime args).toList.flatMap (Initializer.reportOutput stream)).length =
        3 * (caught image runtime args).toList.length := by
    intro stream
    cases caught image runtime args with
    | none => rfl
    | some fault => rfl
  rw [ending_eq, ending_eq (unconfigured s)]
  simp only [List.length_append, hreport]
  exact (congrArg _ (Nat.zero_add _)).symm

theorem exists_error_of_fallsBack {s : Surroundings} {e : ConfigError}
    (h : FallsBack s e image runtime args) : ∃ e', s.resolved = .error e' := by
  cases hresolved : s.resolved with
  | error e' => exact ⟨e', rfl⟩
  | ok c =>
    have hlength := length_output image runtime args s
    rw [h.ending, ← endingUnder_default s, hresolved] at hlength
    have hlonger : ((unconfigured s).ending image runtime args).output.length + 1 =
      0 + ((unconfigured s).ending image runtime args).output.length := hlength
    omega

end Host

namespace CommandLine

variable {σ : Type}

/-- The tool without a file and the host, at the same place. -/
structure HostLaw (args : List String) (s : Host.Surroundings) (image : Host.LinkedImage σ)
    (runtime : σ) (hostArgs : ArgVector) : Prop where
  agree : (∃ c, Prints args s.environment s.files c ∧ Host.BootsWith s c image runtime hostArgs) ∨
    ∃ e, Fails args s.environment s.files e ∧ Host.FallsBack s e image runtime hostArgs
  fallsBack_iff : (run args s.environment s.files).exitCode ≠ 0 ↔
    ∃ e, Host.FallsBack s e image runtime hostArgs

theorem hostLaw {args : List String} (h : parse args = .ok (.config none)) (s : Host.Surroundings)
    (image : Host.LinkedImage σ) (runtime : σ) (hostArgs : ArgVector) :
    HostLaw args s image runtime hostArgs where
  agree := by
    cases hresolved : s.resolved with
    | ok c =>
      exact .inl ⟨c, (prints_iff h s.environment s.files c).mpr hresolved,
        Host.bootsWith_of_resolved hresolved⟩
    | error e => exact .inr ⟨e, fails_of_error h hresolved, Host.fallsBack_of_error hresolved⟩
  fallsBack_iff := by
    constructor
    · intro hcode
      cases hresolved : s.resolved with
      | ok c =>
        have hprints : Prints _ _ _ _ := (prints_iff h s.environment s.files c).mpr hresolved
        rw [hprints] at hcode
        exact absurd rfl hcode
      | error e => exact ⟨e, Host.fallsBack_of_error hresolved⟩
    · intro hback
      obtain ⟨e, hback⟩ := hback
      obtain ⟨e', hresolved⟩ := Host.exists_error_of_fallsBack hback
      rw [(fails_of_error h hresolved).finished]
      exact Nat.one_ne_zero

/-- The effective configuration is the same for the tool that prints it and the host. -/
theorem configuration_agreed :
    (∀ environment files, BootConfig.ResolutionLaw environment files) ∧
    (∀ file, file ≠ "" →
      parse ["config", fileOption.long ++ "=" ++ file] = .ok (.config (some file))) ∧
    (∀ args file, parse args = .ok (.config (some file)) →
      ∀ environment files, FileLaw args file environment files) ∧
    ∀ args, parse args = .ok (.config none) →
      ∀ (s : Host.Surroundings) (image : Host.LinkedImage σ) (runtime : σ) (hostArgs : ArgVector),
        HostLaw args s image runtime hostArgs :=
  ⟨BootConfig.resolutionLaw, fun _ => parse_file, fun _ _ => fileLaw, fun _ => hostLaw⟩

/-- A place whose environment names a file that is missing. -/
def misconfigured : Host.Surroundings where
  environment := Environment.set (fun _ => none) configVariable "missing.toml"
  files path := if path = "app.toml" then .ok ({} : BootConfig).toToml else .error .notFound
  clock := ""

/-- An image whose calls all succeed. -/
def idleImage : Host.LinkedImage Unit where
  library := {
    palInit := return true
    dllMain := fun _ _ _ => return 1
    enableStackReporting := return 1
    initializeModules := fun _ _ => return () }
  entry := fun _ => return 0
  memory := fun _ => 0
  leading := 0
  trailing := 8

/-- The file that is there is printed, and without it the tool fails and the host falls back. -/
theorem configuration_agreed_of_missing :
    Prints ["config", fileOption.long ++ "=" ++ "app.toml"] misconfigured.environment
      misconfigured.files {} ∧
    (run ["config"] misconfigured.environment misconfigured.files).exitCode ≠ 0 ∧
    ∃ e, Host.FallsBack misconfigured e idleImage () (.ofArguments []) := by
  obtain ⟨-, hparse, hfile, hhost⟩ := @configuration_agreed Unit
  have hnamed : BootConfig.Named (misconfigured.environment.set configVariable "app.toml")
      misconfigured.files {} :=
    .file rfl (by decide) rfl (BootConfig.ofToml_toToml {})
  have hfails : (run ["config"] misconfigured.environment misconfigured.files).exitCode ≠ 0 := by
    decide +kernel
  have hnone : parse ["config"] = .ok (.config none) := parse_config []
  refine ⟨?_, hfails, (hhost _ hnone misconfigured idleImage () _).fallsBack_iff.mp hfails⟩
  exact ((hfile _ _ (hparse "app.toml" (by decide)) _ _).prints_iff {}).mpr
    (BootConfig.resolve_of_named hnamed)

end CommandLine

end ManagedBoot
