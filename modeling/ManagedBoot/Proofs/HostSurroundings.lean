import ManagedBoot.Host
import ManagedBoot.Proofs.ReportDelivery
import ManagedBoot.Proofs.ShutdownLaw
/-!
What the surroundings of a host process can change.

A start-up looks at its configuration twice: to tell of one that could not be loaded, before anything
else, and to choose the stream for a report, after all its calls. Everything in between
(`Host.course`) does without one (`Host.boot_eq`), so two hosts make the same calls and end with the
same code whatever stands in their environments and files, and what they print differs in log lines
and in the stream of the report alone (`Host.configuration_confined`).
-/
namespace ManagedBoot

variable {σ : Type}

/-! ## Start-ups up to their report -/

namespace Initializer

open Session

/-- The start-up up to a fault that has to be reported, or all of it if there is none. -/
def unreported (boot : Initializer σ) (args : ArgVector) (entry : Entry σ) :
    Run (Session σ) (Except Fault Int32) := do
  match ← boot.starting with
  | .error e => Except.ok <$> fail e
  | .ok (.error fault) => return .error fault
  | .ok (.ok list) =>
    Run.log .info target s!"Runtime initialized with {list.size} module(s)"
    enter .managedMain s!" with {args.size} argument(s)"
    match ← Run.boundary (call (.invoke args) (entry args)) with
    | .ok code => Except.ok <$> closing (pure code)
    | .error fault => return .error fault

/-- What is left to do after it. -/
def reporting (destination : Destination) : Except Fault Int32 → Run (Session σ) Int32
  | .ok code => pure code
  | .error fault => closing (reportFault destination fault)

/-- The destination of reports is of no account before there is one. -/
theorem runReportingTo_eq_unreported (boot : Initializer σ) (destination : Destination)
    (args : ArgVector) (entry : Entry σ) :
    boot.runReportingTo destination args entry =
      boot.unreported args entry >>= reporting destination := by
  rw [runReportingTo_eq, unreported, bind_assoc]
  congr
  funext r
  rcases r with e | fault | list
  · rw [bind_map_left]
    exact (bind_pure _).symm
  · rw [pure_bind]
    rfl
  · simp only [closing, proceed, runEntry, bind_assoc]
    congr
    funext _
    congr
    funext _
    congr
    funext r
    -- Only now, with the entry point returned, do both sides look at the destination.
    rcases r with fault | code
    · rw [pure_bind]
      rfl
    · simp only [bind_map_left, reporting, bind_assoc, pure_bind]

/-- What a start-up shows of a fault that it reports to a stream, on its way to the shutdown. -/
def reportOutput (stream : Stream) (fault : Fault) : List Output :=
  [.log ⟨.error, Session.target, "Managed execution stopped: " ++ fault.message⟩,
    .text stream fault.reportBytes, .log shutdownRecord]

theorem reporting_ok (destination : Destination) (code : Int32) (s : Process (Session σ)) :
    reporting destination (.ok code) s = ⟨.ok code, s, []⟩ := rfl

theorem reporting_error (stream : Stream) (fault : Fault) (s : Process (Session σ)) :
    reporting (.stream stream) (.error fault) s =
      ⟨.ok faultExitCode,
        { s with runtime := { s.runtime with
          milestones := s.runtime.milestones ++ [.step .shutdown] } },
        reportOutput stream fault⟩ := rfl

end Initializer

namespace Host

/-! ## The host process -/

/-- What a host process finds around it. -/
structure Surroundings where
  environment : Environment
  files : FileReader
  clock : String

/-- What is shown of a configuration that could not be loaded. -/
def notice : Except ConfigError BootConfig → List Output
  | .ok _ => []
  | .error e => [.log ⟨.warn, target, "Ignoring configuration: " ++ e.message⟩]

namespace Surroundings

variable (s : Surroundings) (image : LinkedImage σ) (runtime : σ) (args : ArgVector)

def resolved : Except ConfigError BootConfig := BootConfig.resolve s.environment s.files

/-- Where a start-up sends its report. -/
def stream : Stream := (settled s.resolved).diagnostics.stream

/-- What the logger says about its filter before the first record. -/
def heading : List UInt8 := Host.heading (settled s.resolved).logging

/-- What a log record looks like. -/
def line : LogRecord → List UInt8 := (display (settled s.resolved).logging s.clock).line

def ending : Ending (Session σ) (BootConfig × Int32) :=
  Run.start (boot image s.resolved args) { runtime := runtime }

def finished : Finished := run image runtime s.environment s.files args s.clock

end Surroundings

/-- The process up to a fault that has to be reported. No configuration is looked at. -/
def course (image : LinkedImage σ) (args : ArgVector) : Run (Session σ) (Except Fault Int32) := do
  match ← Run.zoom (·.runtime) (fun s r => { s with runtime := r })
      (Source.linked image.memory image.leading image.trailing) with
  | .error e =>
    Run.log .error target ("Failed to locate the module list: " ++ e.message)
    return .ok bootFailureExitCode
  | .ok source =>
    let boot : Initializer σ := { platform := image.library.platform, source := source }
    boot.unreported args image.entry

theorem settle_apply (resolved : Except ConfigError BootConfig) (s : Process σ) :
    settle resolved s = ⟨.ok (settled resolved), s, notice resolved⟩ := by
  cases resolved with
  | ok c => rfl
  | error e => rfl

theorem boot_eq (image : LinkedImage σ) (resolved : Except ConfigError BootConfig)
    (args : ArgVector) : boot image resolved args = (do
      let config ← settle resolved
      let verdict ← course image args
      let code ← Initializer.reporting (.stream config.diagnostics.stream) verdict
      return (config, code)) := by
  rw [boot, course]
  congr
  funext config
  rw [bind_assoc]
  congr
  funext located
  cases located with
  | error e => rfl
  | ok source =>
    dsimp only [Initializer.run]
    rw [Initializer.runReportingTo_eq_unreported, bind_assoc]
    -- The initializers differ in their stream, which nothing before the report reads.
    rfl

/-! ## What the surroundings leave alone -/

section
variable (image : LinkedImage σ) (runtime : σ) (args : ArgVector)

/-- How the process ends but for a report, under any configuration. -/
def bare : Ending (Session σ) (Except Fault Int32) :=
  Run.start (course image args) { runtime := runtime }

/-- The fault that a boundary of the start-up caught, if one did. -/
def caught : Option Fault :=
  match (bare image runtime args).outcome with
  | .ok (.error fault) => some fault
  | _ => none

/-- The exit code, if the process returns. -/
def exitOutcome : Except Unwind Int32 :=
  (bare image runtime args).outcome.map fun
    | .ok code => code
    | .error _ => faultExitCode

/-- The process in the end. After a report it has gone into the shutdown. -/
def lastProcess : Process (Session σ) :=
  let p := (bare image runtime args).process
  match caught image runtime args with
  | some _ => { p with runtime := { p.runtime with
      milestones := p.runtime.milestones ++ [.step .shutdown] } }
  | none => p

/-- What two hosts have in common that differ in nothing but their surroundings. -/
structure Alike (first second : Surroundings) : Prop where
  /-- They make the same calls with the same arguments, and these have the same effect. -/
  process : (first.ending image runtime args).process = (second.ending image runtime args).process
  code : (first.ending image runtime args).outcome.map Prod.snd =
    (second.ending image runtime args).outcome.map Prod.snd
  exit : (first.finished image runtime args).exit = (second.finished image runtime args).exit
  events : Output.events (first.ending image runtime args).output =
    Output.events (second.ending image runtime args).output
  passages : Output.passages (first.ending image runtime args).output =
    Output.passages (second.ending image runtime args).output

/-- What a host shows: nothing of its surroundings but a record about a configuration that could not
be loaded, and the stream of the report. -/
structure Shows (s : Surroundings) : Prop where
  output : (s.ending image runtime args).output = notice s.resolved ++
    ((bare image runtime args).output ++
      (caught image runtime args).toList.flatMap (Initializer.reportOutput s.stream))
  /-- Beside log records a stream gets what it gets without a report, and all or nothing of one. -/
  written : ∀ stream, Output.written stream (s.ending image runtime args).output =
    Output.written stream (bare image runtime args).output ++
      if s.stream = stream then (caught image runtime args).toList.flatMap Fault.reportBytes else []
  /-- A fault that was caught is told on the stream of the report, after all else there. -/
  told : ∀ fault, caught image runtime args = some fault → ∃ before report,
    Output.written s.stream (s.ending image runtime args).output = before ++ report ∧
    fault.Told report
  stdout : (s.finished image runtime args).stdout =
    Output.written .stdout (s.ending image runtime args).output
  stderr : (s.finished image runtime args).stderr =
    s.heading ++ (s.ending image runtime args).output.flatMap (Output.errorBytes s.line)
  stream_eq_stderr_iff : s.stream = .stderr ↔
    ∃ c, s.resolved = .ok c ∧ c.diagnostics.stream = .stderr

end

section
variable {image : LinkedImage σ} {runtime : σ} {args : ArgVector}

theorem ending_eq (s : Surroundings) : s.ending image runtime args =
    ⟨(exitOutcome image runtime args).map (settled s.resolved, ·), lastProcess image runtime args,
      notice s.resolved ++ ((bare image runtime args).output ++
        (caught image runtime args).toList.flatMap (Initializer.reportOutput s.stream))⟩ := by
  rw [Surroundings.ending, Run.start, boot_eq, Run.bind_of_ok (settle_apply _ _), exitOutcome,
    lastProcess, caught, bare, Run.start]
  -- A report is left to do only where the course ended with a fault as its value.
  rcases h : course image args { runtime := { runtime := runtime } } with
    ⟨u | fault | code, p, out⟩
  · rw [Run.bind_of_error h]
    simp [Except.map]
  · rw [Run.bind_of_ok h, Run.bind_of_ok (Initializer.reporting_error _ _ _)]
    simp [Except.map, Run.pure_apply, Surroundings.stream]
  · rw [Run.bind_of_ok h, Run.bind_of_ok (Initializer.reporting_ok _ _ _)]
    simp [Except.map, Run.pure_apply]

theorem written_append (stream : Stream) (before after : List Output) :
    Output.written stream (before ++ after) =
      Output.written stream before ++ Output.written stream after := List.flatMap_append

theorem written_notice (stream : Stream) (resolved : Except ConfigError BootConfig) :
    Output.written stream (notice resolved) = [] := by
  cases resolved with
  | ok c => rfl
  | error e => rfl

theorem written_reportOutput (stream target : Stream) (fault : Option Fault) :
    Output.written stream (fault.toList.flatMap (Initializer.reportOutput target)) =
      if target = stream then fault.toList.flatMap Fault.reportBytes else [] := by
  cases fault with
  | none =>
    rw [Option.toList_none, List.flatMap_nil, List.flatMap_nil, ite_self]
    rfl
  | some fault =>
    rw [Option.toList_some, List.flatMap_singleton, List.flatMap_singleton]
    show [] ++ ((if target = stream then fault.reportBytes else []) ++ []) = _
    rw [List.nil_append, List.append_nil]

theorem exit_finished (s : Surroundings) : (s.finished image runtime args).exit =
    .ofOutcome ((s.ending image runtime args).outcome.map Prod.snd) := rfl

theorem code_ending (s : Surroundings) : (s.ending image runtime args).outcome.map Prod.snd =
    exitOutcome image runtime args := by
  rw [ending_eq]
  rcases exitOutcome image runtime args with u | code <;> rfl

/-- What is neither a log record nor text is shown as it is without a report. -/
theorem filterMap_ending {α : Type} {f : Output → Option α} (hlog : ∀ r, f (.log r) = none)
    (htext : ∀ stream bytes, f (.text stream bytes) = none) (s : Surroundings) :
    (s.ending image runtime args).output.filterMap f =
      (bare image runtime args).output.filterMap f := by
  have hnotice : (notice s.resolved).filterMap f = [] := by
    cases s.resolved with
    | ok c => rfl
    | error e => simp [notice, hlog]
  have hreport : ((caught image runtime args).toList.flatMap
      (Initializer.reportOutput s.stream)).filterMap f = [] := by
    cases caught image runtime args with
    | none => rfl
    | some fault => simp [Initializer.reportOutput, hlog, htext]
  rw [ending_eq, List.filterMap_append, List.filterMap_append, hnotice, hreport, List.append_nil,
    List.nil_append]

theorem alike (first second : Surroundings) : Alike image runtime args first second where
  process := by rw [ending_eq, ending_eq]
  code := by rw [code_ending, code_ending]
  exit := by rw [exit_finished, exit_finished, code_ending, code_ending]
  events := by
    apply (filterMap_ending (fun _ => rfl) (fun _ _ => rfl) first).trans
    exact (filterMap_ending (fun _ => rfl) (fun _ _ => rfl) second).symm
  passages := by
    apply (filterMap_ending (fun _ => rfl) (fun _ _ => rfl) first).trans
    exact (filterMap_ending (fun _ => rfl) (fun _ _ => rfl) second).symm

theorem written_ending (s : Surroundings) (stream : Stream) :
    Output.written stream (s.ending image runtime args).output =
      Output.written stream (bare image runtime args).output ++
        if s.stream = stream then (caught image runtime args).toList.flatMap Fault.reportBytes
        else [] := by
  rw [ending_eq, written_append, written_append, written_notice, written_reportOutput]
  rfl

theorem shows (s : Surroundings) : Shows image runtime args s where
  output := by rw [ending_eq]
  written := written_ending s
  told := by
    intro fault hcaught
    refine ⟨_, _, written_ending s s.stream, ?_⟩
    rw [if_pos rfl, hcaught, Option.toList_some, List.flatMap_singleton]
    exact fault.told_reportBytes
  stdout := rfl
  stderr := rfl
  stream_eq_stderr_iff := by
    rw [Surroundings.stream]
    cases s.resolved with
    | ok c =>
      constructor
      · intro h
        exact ⟨c, rfl, h⟩
      · intro h
        obtain ⟨c', hc, h⟩ := h
        cases hc
        exact h
    | error e =>
      constructor
      · intro h
        cases h
      · intro h
        obtain ⟨c, hc, -⟩ := h
        cases hc

end

/-- No configuration blocks or alters a start-up: the variables and files around a host change log
output, and where a report goes. -/
theorem configuration_confined (image : LinkedImage σ) (runtime : σ) (args : ArgVector) :
    (∀ first second, Alike image runtime args first second) ∧
      ∀ s, Shows image runtime args s :=
  ⟨alike, shows⟩

end Host
end ManagedBoot
