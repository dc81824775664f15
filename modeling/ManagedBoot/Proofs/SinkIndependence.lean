import ManagedBoot.Proofs.HostSurroundings
import ManagedBoot.Proofs.ReportDelivery
/-!
What the sink of a start-up can change.

Code is `Blind` if it neither reads nor changes the sink of its session. A start-up is blind up to a
fault that it has to report (`Initializer.blind_unreported`), and of the report it only logs whether
it failed. So any two sinks see the same calls, the same steps and the same exit code, and a sink
gets nothing but the report of the one fault that a boundary caught (`reports_to_any_sink`).
-/
namespace ManagedBoot

variable {σ : Type} {α β : Type}

/-- The process with another sink. -/
def Process.withSink (p : Process (Session σ)) (sink : Sink) : Process (Session σ) :=
  { p with runtime := { p.runtime with sink := sink } }

namespace Session

/-! ## Code that does not see the sink -/

/-- Code that neither reads nor changes the sink. -/
def Blind (x : Run (Session σ) α) : Prop :=
  ∀ p sink, x (p.withSink sink) = ⟨(x p).outcome, (x p).process.withSink sink, (x p).output⟩

theorem Blind.pure (a : α) : Blind (pure a : Run (Session σ) α) := fun _ _ => rfl

theorem Blind.log (level : Level) (target message : String) :
    Blind (Run.log level target message : Run (Session σ) Unit) := fun _ _ => rfl

theorem Blind.enter (step : BootStep) (detail : String) :
    Blind (enter step detail : Run (Session σ) Unit) := fun _ _ => rfl

/-- Collaborators do not see the sink. -/
theorem Blind.call (c : Call) (body : Run σ α) : Blind (call c body) := fun _ _ => rfl

theorem Blind.bind {x : Run (Session σ) α} {f : α → Run (Session σ) β} (hx : Blind x)
    (hf : ∀ a, Blind (f a)) : Blind (x >>= f) := by
  intro p sink
  have hsink := hx p sink
  rcases h : x p with ⟨u | a, q, out⟩
  · rw [h] at hsink
    rw [Run.bind_of_error hsink, Run.bind_of_error h]
  · rw [h] at hsink
    rw [Run.bind_of_ok hsink, Run.bind_of_ok h, hf a q sink]

theorem Blind.map (f : α → β) {x : Run (Session σ) α} (hx : Blind x) : Blind (f <$> x) := by
  rw [← bind_pure_comp]
  exact hx.bind fun _ => .pure _

theorem Blind.boundary {x : Run (Session σ) α} (hx : Blind x) : Blind (Run.boundary x) := by
  intro p sink
  have hsink : x (p.withSink sink).deeper = _ := hx p.deeper sink
  rw [Run.boundary_apply, Run.boundary_apply, hsink]
  rcases x p.deeper with ⟨(fault | text) | a, q, out⟩ <;> rfl

theorem Blind.checking (host image : Layout.Contract) :
    Blind (host.checking image : Run (Session σ) _) := by
  unfold Layout.Contract.checking
  rcases host.ensureMatches image with (⟨f, x, y⟩ | n) | u
  · exact .bind (.log _ _ _) fun _ => .pure _
  · exact .pure _
  · exact .pure _

/-- A step with a call that is answered by a success flag. -/
theorem blind_flag (step : BootStep) (detail : String) (c : Call) (body : Run σ Bool)
    (e : BootError) {rest : Run (Session σ) (Except BootError α)} (hrest : Blind rest) :
    Blind (enter step detail >>= fun _ => call c body >>= fun success =>
      if !success then pure (.error e) else rest) := by
  refine .bind (.enter _ _) fun _ => .bind (.call _ _) ?_
  intro success
  cases success with
  | false => exact .pure _
  | true => exact hrest

theorem Blind.closing {x : Run (Session σ) Int32} (hx : Blind x) : Blind (closing x) :=
  .bind hx fun _ => .bind (.enter _ _) fun _ => .pure _

end Session

namespace Initializer

open Session

variable {boot : Initializer σ} {args : ArgVector} {entry : Entry σ}

theorem blind_layoutCheck (boot : Initializer σ) : Blind boot.layoutCheck := by
  refine .bind (.call _ _) ?_
  intro layout
  cases layout with
  | none => exact .pure _
  | some image => exact .bind (.checking _ _) fun _ => .pure _

theorem blind_prepare (boot : Initializer σ) : Blind boot.prepare := by
  unfold prepare
  refine blind_flag _ _ _ _ _ (blind_flag _ _ _ _ _ (blind_flag _ _ _ _ _ ?_))
  refine .bind (.call _ _) ?_
  intro image
  cases image with
  | none => exact .bind (.log _ _ _) fun _ => blind_layoutCheck boot
  | some image => exact blind_flag _ _ _ _ _ (blind_layoutCheck boot)

theorem blind_startModules (boot : Initializer σ) : Blind boot.startModules := by
  unfold startModules
  refine .bind (.enter _ _) fun _ => .bind (.call _ _) ?_
  intro result
  cases result with
  | error e => exact .pure _
  | ok list => exact .bind (.call _ _) fun _ => .pure _

theorem blind_starting (boot : Initializer σ) : Blind boot.starting := by
  unfold starting
  refine .bind (blind_prepare boot) ?_
  intro prepared
  cases prepared with
  | error e => exact .pure _
  | ok _ =>
    refine .bind (.boundary (blind_startModules boot)) ?_
    intro started
    rcases started with fault | e | list <;> exact .pure _

/-- Up to a fault that has to be reported a start-up does not see its sink. -/
theorem blind_unreported (boot : Initializer σ) (args : ArgVector) (entry : Entry σ) :
    Blind (boot.unreported args entry) := by
  unfold unreported
  refine .bind (blind_starting boot) ?_
  intro started
  rcases started with e | fault | list
  · exact .map _ (.bind (.log _ _ _) fun _ => .pure _)
  · exact .pure _
  · refine .bind (.log _ _ _) fun _ => .bind (.enter _ _) fun _ => .bind (.boundary (.call _ _)) ?_
    intro ended
    cases ended with
    | error fault => exact .pure _
    | ok code => exact .map _ (.closing (.pure _))

/-! ## Where a fault is caught -/

/-- The part of a start-up from its entry point on, up to a fault that has to be reported. -/
def invoking (args : ArgVector) (entry : Entry σ) (list : ModuleList) :
    Run (Session σ) (Except Fault Int32) := do
  Run.log .info target s!"Runtime initialized with {list.size} module(s)"
  enter .managedMain s!" with {args.size} argument(s)"
  match ← Run.boundary (call (.invoke args) (entry args)) with
  | .ok code => Except.ok <$> closing (pure code)
  | .error fault => return .error fault

theorem unreported_eq (boot : Initializer σ) (args : ArgVector) (entry : Entry σ) :
    boot.unreported args entry = (do
      match ← boot.starting with
      | .error e => Except.ok <$> fail e
      | .ok (.error fault) => return .error fault
      | .ok (.ok list) => invoking args entry list) := rfl

/-- A boundary of the start-up catches the fault: the one around the modules, or the one around the
entry point. -/
inductive Catches (boot : Initializer σ) (args : ArgVector) (entry : Entry σ)
    (p : Process (Session σ)) (fault : Fault) : Prop
  | modules {q : Process (Session σ)} {out : List Output}
      (prepared : boot.prepare p = ⟨.ok (.ok ()), q, out⟩)
      (raised : (boot.startModules q.deeper).outcome = .error (.fault fault))
  | entry {list : ModuleList} {q : Process (Session σ)} {out : List Output}
      (started : boot.starting p = ⟨.ok (.ok (.ok list)), q, out⟩)
      (raised : (entry args q.inner.deeper).outcome = .error (.fault fault))

/-- A fault of the modules is what is left of a start-up up to them. -/
theorem starting_caught_iff (boot : Initializer σ) (p : Process (Session σ)) (fault : Fault) :
    (boot.starting p).outcome = .ok (.ok (.error fault)) ↔
      ∃ q out, boot.prepare p = ⟨.ok (.ok ()), q, out⟩ ∧
        (boot.startModules q.deeper).outcome = .error (.fault fault) := by
  unfold starting
  rcases hprepare : boot.prepare p with ⟨u | e | _, q, out⟩
  · simp [Run.bind_of_error hprepare]
  · simp [Run.bind_of_ok hprepare, Run.pure_apply]
  · rw [Run.bind_of_ok hprepare]
    have hboundary := Run.boundary_apply boot.startModules q
    rcases hstart : boot.startModules q.deeper with ⟨(fault' | text) | e | list, q', out'⟩ <;>
      rw [hstart] at hboundary
    · simp [Run.bind_of_ok hboundary, Run.pure_apply, hstart]
    · simp [Run.bind_of_error hboundary, hstart]
    · simp [Run.bind_of_ok hboundary, Run.pure_apply, hstart]
    · simp [Run.bind_of_ok hboundary, Run.pure_apply, hstart]

/-- The entry point is invoked inside a boundary, and what it raises there is left to report. -/
theorem invoking_caught_iff (args : ArgVector) (entry : Entry σ) (list : ModuleList)
    (p : Process (Session σ)) (fault : Fault) :
    (invoking args entry list p).outcome = .ok (.error fault) ↔
      (entry args p.inner.deeper).outcome = .error (.fault fault) := by
  obtain ⟨q, henter, -, hinner⟩ := Quiet.enter .managedMain s!" with {args.size} argument(s)" p
  have hfound : q.deeper.inner = p.inner.deeper := congrArg Process.deeper hinner
  show (Run.effect (invoking args entry list) p).1 = _ ↔
    (Run.effect (entry args) p.inner.deeper).1 = _
  rw [invoking, Run.effect_bind, Run.effect_log]
  dsimp only
  rw [Run.effect_bind, henter]
  dsimp only
  rw [Run.effect_bind, Run.effect_boundary, effect_call, hfound]
  rcases Run.effect (entry args) p.inner.deeper with ⟨(fault' | text) | code, q'⟩
  · simp
  · simp
  · simp only [Run.effect_map, Except.map]
    split <;> simp

/-- What is left to report is the fault that a boundary caught. -/
theorem unreported_caught_iff (boot : Initializer σ) (args : ArgVector) (entry : Entry σ)
    (p : Process (Session σ)) (fault : Fault) :
    (boot.unreported args entry p).outcome = .ok (.error fault) ↔
      boot.Catches args entry p fault := by
  have hmodules := boot.starting_caught_iff p fault
  rw [unreported_eq]
  constructor
  · intro h
    rcases hstart : boot.starting p with ⟨u | e | raised | list, q, out⟩
    · rw [Run.bind_of_error hstart] at h
      cases h
    · rw [Run.bind_of_ok hstart] at h
      cases h
    · rw [Run.bind_of_ok hstart] at h
      cases h
      rw [hstart] at hmodules
      obtain ⟨q, out, hprepare, hraised⟩ := hmodules.mp rfl
      exact .modules hprepare hraised
    · rw [Run.bind_of_ok hstart] at h
      exact .entry hstart ((invoking_caught_iff args entry list q fault).mp h)
  · intro h
    cases h with
    | modules prepared raised =>
      have hout := hmodules.mpr ⟨_, _, prepared, raised⟩
      rcases hstart : boot.starting p with ⟨outcome, q, out⟩
      rw [hstart] at hout
      cases hout
      rw [Run.bind_of_ok hstart]
      rfl
    | @entry list q out started raised =>
      rw [Run.bind_of_ok started]
      exact (invoking_caught_iff args entry list q fault).mpr raised

/-! ## The report -/

/-- The record of a report that failed. -/
def failureRecord (e : SinkError) : LogRecord :=
  ⟨.warn, target, "Failed to write fault report: " ++ e.message⟩

/-- The warning about a report, if it failed. -/
def warning : Except SinkError Unit → List Output
  | .ok () => []
  | .error e => [.log (failureRecord e)]

/-- A report goes to the sink, and the log tells of the fault and whether its report failed. -/
theorem reportFault_sink (fault : Fault) (p : Process (Session σ)) :
    reportFault .sink fault p =
      ⟨.ok faultExitCode, p.withSink (fault.report p.runtime.sink).2,
        .log ⟨.error, target, "Managed execution stopped: " ++ fault.message⟩ ::
          warning (fault.report p.runtime.sink).1⟩ := by
  have hget : (Run.get : Run (Session σ) (Session σ)) p = ⟨.ok p.runtime, p, []⟩ := rfl
  have hlog : Run.log .error target ("Managed execution stopped: " ++ fault.message) p =
    ⟨.ok (), p, [.log ⟨.error, target, "Managed execution stopped: " ++ fault.message⟩]⟩ := rfl
  rw [reportFault, Run.bind_of_ok hlog]
  dsimp only
  rw [Run.bind_of_ok hget]
  dsimp only
  rcases fault.report p.runtime.sink with ⟨e | u, sink⟩
  · rfl
  · rfl

/-! ## The whole start-up -/

/-- The process after the step of shutting down. -/
def shutDown (p : Process (Session σ)) : Process (Session σ) :=
  { p with runtime := { p.runtime with milestones := p.runtime.milestones ++ [.step .shutdown] } }

/-- A start-up that reports to the given sink. -/
def endingWith (boot : Initializer σ) (args : ArgVector) (entry : Entry σ)
    (p : Process (Session σ)) (sink : Sink) : Ending (Session σ) Int32 :=
  boot.runReportingTo .sink args entry (p.withSink sink)

/-- The sink after a start-up in which a boundary caught the given fault, or none. -/
def sinkAfter (sink : Sink) : Option Fault → Sink
  | none => sink
  | some fault => (fault.report sink).2

/-- What the log says of a report that failed. -/
def warned (sink : Sink) : Option Fault → List Output
  | none => []
  | some fault => warning (fault.report sink).1

/-- How a start-up ends is settled before its sink is looked at. -/
theorem exists_ending (boot : Initializer σ) (args : ArgVector) (entry : Entry σ)
    (p : Process (Session σ)) :
    ∃ (caught : Option Fault) (outcome : Except Unwind Int32) (q : Process (Session σ))
        (before after : List Output),
      (∀ fault, caught = some fault ↔ boot.Catches args entry p fault) ∧
      ∀ sink, boot.endingWith args entry p sink =
        ⟨outcome, q.withSink (sinkAfter sink caught), before ++ warned sink caught ++ after⟩ := by
  have hblind := blind_unreported boot args entry p
  have hcaught := boot.unreported_caught_iff args entry p
  rcases h : boot.unreported args entry p with ⟨u | fault | code, q, out⟩ <;>
    rw [h] at hblind hcaught
  · refine ⟨none, .error u, q, out, [], ?_, ?_⟩
    · intro fault
      simp [← hcaught]
    · intro sink
      rw [endingWith, runReportingTo_eq_unreported, Run.bind_of_error (hblind sink)]
      simp [sinkAfter, warned]
  · refine ⟨some fault, .ok faultExitCode, shutDown q,
      out ++ [.log ⟨.error, target, "Managed execution stopped: " ++ fault.message⟩],
      [.log shutdownRecord], ?_, ?_⟩
    · intro raised
      simp [← hcaught]
    · intro sink
      have hclosing := closing_of_ok (reportFault_sink fault (q.withSink sink))
      rw [endingWith, runReportingTo_eq_unreported, Run.bind_of_ok (hblind sink), reporting,
        hclosing]
      simp only [List.append_assoc, List.cons_append, List.nil_append]
      rfl
  · refine ⟨none, .ok code, q, out, [], ?_, ?_⟩
    · intro fault
      simp [← hcaught]
    · intro sink
      rw [endingWith, runReportingTo_eq_unreported, Run.bind_of_ok (hblind sink), reporting_ok]
      simp [sinkAfter, warned]

/-- What the sink of a start-up from `p` can change, and what it gets. -/
structure SinkLaw (boot : Initializer σ) (args : ArgVector) (entry : Entry σ)
    (p : Process (Session σ)) : Prop where
  outcome : ∀ first second, (boot.endingWith args entry p first).outcome =
    (boot.endingWith args entry p second).outcome
  /-- The same calls are made with the same arguments and the same steps are entered, the shutdown
  among them. -/
  milestones : ∀ first second, (boot.endingWith args entry p first).process.runtime.milestones =
    (boot.endingWith args entry p second).process.runtime.milestones
  collaborators : ∀ first second, (boot.endingWith args entry p first).process.inner =
    (boot.endingWith args entry p second).process.inner
  /-- A sink stays as it is, or gets the report of the one fault that a boundary caught. What is
  shown is the same, but for a warning that the report failed. -/
  sink : ∃ (caught : Option Fault) (before after : List Output),
    (∀ fault, caught = some fault ↔ boot.Catches args entry p fault) ∧
      ∀ sink, (boot.endingWith args entry p sink).process.runtime.sink = sinkAfter sink caught ∧
        (boot.endingWith args entry p sink).output = before ++ warned sink caught ++ after

theorem sinkLaw (boot : Initializer σ) (args : ArgVector) (entry : Entry σ)
    (p : Process (Session σ)) : boot.SinkLaw args entry p := by
  obtain ⟨caught, outcome, q, before, after, hcaught, hending⟩ := boot.exists_ending args entry p
  exact {
    outcome := by
      intro first second
      rw [hending, hending]
    milestones := by
      intro first second
      rw [hending, hending]
      rfl
    collaborators := by
      intro first second
      rw [hending, hending]
      rfl
    sink := by
      refine ⟨caught, before, after, hcaught, ?_⟩
      intro sink
      rw [hending]
      exact ⟨rfl, rfl⟩
  }

end Initializer

/-- A fault's report reaches a sink as far as the sink takes it, and no sink makes a difference to a
start-up, or gets anything but the report of a fault that a boundary caught. -/
theorem reports_to_any_sink :
    (∀ fault : Fault, fault.Reports) ∧
      ∀ (boot : Initializer σ) (args : ArgVector) (entry : Entry σ) (p : Process (Session σ)),
        boot.SinkLaw args entry p :=
  ⟨Fault.reports, Initializer.sinkLaw⟩

end ManagedBoot
