import ManagedBoot.Proofs.Moments
import ManagedBoot.Proofs.ReportDelivery
/-!
Fault boundaries over every moment of an execution.

The depth of the process is the number of boundaries entered (`Level`), because every step keeps it
so. Unwinding leaves every scope that does not catch it: a fault gets to the nearest boundary and no
further, another panic passes all of them. What goes to the error stream on the way are the reports
of the faults raised at depth zero, and what the runtime itself writes when it handles a frame.
-/
namespace ManagedBoot

variable {σ : Type} {args : Option ArgVector}

def ScopeKind.isBoundary : ScopeKind σ → Bool
  | .boundary => true
  | _ => false

/-- Whether leaving a scope ends the unwinding. -/
def ScopeKind.catches (u : Unwind) : ScopeKind σ → Bool
  | .boundary =>
    match u with
    | .fault _ => true
    | .panic _ => false
  | .guard => true
  | _ => false

/-- The number of boundaries among the scopes. -/
def boundaries (scopes : List (Scope σ)) : Nat := scopes.countP (·.kind.isBoundary)

namespace Moment

/-- The depth is that of the start and one more for each boundary entered since. -/
def Level (start : Nat) (q : Moment σ) : Prop := q.process.depth = start + boundaries q.scopes

/-- The report that the next step writes: that of a fault raised at depth zero. -/
def reported (q : Moment σ) : List UInt8 :=
  match q.control with
  | .run (.raise fault :: _) => if q.process.depth = 0 then fault.reportBytes else []
  | _ => []

/-- What the runtime shows at the next step, when it enters or leaves a frame. -/
def crossed (q : Moment σ) : List Output :=
  match q.call with
  | some call => (call.cross q.process.runtime).output
  | none => []

end Moment

/-! ## One step -/

section
variable {action : Action σ} {p : Process σ}

/-- An action without a body leaves the process as it is. -/
theorem Action.perform_process (h : action.opening p = none) :
    (action.perform args p).process = p := by
  cases action with
  | boundary | guard | within | transition | pinvoke => cases h
  | observe | arguments | finish | finishCount | raise | panic => rw [Action.perform]; rfl

theorem Action.opening_depth {o : Opening σ} (h : action.opening p = some o) :
    o.process.depth = p.depth + if o.kind.isBoundary then 1 else 0 := by
  cases action with
  | boundary | guard | within | transition | pinvoke => cases h; rfl
  | observe | arguments | finish | finishCount | raise | panic => cases h

theorem ScopeKind.close_depth (kind : ScopeKind σ) (outcome : Except Unwind (Option Int32)) :
    (kind.close outcome p).process.depth = p.depth - if kind.isBoundary then 1 else 0 := by
  rcases outcome with (fault | text) | value <;> cases kind <;> rfl

/-- A scope that does not catch an unwinding is left with it. -/
theorem ScopeKind.close_outcome {kind : ScopeKind σ} {u : Unwind} (h : kind.catches u = false) :
    (kind.close (.error u) p).outcome = .error u := by
  cases kind with
  | boundary =>
    cases u with
    | fault => cases h
    | panic => rfl
  | guard => cases h
  | within | transition | pinvoke => rfl

end

theorem boundaries_cons (s : Scope σ) (scopes : List (Scope σ)) :
    boundaries (s :: scopes) = boundaries scopes + if s.kind.isBoundary then 1 else 0 := by
  simp only [boundaries, List.countP_cons]

/-- Every step keeps the depth in line with the boundaries entered. -/
theorem Moment.Level.next {start : Nat} {q q' : Moment σ} {out : List Output}
    (h : q.Level start) (step : q.Next args out q') : q'.Level start := by
  cases step with
  | finish => exact h
  | perform action rest scopes p ho =>
    simp only [Level, Action.perform_process ho]
    exact h
  | enter action rest scopes p o ho =>
    simp only [Level, boundaries_cons, Action.opening_depth ho] at h ⊢
    omega
  | leave outcome kind rest scopes p =>
    -- The boundary that is left was counted, so its depth is there to be taken off.
    simp only [Level, boundaries_cons, ScopeKind.close_depth] at h ⊢
    omega

/-- What a step writes to the error stream is a report or the runtime's own. -/
theorem Moment.Next.written {q q' : Moment σ} {out : List Output} (step : q.Next args out q') :
    Output.written .stderr out = q.reported ++ Output.written .stderr q.crossed := by
  cases step with
  | finish => rfl
  | perform action rest scopes p ho =>
    cases action with
    | boundary | guard | within | transition | pinvoke => cases ho
    | raise fault =>
      -- The record of the raise goes to the log, not to the stream.
      simp only [Action.perform, Run.raise, Moment.reported, Moment.crossed, Moment.call]
      split <;> simp [Output.written]
    | observe | arguments | finish | finishCount | panic => rw [Action.perform]; rfl
  | enter action rest scopes p o ho =>
    cases action with
    | boundary | guard | within | transition | pinvoke =>
      cases ho
      simp [Output.written, Moment.reported, Moment.crossed, Moment.call, BridgeCall.cross,
        Bridge.enterFrame]
    | observe | arguments | finish | finishCount | raise | panic => cases ho
  | leave outcome kind rest scopes p =>
    rcases outcome with (fault | text) | value <;> cases kind <;>
      simp [Output.written, Moment.reported, Moment.crossed, Moment.call, BridgeCall.cross,
        Bridge.leaveFrame, ScopeKind.close]

/-! ## Whole executions -/

theorem Path.written {q r : Moment σ} {moments : List (Moment σ)} {out : List Output}
    (h : Path args q moments out r) :
    Output.written .stderr out =
      moments.flatMap fun m => m.reported ++ Output.written .stderr m.crossed := by
  induction h with
  | here => rfl
  | next step _ ih =>
    have hstep := (Moment.next_of_step step).written
    rw [List.flatMap_cons, ← ih, ← hstep]
    exact List.flatMap_append

/-- Unwinding leaves the scopes that do not catch it. -/
theorem Reaches.unwinds {u : Unwind} (scopes : List (Scope σ)) :
    ∀ (inner : List (Scope σ)) (p : Process σ), (∀ s ∈ inner, s.kind.catches u = false) →
    ∃ q, Reaches args ⟨.leave (.error u), inner ++ scopes, p⟩ ⟨.leave (.error u), scopes, q⟩
  | [], p, _ => ⟨p, [], [], .here _⟩
  | ⟨kind, rest⟩ :: inner, p, passes => by
    have houtcome : (kind.close (.error u) p).outcome = .error u :=
      ScopeKind.close_outcome (passes _ List.mem_cons_self)
    obtain ⟨q, hrest⟩ := unwinds scopes inner (kind.close (.error u) p).process fun s hs =>
      passes s (List.mem_cons_of_mem _ hs)
    have step : Moment.step args ⟨.leave (.error u), ⟨kind, rest⟩ :: inner ++ scopes, p⟩ =
        some ((kind.close (.error u) p).output,
          ⟨.leave (.error u), inner ++ scopes, (kind.close (.error u) p).process⟩) := by
      rw [List.cons_append, Moment.step, houtcome]
      rfl
    exact ⟨q, (Reaches.single step).trans hrest⟩

/-- Running a body leaves the depth as it was. -/
theorem Program.run_depth (args : Option ArgVector) (body : List (Action σ)) (p : Process σ) :
    (Program.run args body p).process.depth = p.depth := by
  obtain ⟨moments, path⟩ := Program.path args body p []
  exact Reaches.invariant (P := Moment.Level p.depth) Moment.Level.next ⟨_, _, path⟩ rfl

theorem Run.boundary_run_depth (args : Option ArgVector) (body : List (Action σ)) (p : Process σ) :
    (Run.boundary (Program.run args body) p).process.depth = p.depth := by
  have hdepth := Program.run_depth args body p.deeper
  rw [Run.boundary_apply]
  rcases hbody : Program.run args body p.deeper with ⟨(fault | text) | value, q, out⟩ <;>
    rw [hbody] at hdepth <;>
    exact congrArg (· - 1) hdepth

/-- Performing a boundary leads to what the boundary yields, or unwinds as it does. -/
theorem Reaches.boundary (args : Option ArgVector) (body rest : List (Action σ))
    (scopes : List (Scope σ)) (p : Process σ) :
    Reaches args ⟨.run (.boundary body :: rest), scopes, p⟩
      ⟨match (Run.boundary (Program.run args body) p).outcome with
        | .ok _ => .run rest
        | .error u => .leave (.error u),
        scopes, (Run.boundary (Program.run args body) p).process⟩ := by
  have hperform : (Action.boundary body).perform args p =
      (Run.boundary (Program.run args body) >>= fun value => do
        Run.event (.boundary value)
        return none) p := by rw [Action.perform]
  obtain ⟨moments, path⟩ := Action.path args (.boundary body) rest scopes p
  rw [hperform] at path
  -- Recording what the boundary yielded leaves the process as the boundary left it.
  rcases h : Run.boundary (Program.run args body) p with ⟨u | value, q, out⟩
  · rw [Run.bind_of_error h] at path
    exact ⟨_, _, path⟩
  · rw [Run.bind_of_ok h, Run.bind_of_ok (Run.event_apply _ _)] at path
    exact ⟨_, _, path⟩

/-! ## Containment -/

/-- How boundaries contain what a body does that runs from the process `p`. -/
structure Contained (args : Option ArgVector) (body : List (Action σ)) (p : Process σ) : Prop where
  /-- The moments lead to the end that running the body has. The error stream shows the reports of
  the faults raised at depth zero, one for each, and what the runtime writes itself. -/
  written : ∃ moments,
    Path args ⟨.run body, [], p⟩ moments (Program.run args body p).output
      ⟨.leave (Program.run args body p).outcome, [], (Program.run args body p).process⟩ ∧
    Output.written .stderr (Program.run args body p).output =
      moments.flatMap fun m => m.reported ++ Output.written .stderr m.crossed
  ended : ∀ outcome q, Reaches args ⟨.run body, [], p⟩ ⟨.leave outcome, [], q⟩ →
    (Program.run args body p).outcome = outcome ∧ (Program.run args body p).process = q
  depth : ∀ m, Reaches args ⟨.run body, [], p⟩ m →
    m.process.depth = p.depth + boundaries m.scopes
  /-- A fault raised inside a boundary is not reported. -/
  silent : ∀ m, Reaches args ⟨.run body, [], p⟩ m → 0 < boundaries m.scopes → m.reported = []
  /-- One raised at depth zero is told on the error stream by the step that raises it. -/
  told : ∀ fault rest scopes q,
    Reaches args ⟨.run body, [], p⟩ ⟨.run (.raise fault :: rest), scopes, q⟩ → q.depth = 0 →
    ∃ out, Moment.step args ⟨.run (.raise fault :: rest), scopes, q⟩ =
        some (out, ⟨.leave (.error (.fault fault)), scopes, q⟩) ∧
      fault.Told (Output.written .stderr out)
  /-- A boundary yields the value or the fault of its body and lets any other panic pass. -/
  yields : ∀ (α : Type) (x : Run σ α) (q : Process σ),
    (Run.boundary x q).outcome =
      match (x q.deeper).outcome with
      | .ok a => .ok (.ok a)
      | .error (.fault fault) => .ok (.error fault)
      | .error (.panic text) => .error (.panic text)
  /-- A boundary is left at the depth it was entered at, and with what it yields. -/
  left : ∀ inside rest scopes q,
    Reaches args ⟨.run body, [], p⟩ ⟨.run (.boundary inside :: rest), scopes, q⟩ →
    (Run.boundary (Program.run args inside) q).process.depth = q.depth ∧
    Reaches args ⟨.run body, [], p⟩
      ⟨match (Run.boundary (Program.run args inside) q).outcome with
        | .ok _ => .run rest
        | .error u => .leave (.error u),
        scopes, (Run.boundary (Program.run args inside) q).process⟩
  /-- A fault gets to the nearest boundary, if nothing catches it before, and no further. -/
  caught : ∀ fault rest inner rest' scopes q,
    Reaches args ⟨.run body, [], p⟩
      ⟨.run (.raise fault :: rest), inner ++ ⟨.boundary, rest'⟩ :: scopes, q⟩ →
    (∀ s ∈ inner, s.kind.catches (.fault fault) = false) →
    ∃ r, Reaches args ⟨.run body, [], p⟩
        ⟨.leave (.error (.fault fault)), ⟨.boundary, rest'⟩ :: scopes, r⟩ ∧
      Moment.step args ⟨.leave (.error (.fault fault)), ⟨.boundary, rest'⟩ :: scopes, r⟩ =
        some ([.event (.boundary (.error fault))], ⟨.run rest', scopes, r.shallower⟩)
  uncaught : ∀ fault rest scopes q,
    Reaches args ⟨.run body, [], p⟩ ⟨.run (.raise fault :: rest), scopes, q⟩ →
    (∀ s ∈ scopes, s.kind.catches (.fault fault) = false) →
    (Program.run args body p).outcome = .error (.fault fault)
  /-- Any other panic goes to the hook installed before and passes every boundary, where nothing
  catches all unwinding. -/
  panicked : ∀ text rest scopes q,
    Reaches args ⟨.run body, [], p⟩ ⟨.run (.panic text :: rest), scopes, q⟩ →
    (∀ s ∈ scopes, s.kind.catches (.panic text) = false) →
    Moment.step args ⟨.run (.panic text :: rest), scopes, q⟩ =
        some ([.event (.panicHook text)], ⟨.leave (.error (.panic text)), scopes, q⟩) ∧
      (Program.run args body p).outcome = .error (.panic text)

theorem Program.run_contained (args : Option ArgVector) (body : List (Action σ)) (p : Process σ) :
    Contained args body p := by
  obtain ⟨moments, path⟩ := Program.path args body p []
  have ended : ∀ outcome q, Reaches args ⟨.run body, [], p⟩ ⟨.leave outcome, [], q⟩ →
      (Program.run args body p).outcome = outcome ∧ (Program.run args body p).process = q := by
    rintro outcome q ⟨moments', out', path'⟩
    have hend := (path.end_unique rfl path' rfl).2.2
    simpa using hend
  have depth : ∀ m, Reaches args ⟨.run body, [], p⟩ m →
      m.process.depth = p.depth + boundaries m.scopes :=
    fun m h => h.invariant (P := Moment.Level p.depth) Moment.Level.next rfl
  have raised : ∀ fault rest scopes q,
      Reaches args ⟨.run body, [], p⟩ ⟨.run (.raise fault :: rest), scopes, q⟩ →
      Reaches args ⟨.run body, [], p⟩ ⟨.leave (.error (.fault fault)), scopes, q⟩ :=
    fun _ _ _ _ h => h.next rfl
  exact {
    written := ⟨moments, path, path.written⟩
    ended := ended
    depth := depth
    silent := by
      intro m hm hinside
      have hdepth := depth m hm
      have hpositive : m.process.depth ≠ 0 := by omega
      rw [Moment.reported]
      split
      · rw [if_neg hpositive]
      · rfl
    told := by
      intro fault rest scopes q _ hdepth
      have step : Moment.step args ⟨.run (.raise fault :: rest), scopes, q⟩ =
        some (_, ⟨.leave (.error (.fault fault)), scopes, q⟩) := rfl
      have hwritten := (Moment.next_of_step step).written
      -- No bridge is called, so the report is all that the step writes.
      have hquiet : Output.written .stderr [] = [] := rfl
      simp only [Moment.reported, Moment.crossed, Moment.call, if_pos hdepth, hquiet,
        List.append_nil] at hwritten
      refine ⟨_, step, ?_⟩
      rw [hwritten]
      exact fault.told_reportBytes
    yields := by
      intro α x q
      rw [Run.boundary_apply]
      rcases x q.deeper with ⟨(fault | text) | a, r, out⟩ <;> rfl
    left := by
      intro inside rest scopes q h
      exact ⟨Run.boundary_run_depth args inside q, h.trans (.boundary args inside rest scopes q)⟩
    caught := by
      intro fault rest inner rest' scopes q h passes
      obtain ⟨r, hr⟩ := Reaches.unwinds (⟨.boundary, rest'⟩ :: scopes) inner q passes
      exact ⟨r, (raised _ _ _ _ h).trans hr, rfl⟩
    uncaught := by
      intro fault rest scopes q h passes
      obtain ⟨r, hr⟩ := Reaches.unwinds [] scopes q passes
      rw [List.append_nil] at hr
      exact (ended _ r ((raised _ _ _ _ h).trans hr)).1
    panicked := by
      intro text rest scopes q h passes
      obtain ⟨r, hr⟩ := Reaches.unwinds [] scopes q passes
      rw [List.append_nil] at hr
      exact ⟨rfl, (ended _ r ((h.next rfl).trans hr)).1⟩
  }

end ManagedBoot
