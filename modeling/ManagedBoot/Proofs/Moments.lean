import ManagedBoot.Program
import ManagedBoot.Proofs.RunLaws
/-!
The moments of a run.

Running a body says what it leads to, not what it goes through. A moment of its execution is what is
to be done next, the scopes entered and not yet left, and the process. `Moment.step` leads from a
moment to the next one and `Path` is a run of steps. `Program.path` proves that the moments of a
body lead to the outcome of `Program.run`, to its process and to its output, and `Path.end_unique`
that they lead nowhere else.
-/
namespace ManagedBoot

variable {σ : Type}

/-- What a scope is, with the frame of its transition as the runtime left it on entry. -/
inductive ScopeKind (σ : Type) where
  | boundary
  | guard
  | within (bridge : Bridge σ) (number : Nat) (frame : TransitionFrame)
  | transition (bridge : Bridge σ) (number : Nat) (frame : TransitionFrame)
  | pinvoke (bridge : Bridge σ) (number : Nat) (frame : TransitionFrame)

/-- A scope and what comes after it in the body around it. -/
structure Scope (σ : Type) where
  kind : ScopeKind σ
  rest : List (Action σ)

/-- What is to be done next. -/
inductive Control (σ : Type) where
  | run (body : List (Action σ))
  /-- A body ended, and the scope around it is to be left. -/
  | leave (outcome : Except Unwind (Option Int32))

/-- One moment of an execution. The innermost scope comes first. -/
structure Moment (σ : Type) where
  control : Control σ
  scopes : List (Scope σ)
  process : Process σ

/-- What entering a scope leads to. -/
structure Opening (σ : Type) where
  kind : ScopeKind σ
  body : List (Action σ)
  process : Process σ
  output : List Output

/-- How an action with a body of its own enters it. -/
def Action.opening (p : Process σ) : Action σ → Option (Opening σ)
  | .boundary body => some ⟨.boundary, body, p.deeper, []⟩
  | .guard body => some ⟨.guard, body, p, []⟩
  | .within b body =>
    some ⟨.within b p.frames (b.enter p.frames {} p.runtime).frame, body,
      (b.enterFrame p).process, (b.enterFrame p).output⟩
  | .transition b body =>
    some ⟨.transition b p.frames (b.enter p.frames {} p.runtime).frame, body,
      (b.enterFrame p).process,
      (b.enterFrame p).output ++ [.event (.frame (b.enter p.frames {} p.runtime).frame)]⟩
  | .pinvoke b body =>
    some ⟨.pinvoke b p.frames (b.enter p.frames {} p.runtime).frame, body,
      (b.enterFrame p).process, (b.enterFrame p).output⟩
  | _ => none

/-- Leaves a scope whose body ended with the given outcome. Unwinding goes on with an error. -/
def ScopeKind.close (outcome : Except Unwind (Option Int32)) (p : Process σ) :
    ScopeKind σ → Ending σ (Option Int32)
  | .boundary =>
    match outcome with
    | .ok value => ⟨.ok none, p.shallower, [.event (.boundary (.ok value))]⟩
    | .error (.fault fault) => ⟨.ok none, p.shallower, [.event (.boundary (.error fault))]⟩
    | .error (.panic text) => ⟨.error (.panic text), p.shallower, []⟩
  | .guard => ⟨.ok none, p, [.event (.caught outcome)]⟩
  | .within b number frame =>
    let l := b.leaveFrame number frame p
    match outcome with
    | .ok value => ⟨.ok none, l.process, l.output ++ [.event (.bridged value)]⟩
    | .error u => ⟨.error u, l.process, l.output⟩
  | .transition b number frame =>
    let l := b.leaveFrame number frame p
    match outcome with
    | .ok _ =>
      ⟨.ok none, l.process, l.output ++ [.event (.after (b.leave number frame p.runtime).frame)]⟩
    | .error u => ⟨.error u, l.process, l.output⟩
  | .pinvoke b number frame =>
    let l := b.leaveFrame number frame p
    match outcome with
    | .ok value => ⟨.ok none, l.process, l.output ++ [.event (.pinvoked value)]⟩
    | .error u => ⟨.error u, p, []⟩

/-- What is to be done after an action with the given outcome. -/
def Control.after (outcome : Except Unwind (Option Int32)) (rest : List (Action σ)) : Control σ :=
  match outcome with
  | .ok none => .run rest
  | .ok (some code) => .leave (.ok (some code))
  | .error u => .leave (.error u)

/-- The next moment and the output on the way there. -/
def Moment.step (args : Option ArgVector) : Moment σ → Option (List Output × Moment σ)
  | ⟨.run [], scopes, p⟩ => some ([], ⟨.leave (.ok none), scopes, p⟩)
  | ⟨.run (action :: rest), scopes, p⟩ =>
    match action.opening p with
    | some o => some (o.output, ⟨.run o.body, ⟨o.kind, rest⟩ :: scopes, o.process⟩)
    | none =>
      let e := action.perform args p
      some (e.output, ⟨.after e.outcome rest, scopes, e.process⟩)
  | ⟨.leave outcome, ⟨kind, rest⟩ :: scopes, p⟩ =>
    let e := kind.close outcome p
    some (e.output, ⟨.after e.outcome rest, scopes, e.process⟩)
  | ⟨.leave _, [], _⟩ => none

/-- A call about a frame that a bridge gets: to enter a new one, or to leave one that was entered. -/
inductive BridgeCall (σ : Type) where
  | enter (bridge : Bridge σ) (number : Nat)
  | leave (bridge : Bridge σ) (number : Nat) (frame : TransitionFrame)

/-- What the bridge does, given what the runtime keeps. A new frame is blank. -/
def BridgeCall.cross (runtime : σ) : BridgeCall σ → Crossing σ
  | .enter b number => b.enter number {} runtime
  | .leave b number frame => b.leave number frame runtime

/-- The call that the next step makes. -/
def Moment.call : Moment σ → Option (BridgeCall σ)
  | ⟨.run (.within b _ :: _), _, p⟩ | ⟨.run (.transition b _ :: _), _, p⟩
  | ⟨.run (.pinvoke b _ :: _), _, p⟩ => some (.enter b p.frames)
  | ⟨.leave _, ⟨.within b number frame, _⟩ :: _, _⟩
  | ⟨.leave _, ⟨.transition b number frame, _⟩ :: _, _⟩
  | ⟨.leave (.ok _), ⟨.pinvoke b number frame, _⟩ :: _, _⟩ => some (.leave b number frame)
  | _ => none

/-- What a step can be. -/
inductive Moment.Next (args : Option ArgVector) : Moment σ → List Output → Moment σ → Prop where
  | finish (scopes : List (Scope σ)) (p : Process σ) :
    Next args ⟨.run [], scopes, p⟩ [] ⟨.leave (.ok none), scopes, p⟩
  | perform (action : Action σ) (rest : List (Action σ)) (scopes : List (Scope σ)) (p : Process σ)
    (h : action.opening p = none) :
    Next args ⟨.run (action :: rest), scopes, p⟩ (action.perform args p).output
      ⟨.after (action.perform args p).outcome rest, scopes, (action.perform args p).process⟩
  | enter (action : Action σ) (rest : List (Action σ)) (scopes : List (Scope σ)) (p : Process σ)
    (o : Opening σ) (h : action.opening p = some o) :
    Next args ⟨.run (action :: rest), scopes, p⟩ o.output
      ⟨.run o.body, ⟨o.kind, rest⟩ :: scopes, o.process⟩
  | leave (outcome : Except Unwind (Option Int32)) (kind : ScopeKind σ) (rest : List (Action σ))
    (scopes : List (Scope σ)) (p : Process σ) :
    Next args ⟨.leave outcome, ⟨kind, rest⟩ :: scopes, p⟩ (kind.close outcome p).output
      ⟨.after (kind.close outcome p).outcome rest, scopes, (kind.close outcome p).process⟩

theorem Moment.next_of_step {args : Option ArgVector} {q q' : Moment σ} {out : List Output}
    (h : q.step args = some (out, q')) : q.Next args out q' := by
  rcases q with ⟨(_ | ⟨action, rest⟩) | outcome, scopes, p⟩
  · cases h
    exact .finish scopes p
  · cases ho : action.opening p with
    | none =>
      simp only [step, ho, Option.some.injEq, Prod.mk.injEq] at h
      obtain ⟨rfl, rfl⟩ := h
      exact .perform action rest scopes p ho
    | some o =>
      simp only [step, ho, Option.some.injEq, Prod.mk.injEq] at h
      obtain ⟨rfl, rfl⟩ := h
      exact .enter action rest scopes p o ho
  · rcases scopes with _ | ⟨⟨kind, rest⟩, scopes⟩
    · cases h
    · cases h
      exact .leave outcome kind rest scopes p

/-- The moments from one on up to another, which is not among them, and the output on the way. -/
inductive Path (args : Option ArgVector) :
    Moment σ → List (Moment σ) → List Output → Moment σ → Prop where
  | here (q : Moment σ) : Path args q [] [] q
  | next {q q' r : Moment σ} {moments : List (Moment σ)} {out out' : List Output}
    (step : q.step args = some (out, q')) (path : Path args q' moments out' r) :
    Path args q (q :: moments) (out ++ out') r

namespace Path

variable {args : Option ArgVector} {a b c : Moment σ} {moments moments' : List (Moment σ)}
  {out out' : List Output}

theorem single (step : a.step args = some (out, b)) : Path args a [a] out b := by
  have path := next step (here b)
  rwa [List.append_nil] at path

theorem trans (h : Path args a moments out b) (h' : Path args b moments' out' c) :
    Path args a (moments ++ moments') (out ++ out') c := by
  induction h with
  | here => exact h'
  | next step _ ih =>
    rw [List.append_assoc, List.cons_append]
    exact next step (ih h')

/-- A path that ends where no step leads on is the only one. -/
theorem end_unique (h : Path args a moments out b) (hb : b.step args = none)
    (h' : Path args a moments' out' c) (hc : c.step args = none) :
    moments = moments' ∧ out = out' ∧ b = c := by
  induction h generalizing moments' out' with
  | here =>
    cases h' with
    | here => exact ⟨rfl, rfl, rfl⟩
    | next step => rw [hb] at step; cases step
  | next step _ ih =>
    cases h' with
    | here => rw [hc] at step; cases step
    | next step' path' =>
      rw [step] at step'
      cases step'
      obtain ⟨rfl, rfl, rfl⟩ := ih hb path'
      exact ⟨rfl, rfl, rfl⟩

end Path

/-! ## Moments and runs -/

theorem Run.event_apply (e : Event) (p : Process σ) : Run.event e p = ⟨.ok (), p, [.event e]⟩ := rfl

/-- Performing an action with a body enters the scope, runs the body and leaves the scope. -/
theorem Action.perform_of_opening (args : Option ArgVector) {action : Action σ} {p : Process σ}
    {o : Opening σ} (h : action.opening p = some o) :
    action.perform args p =
      let e := Program.run args o.body o.process
      let l := o.kind.close e.outcome e.process
      ⟨l.outcome, l.process, o.output ++ (e.output ++ l.output)⟩ := by
  cases action with
  | boundary body =>
    cases h
    have hscope := Run.boundary_apply (Program.run args body) p
    rw [Action.perform]
    dsimp only
    rcases hbody : Program.run args body p.deeper with ⟨(fault | text) | value, q, out⟩ <;>
      rw [hbody] at hscope
    · rw [Run.bind_of_ok hscope, Run.bind_of_ok (Run.event_apply _ _)]
      rfl
    · rw [Run.bind_of_error hscope]
      simp [ScopeKind.close]
    · rw [Run.bind_of_ok hscope, Run.bind_of_ok (Run.event_apply _ _)]
      rfl
  | guard body =>
    cases h
    have hscope : (Program.run args body).attempt p = ⟨.ok (Program.run args body p).outcome,
        (Program.run args body p).process, (Program.run args body p).output⟩ := rfl
    rw [Action.perform, Run.bind_of_ok hscope, Run.bind_of_ok (Run.event_apply _ _)]
    rfl
  | within b body =>
    cases h
    have hscope := b.within_apply (Program.run args body) p
    rw [Action.perform]
    dsimp only at hscope ⊢
    rcases hbody : Program.run args body (b.enterFrame p).process with ⟨u | value, q, out⟩ <;>
      rw [hbody] at hscope
    · rw [Run.bind_of_error hscope]
      simp [ScopeKind.close]
    · rw [Run.bind_of_ok hscope, Run.bind_of_ok (Run.event_apply _ _)]
      simp [ScopeKind.close, Run.pure_apply]
  | transition b body =>
    cases h
    have hbody := Run.bind_of_ok (x := Run.event (.frame (b.enter p.frames {} p.runtime).frame))
      (f := fun _ => Program.run args body) (Run.event_apply _ (b.enterFrame p).process)
    have hscope := b.guarded_apply
      (fun frame => do Run.event (.frame frame); Program.run args body) p
    rw [Action.perform]
    dsimp only at hscope ⊢
    rw [hbody] at hscope
    rcases h : Program.run args body (b.enterFrame p).process with ⟨u | value, q, out⟩ <;>
      rw [h] at hscope
    · rw [Run.bind_of_error hscope]
      simp [ScopeKind.close]
    · rw [Run.bind_of_ok hscope]
      dsimp only
      rw [Run.bind_of_ok (Run.event_apply _ _)]
      simp [ScopeKind.close, Run.pure_apply]
  | pinvoke b body =>
    cases h
    have hscope := b.bare_apply (Program.run args body) p
    rw [Action.perform]
    dsimp only at hscope ⊢
    rcases hbody : Program.run args body (b.enterFrame p).process with ⟨u | value, q, out⟩ <;>
      rw [hbody] at hscope
    · rw [Run.bind_of_error hscope]
      simp [ScopeKind.close]
    · rw [Run.bind_of_ok hscope, Run.bind_of_ok (Run.event_apply _ _)]
      simp [ScopeKind.close, Run.pure_apply]
  | observe | arguments | finish | finishCount | raise | panic => cases h

theorem Action.sizeOf_opening {action : Action σ} {p : Process σ} {o : Opening σ}
    (h : action.opening p = some o) : sizeOf o.body < sizeOf action := by
  cases action with
  | boundary | guard | within | transition | pinvoke =>
    cases h
    simp only [Action.boundary.sizeOf_spec, Action.guard.sizeOf_spec, Action.within.sizeOf_spec,
      Action.transition.sizeOf_spec, Action.pinvoke.sizeOf_spec]
    omega
  | observe | arguments | finish | finishCount | raise | panic => cases h

/-- The moments of an action lead to the end that performing it has, if those of its body do. -/
theorem Action.path_of_body (args : Option ArgVector) (action : Action σ) (rest : List (Action σ))
    (scopes : List (Scope σ)) (p : Process σ)
    (hbody : ∀ o, action.opening p = some o → ∀ scopes : List (Scope σ), ∃ moments,
      Path args ⟨.run o.body, scopes, o.process⟩ moments (Program.run args o.body o.process).output
        ⟨.leave (Program.run args o.body o.process).outcome, scopes,
          (Program.run args o.body o.process).process⟩) :
    ∃ moments, Path args ⟨.run (action :: rest), scopes, p⟩ moments (action.perform args p).output
      ⟨.after (action.perform args p).outcome rest, scopes, (action.perform args p).process⟩ := by
  cases h : action.opening p with
  | none => exact ⟨_, .single (by simp [Moment.step, h])⟩
  | some o =>
    obtain ⟨moments, hbody⟩ := hbody o h (⟨o.kind, rest⟩ :: scopes)
    rw [Action.perform_of_opening args h]
    exact ⟨_, .next (by simp [Moment.step, h]) (hbody.trans (.single rfl))⟩

/-- The moments of a body lead from its beginning to the end that running it has. -/
theorem Program.path (args : Option ArgVector) : ∀ (body : List (Action σ)) (p : Process σ)
    (scopes : List (Scope σ)),
    ∃ moments, Path args ⟨.run body, scopes, p⟩ moments (Program.run args body p).output
      ⟨.leave (Program.run args body p).outcome, scopes, (Program.run args body p).process⟩
  | [], p, scopes => ⟨_, .single (by simp [Moment.step, Program.run, Run.pure_apply])⟩
  | action :: rest, p, scopes => by
    -- The body of an action is smaller than the action, whichever kind of scope it opens.
    obtain ⟨moments, hperform⟩ := action.path_of_body args rest scopes p fun o h =>
      have hsize := Action.sizeOf_opening h
      Program.path args o.body o.process
    rw [Program.run]
    rcases h : action.perform args p with ⟨u | (_ | code), q, out⟩ <;> rw [h] at hperform
    · rw [Run.bind_of_error h]
      exact ⟨moments, hperform⟩
    · obtain ⟨moments', hrest⟩ := Program.path args rest q scopes
      rw [Run.bind_of_ok h]
      exact ⟨moments ++ moments', hperform.trans hrest⟩
    · rw [Run.bind_of_ok h]
      dsimp only
      rw [Run.pure_apply, List.append_nil]
      exact ⟨moments, hperform⟩
termination_by body => sizeOf body

theorem Action.path (args : Option ArgVector) (action : Action σ) (rest : List (Action σ))
    (scopes : List (Scope σ)) (p : Process σ) :
    ∃ moments, Path args ⟨.run (action :: rest), scopes, p⟩ moments (action.perform args p).output
      ⟨.after (action.perform args p).outcome rest, scopes, (action.perform args p).process⟩ :=
  action.path_of_body args rest scopes p fun o _ => Program.path args o.body o.process

/-- A moment that execution gets to. -/
def Reaches (args : Option ArgVector) (q r : Moment σ) : Prop :=
  ∃ moments out, Path args q moments out r

namespace Reaches

variable {args : Option ArgVector} {a b c : Moment σ} {out : List Output}

theorem single (step : a.step args = some (out, b)) : Reaches args a b := ⟨_, _, .single step⟩

theorem trans (h : Reaches args a b) (h' : Reaches args b c) : Reaches args a c := by
  obtain ⟨moments, out, path⟩ := h
  obtain ⟨moments', out', path'⟩ := h'
  exact ⟨_, _, path.trans path'⟩

theorem next (h : Reaches args a b) (step : b.step args = some (out, c)) : Reaches args a c :=
  h.trans (.single step)

/-- What every step keeps holds at every moment. -/
theorem invariant {P : Moment σ → Prop}
    (step : ∀ {q q' : Moment σ} {out : List Output}, P q → q.Next args out q' → P q')
    (h : Reaches args a b) (ha : P a) : P b := by
  obtain ⟨moments, out, path⟩ := h
  induction path with
  | here => exact ha
  | next hstep _ ih => exact ih (step ha (Moment.next_of_step hstep))

end Reaches
end ManagedBoot
