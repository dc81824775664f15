import ManagedBoot.Proofs.FaultBoundaries
import Mathlib.Data.List.Basic
/-!
The nesting of reverse transitions.

What a runtime is handed over a run is replayed on a stack of the frames entered and not yet left
(`Replay`): a frame is entered blank and under a number that is not on the stack, and the only frame
that can be left is the one on top, as entering left it. The stack at any moment is read off the
scopes (`entered`), and every step keeps it so (`Moment.Next.replay`). A whole run therefore ends
with the stack it began with, whichever way its scopes are left.

What a runtime keeps is changed by the calls of its bridges and by nothing else. Each call finds what
the one before it left (`BridgeCall.follow`), in the order in which the frames are handed over.
-/
namespace ManagedBoot

variable {σ : Type} {args : Option ArgVector}

/-- A frame that was entered: its number, and its words as the runtime left them on entry. -/
structure Entered where
  number : Nat
  frame : TransitionFrame
  deriving DecidableEq, Repr

/-- A frame in the hands of the runtime. On entry it comes back with new words. -/
inductive Handover where
  | enter (number : Nat) (given kept : TransitionFrame)
  | leave (number : Nat) (given : TransitionFrame)
  deriving DecidableEq, Repr

/-- What an observer sees of a frame that is handed over. -/
def Handover.passage : Handover → Passage
  | .enter number given _ => .enter number given
  | .leave number given => .leave number given

/-- What a call hands over, given what the runtime keeps. -/
def BridgeCall.handover (runtime : σ) : BridgeCall σ → Handover
  | .enter b number => .enter number {} (b.enter number {} runtime).frame
  | .leave _ number frame => .leave number frame

/-- What the runtime keeps after calls that are made one after another. -/
def BridgeCall.follow (runtime : σ) (calls : List (BridgeCall σ)) : σ :=
  calls.foldl (fun runtime call => (call.cross runtime).runtime) runtime

/-- What calls hand over that are made one after another. -/
def BridgeCall.handovers (runtime : σ) : List (BridgeCall σ) → List Handover
  | [] => []
  | call :: rest =>
    call.handover runtime :: BridgeCall.handovers (call.cross runtime).runtime rest

/-- What leaving a frame hands over. -/
def Entered.leave (f : Entered) : Handover := .leave f.number f.frame

/-- The frames entered before and after a run of handovers. The frame entered last comes first. -/
inductive Replay : List Entered → List Handover → List Entered → Prop where
  | done (stack : List Entered) : Replay stack [] stack
  | enter {stack final : List Entered} {rest : List Handover} {number : Nat}
    {kept : TransitionFrame} (fresh : ∀ f ∈ stack, f.number ≠ number)
    (replay : Replay (⟨number, kept⟩ :: stack) rest final) :
    Replay stack (.enter number {} kept :: rest) final
  | leave {stack final : List Entered} {rest : List Handover} (f : Entered)
    (replay : Replay stack rest final) : Replay (f :: stack) (f.leave :: rest) final

theorem Replay.trans {a b c : List Entered} {handed handed' : List Handover}
    (h : Replay a handed b) (h' : Replay b handed' c) : Replay a (handed ++ handed') c := by
  induction h with
  | done => exact h'
  | enter fresh _ ih => exact .enter fresh (ih h')
  | leave f _ ih => exact .leave f (ih h')

/-! ## Guarded programs -/

mutual

/-- Whether every transition in the action is guarded. -/
def Action.isGuarded : Action σ → Bool
  | .boundary body => Program.isGuarded body
  | .guard body => Program.isGuarded body
  | .within _ body => Program.isGuarded body
  | .transition _ body => Program.isGuarded body
  | .pinvoke _ _ => false
  | .observe _ | .arguments | .finish _ | .finishCount | .raise _ | .panic _ => true

/-- Whether every transition in the program is guarded. -/
def Program.isGuarded : List (Action σ) → Bool
  | [] => true
  | action :: rest => action.isGuarded && Program.isGuarded rest

end

def ScopeKind.isBare : ScopeKind σ → Bool
  | .pinvoke _ _ _ => true
  | _ => false

/-- The frame of a scope, if it is a transition. -/
def ScopeKind.entered : ScopeKind σ → Option Entered
  | .boundary | .guard => none
  | .within _ number frame | .transition _ number frame | .pinvoke _ number frame =>
    some ⟨number, frame⟩

/-- The frames entered and not yet left, innermost first. -/
def entered (scopes : List (Scope σ)) : List Entered := scopes.filterMap (·.kind.entered)

/-- A scope that is left in any case, with guarded code after it. -/
def Scope.Guarded (s : Scope σ) : Prop := s.kind.isBare = false ∧ Program.isGuarded s.rest = true

/-- The code that is to be run next. -/
def Control.code : Control σ → List (Action σ)
  | .run body => body
  | .leave _ => []

namespace Moment

/-- What the next step hands to the runtime. -/
def handover (q : Moment σ) : Option Handover := q.call.map (·.handover q.process.runtime)

/-- A moment of guarded code, where no frame made later will have the number of one entered. -/
structure Nested (older : List Entered) (q : Moment σ) : Prop where
  code : Program.isGuarded q.control.code = true
  scopes : ∀ s ∈ q.scopes, s.Guarded
  fresh : ∀ f ∈ entered q.scopes ++ older, f.number < q.process.frames

end Moment

/-! ## One step -/

theorem Control.isGuarded_after {rest : List (Action σ)} (h : Program.isGuarded rest = true)
    (outcome : Except Unwind (Option Int32)) :
    Program.isGuarded (Control.after outcome rest).code = true := by
  rcases outcome with u | _ | code
  · rfl
  · exact h
  · rfl

theorem ScopeKind.close_frames (kind : ScopeKind σ) (outcome : Except Unwind (Option Int32))
    (p : Process σ) : (kind.close outcome p).process.frames = p.frames := by
  rcases outcome with (fault | text) | value <;> cases kind <;> rfl

/-- What a step shows of frames is what it hands over and what the runtime shows itself. -/
theorem Moment.Next.passages {q q' : Moment σ} {out : List Output} (step : q.Next args out q') :
    Output.passages out =
      (q.handover.map Handover.passage).toList ++ Output.passages q.crossed := by
  cases step with
  | finish => rfl
  | perform action rest scopes p ho =>
    cases action with
    | boundary | guard | within | transition | pinvoke => cases ho
    | raise fault =>
      simp only [Action.perform, Run.raise, Moment.handover, Moment.crossed, Moment.call]
      split <;> rfl
    | observe | arguments | finish | finishCount | panic => rw [Action.perform]; rfl
  | enter action rest scopes p o ho =>
    cases action with
    | boundary | guard => cases ho; rfl
    | within | transition | pinvoke =>
      cases ho
      simp [Output.passages, Moment.handover, Moment.crossed, Moment.call, BridgeCall.cross,
        BridgeCall.handover, Handover.passage, Bridge.enterFrame]
    | observe | arguments | finish | finishCount | raise | panic => cases ho
  | leave outcome kind rest scopes p =>
    rcases outcome with (fault | text) | value <;> cases kind <;>
      simp [Output.passages, Moment.handover, Moment.crossed, Moment.call, BridgeCall.cross,
        BridgeCall.handover, Handover.passage, Bridge.leaveFrame, ScopeKind.close]

/-- After a step the runtime keeps what the call made of it, and what it kept before if there was no
call. -/
theorem Moment.Next.follow {q q' : Moment σ} {out : List Output} (step : q.Next args out q') :
    q'.process.runtime = BridgeCall.follow q.process.runtime q.call.toList := by
  cases step with
  | finish => rfl
  | perform action rest scopes p ho =>
    rw [Action.perform_process ho]
    cases action with
    | boundary | guard | within | transition | pinvoke => cases ho
    | observe | arguments | finish | finishCount | raise | panic => rfl
  | enter action rest scopes p o ho =>
    cases action with
    | boundary | guard | within | transition | pinvoke => cases ho; rfl
    | observe | arguments | finish | finishCount | raise | panic => cases ho
  | leave outcome kind rest scopes p =>
    rcases outcome with (fault | text) | value <;> cases kind <;> rfl

/-- A step of guarded code replays on the frames entered. -/
theorem Moment.Next.replay {older : List Entered} {q q' : Moment σ} {out : List Output}
    (step : q.Next args out q') (h : q.Nested older) :
    q'.Nested older ∧
      Replay (entered q.scopes ++ older) q.handover.toList (entered q'.scopes ++ older) := by
  obtain ⟨hcode, hscopes, hfresh⟩ := h
  cases step with
  | finish => exact ⟨⟨rfl, hscopes, hfresh⟩, .done _⟩
  | perform action rest scopes p ho =>
    simp only [Control.code, Program.isGuarded, Bool.and_eq_true] at hcode
    refine ⟨⟨Control.isGuarded_after hcode.2 _, hscopes, ?_⟩, ?_⟩
    · rw [Action.perform_process ho]
      exact hfresh
    · cases action with
      | boundary | guard | within | transition | pinvoke => cases ho
      | observe | arguments | finish | finishCount | raise | panic => exact .done _
  | enter action rest scopes p o ho =>
    simp only [Control.code, Program.isGuarded, Bool.and_eq_true] at hcode
    obtain ⟨haction, hrest⟩ := hcode
    cases action with
    | boundary body | guard body =>
      cases ho
      refine ⟨⟨haction, ?_, hfresh⟩, .done _⟩
      exact List.forall_mem_cons.mpr ⟨⟨rfl, hrest⟩, hscopes⟩
    | within b body | transition b body =>
      cases ho
      -- The new frame's number is the next one, so every frame entered has a smaller one.
      refine ⟨⟨haction, ?_, ?_⟩, .enter ?_ (.done _)⟩
      · exact List.forall_mem_cons.mpr ⟨⟨rfl, hrest⟩, hscopes⟩
      · exact List.forall_mem_cons.mpr
          ⟨Nat.lt_succ_self _, fun f hf => Nat.lt_succ_of_lt (hfresh f hf)⟩
      · exact fun f hf => Nat.ne_of_lt (hfresh f hf)
    | pinvoke => cases haction
    | observe | arguments | finish | finishCount | raise | panic => cases ho
  | leave outcome kind rest scopes p =>
    obtain ⟨⟨hbare, hrest⟩, houter⟩ := List.forall_mem_cons.mp hscopes
    have hafter := Control.isGuarded_after hrest (kind.close outcome p).outcome
    cases kind with
    | boundary | guard =>
      refine ⟨⟨hafter, houter, ?_⟩, .done _⟩
      rw [ScopeKind.close_frames]
      exact hfresh
    | within b number frame | transition b number frame =>
      refine ⟨⟨hafter, houter, ?_⟩, .leave ⟨number, frame⟩ (.done _)⟩
      rw [ScopeKind.close_frames]
      exact fun f hf => hfresh f (List.mem_cons_of_mem _ hf)
    | pinvoke => cases hbare

/-! ## Whole executions -/

/-- What a run of steps hands to the runtime. -/
def handovers (moments : List (Moment σ)) : List Handover := moments.filterMap Moment.handover

/-- The calls of bridges that a run of steps makes. -/
def bridgeCalls (moments : List (Moment σ)) : List (BridgeCall σ) := moments.filterMap Moment.call

theorem handovers_cons (q : Moment σ) (moments : List (Moment σ)) :
    handovers (q :: moments) = q.handover.toList ++ handovers moments := by
  simp only [handovers, List.filterMap_eq_flatMap_toList, List.flatMap_cons]

theorem bridgeCalls_cons (q : Moment σ) (moments : List (Moment σ)) :
    bridgeCalls (q :: moments) = q.call.toList ++ bridgeCalls moments := by
  simp only [bridgeCalls, List.filterMap_eq_flatMap_toList, List.flatMap_cons]

theorem Path.passages {q r : Moment σ} {moments : List (Moment σ)} {out : List Output}
    (h : Path args q moments out r) :
    Output.passages out = moments.flatMap fun m =>
      (m.handover.map Handover.passage).toList ++ Output.passages m.crossed := by
  induction h with
  | here => rfl
  | next step _ ih =>
    have hstep := (Moment.next_of_step step).passages
    rw [List.flatMap_cons, ← ih, ← hstep]
    exact List.filterMap_append

/-- Along a run of steps the runtime follows the calls. -/
theorem Path.follow {q r : Moment σ} {moments : List (Moment σ)} {out : List Output}
    (h : Path args q moments out r) :
    handovers moments = BridgeCall.handovers q.process.runtime (bridgeCalls moments) ∧
      r.process.runtime = BridgeCall.follow q.process.runtime (bridgeCalls moments) := by
  induction h with
  | here => exact ⟨rfl, rfl⟩
  | @next q _ _ _ _ _ step _ ih =>
    obtain ⟨hhanded, hruntime⟩ := ih
    have hstep := (Moment.next_of_step step).follow
    -- The rest starts from what the call of this step left, if it made one.
    rw [handovers_cons, bridgeCalls_cons, hhanded, hruntime, hstep, Moment.handover]
    cases q.call with
    | none => exact ⟨rfl, rfl⟩
    | some call => exact ⟨rfl, rfl⟩

theorem Path.replay {older : List Entered} {q r : Moment σ} {moments : List (Moment σ)}
    {out : List Output} (h : Path args q moments out r) (hq : q.Nested older) :
    r.Nested older ∧
      Replay (entered q.scopes ++ older) (handovers moments) (entered r.scopes ++ older) := by
  induction h with
  | here q => exact ⟨hq, .done _⟩
  | next step _ ih =>
    obtain ⟨hnext, hstep⟩ := (Moment.next_of_step step).replay hq
    obtain ⟨hr, hrest⟩ := ih hnext
    rw [handovers_cons]
    exact ⟨hr, hstep.trans hrest⟩

/-- Unwinding leaves the frames of the scopes it passes, innermost first, and touches no other. -/
theorem Path.unwinds {u : Unwind} (scopes : List (Scope σ)) :
    ∀ (inner : List (Scope σ)) (p : Process σ),
    (∀ s ∈ inner, s.kind.catches u = false ∧ s.kind.isBare = false) →
    ∃ moments out q, Path args ⟨.leave (.error u), inner ++ scopes, p⟩ moments out
        ⟨.leave (.error u), scopes, q⟩ ∧
      handovers moments = (entered inner).map Entered.leave
  | [], p, _ => ⟨[], [], p, .here _, rfl⟩
  | ⟨kind, rest⟩ :: inner, p, passes => by
    obtain ⟨hpass, hbare⟩ := passes _ List.mem_cons_self
    obtain ⟨moments, out, q, path, hhanded⟩ := unwinds scopes inner
      (kind.close (.error u) p).process fun s hs => passes s (List.mem_cons_of_mem _ hs)
    have step : Moment.step args ⟨.leave (.error u), ⟨kind, rest⟩ :: inner ++ scopes, p⟩ =
        some ((kind.close (.error u) p).output,
          ⟨.leave (.error u), inner ++ scopes, (kind.close (.error u) p).process⟩) := by
      rw [List.cons_append, Moment.step, ScopeKind.close_outcome hpass]
      rfl
    refine ⟨_, _, q, .next step path, ?_⟩
    rw [handovers_cons, hhanded]
    cases kind with
    | boundary | guard | within | transition => rfl
    | pinvoke => cases hbare

/-! ## Balance -/

/-- How the transitions of a body balance that runs from the process `p`, where `older` are the
frames entered before. -/
structure Balanced (args : Option ArgVector) (body : List (Action σ)) (older : List Entered)
    (p : Process σ) : Prop where
  /-- What the whole run hands over, which is what it shows of frames apart from what the runtime
  shows itself, leads from the frames entered before back to them. -/
  whole : ∃ moments,
    Path args ⟨.run body, [], p⟩ moments (Program.run args body p).output
      ⟨.leave (Program.run args body p).outcome, [], (Program.run args body p).process⟩ ∧
    (Output.passages (Program.run args body p).output = moments.flatMap fun m =>
      (m.handover.map Handover.passage).toList ++ Output.passages m.crossed) ∧
    Replay older (handovers moments) older
  /-- The runtime keeps at any moment what the calls of the bridges made of what it kept at the
  start, one after another in the order of the handovers. -/
  follows : ∀ moments out m, Path args ⟨.run body, [], p⟩ moments out m →
    handovers moments = BridgeCall.handovers p.runtime (bridgeCalls moments) ∧
    m.process.runtime = BridgeCall.follow p.runtime (bridgeCalls moments)
  /-- At any moment the frames entered are those of the scopes. -/
  standing : ∀ moments out m, Path args ⟨.run body, [], p⟩ moments out m →
    Replay older (handovers moments) (entered m.scopes ++ older)
  /-- An action, a scope among others, is left with the frames entered as it was begun with. -/
  left : ∀ action rest scopes q,
    Reaches args ⟨.run body, [], p⟩ ⟨.run (action :: rest), scopes, q⟩ →
    ∃ moments,
      Path args ⟨.run (action :: rest), scopes, q⟩ moments (action.perform args q).output
        ⟨.after (action.perform args q).outcome rest, scopes, (action.perform args q).process⟩ ∧
      Replay (entered scopes ++ older) (handovers moments) (entered scopes ++ older)
  /-- Unwinding to an outer point leaves the frames inside, and no others. -/
  unwound : ∀ u inner scopes q,
    Reaches args ⟨.run body, [], p⟩ ⟨.leave (.error u), inner ++ scopes, q⟩ →
    (∀ s ∈ inner, s.kind.catches u = false) →
    ∃ moments out r,
      Path args ⟨.leave (.error u), inner ++ scopes, q⟩ moments out
        ⟨.leave (.error u), scopes, r⟩ ∧
      handovers moments = (entered inner).map Entered.leave
  /-- A transition passes on the value of its body, or what unwound it. -/
  passes : ∀ (α : Type) (b : Bridge σ) (x : Run σ α) (q : Process σ),
    (b.within x q).outcome = (x (b.enterFrame q).process).outcome

/-- The transitions of guarded code balance. -/
theorem Program.run_balanced (args : Option ArgVector) (body : List (Action σ))
    (older : List Entered) (p : Process σ) (guarded : Program.isGuarded body = true)
    (fresh : ∀ f ∈ older, f.number < p.frames) : Balanced args body older p := by
  have start : Moment.Nested older ⟨.run body, [], p⟩ := ⟨guarded, by simp, fresh⟩
  have nested : ∀ m, Reaches args ⟨.run body, [], p⟩ m → m.Nested older := by
    rintro m ⟨moments, out, path⟩
    exact (path.replay start).1
  obtain ⟨moments, path⟩ := Program.path args body p []
  exact {
    whole := ⟨moments, path, path.passages, (path.replay start).2⟩
    follows := fun _ _ _ path => path.follow
    standing := fun _ _ _ path => (path.replay start).2
    left := by
      intro action rest scopes q h
      obtain ⟨moments, path⟩ := Action.path args action rest scopes q
      exact ⟨moments, path, (path.replay (nested _ h)).2⟩
    unwound := by
      intro u inner scopes q h passes
      exact Path.unwinds scopes inner q fun s hs =>
        ⟨passes s hs, ((nested _ h).scopes s (List.mem_append_left _ hs)).1⟩
    passes := by
      intro α b x q
      rw [Bridge.within_apply]
  }

/-- A bridge that marks the frames it enters, and keeps the numbers of those it has not left. -/
def markingBridge : Bridge (List Nat) where
  enter number frame held := ⟨{ frame with savedThread := 7 }, number :: held, []⟩
  leave number frame held := ⟨frame, held.erase number, []⟩

/-- A fault that leaves two transitions for a boundary, and a third transition that returns. -/
def faultingTransitions : Program (List Nat) := [
  .boundary [.within markingBridge [
    .within markingBridge [.raise (.unimplementedRuntimeMethod "__fail_fast")]]],
  .within markingBridge [.finish 3]]

/-- The fault leaves both frames, and not the one entered before. -/
theorem faultingTransitions_balanced :
    Program.isGuarded faultingTransitions = true ∧
    Balanced none faultingTransitions [⟨0, {}⟩] ⟨[0], 0, 1⟩ ∧
    Output.passages (Program.run none faultingTransitions ⟨[0], 0, 1⟩).output = [
      .enter 1 {}, .enter 2 {}, .leave 2 ⟨0, 7⟩, .leave 1 ⟨0, 7⟩,
      .enter 3 {}, .leave 3 ⟨0, 7⟩] ∧
    (Program.run none faultingTransitions ⟨[0], 0, 1⟩).process.runtime = [0] :=
  ⟨rfl, Program.run_balanced none _ _ _ rfl (by simp), rfl, rfl⟩

end ManagedBoot
