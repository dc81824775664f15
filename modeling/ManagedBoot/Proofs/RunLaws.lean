import ManagedBoot.Process.Transition
/-!
How runs compose.

Runs obey the laws of a monad. `effect` is what a run leads to, apart from what it shows: its
outcome and the process afterwards. The effect of a sequence follows from the effects of its parts,
and code that only adds to the output has none.
-/
namespace ManagedBoot

variable {σ τ α β : Type}

/-- The process inside one more boundary. -/
def Process.deeper (p : Process σ) : Process σ := { p with depth := p.depth + 1 }

/-- The process outside one boundary. -/
def Process.shallower (p : Process σ) : Process σ := { p with depth := p.depth - 1 }

namespace Run

theorem pure_apply (a : α) (p : Process σ) : (pure a : Run σ α) p = ⟨.ok a, p, []⟩ := rfl

theorem bind_of_ok {x : Run σ α} {f : α → Run σ β} {p q : Process σ} {a : α} {out : List Output}
    (h : x p = ⟨.ok a, q, out⟩) :
    (x >>= f) p = ⟨(f a q).outcome, (f a q).process, out ++ (f a q).output⟩ := by
  show Run.bind x f p = _
  rw [Run.bind, h]

theorem bind_of_error {x : Run σ α} {f : α → Run σ β} {p q : Process σ} {u : Unwind}
    {out : List Output} (h : x p = ⟨.error u, q, out⟩) : (x >>= f) p = ⟨.error u, q, out⟩ := by
  show Run.bind x f p = _
  rw [Run.bind, h]

instance : LawfulMonad (Run σ) := LawfulMonad.mk' (Run σ)
  (by
    intro α x
    funext p
    show (x >>= pure) p = x p
    rcases h : x p with ⟨u | a, q, out⟩
    · rw [bind_of_error h]
    · rw [bind_of_ok h, pure_apply, List.append_nil])
  (by
    intro α β a f
    funext p
    rw [bind_of_ok (pure_apply a p)]
    rfl)
  (by
    intro α β γ x f g
    funext p
    rcases h : x p with ⟨u | a, q, out⟩
    · rw [bind_of_error h, bind_of_error (bind_of_error h)]
    · rcases h' : f a q with ⟨u | b, r, out'⟩
      · have hb : (x >>= f) p = ⟨.error u, r, out ++ out'⟩ := by rw [bind_of_ok h, h']
        rw [bind_of_error hb, bind_of_ok h, bind_of_error h']
      · have hb : (x >>= f) p = ⟨.ok b, r, out ++ out'⟩ := by rw [bind_of_ok h, h']
        rw [bind_of_ok hb, bind_of_ok h, bind_of_ok h', List.append_assoc])

/-- What a run leads to: its outcome and the process afterwards. -/
def effect (x : Run σ α) (p : Process σ) : Except Unwind α × Process σ :=
  ((x p).outcome, (x p).process)

@[simp] theorem effect_pure (a : α) (p : Process σ) :
    effect (pure a : Run σ α) p = (.ok a, p) := rfl

/-- The effect of a sequence, from the effect of its first part. -/
@[simp] theorem effect_bind (x : Run σ α) (f : α → Run σ β) (p : Process σ) :
    effect (x >>= f) p =
      match effect x p with
      | (.error u, q) => (.error u, q)
      | (.ok a, q) => effect (f a) q := by
  rcases h : x p with ⟨u | a, q, out⟩
  · simp only [effect, bind_of_error h, h]
  · simp only [effect, bind_of_ok h, h]

@[simp] theorem effect_map (f : α → β) (x : Run σ α) (p : Process σ) :
    effect (f <$> x) p = ((effect x p).1.map f, (effect x p).2) := by
  rw [← bind_pure_comp, effect_bind]
  rcases effect x p with ⟨u | a, q⟩ <;> rfl

@[simp] theorem effect_log (level : Level) (target message : String) (p : Process σ) :
    effect (log level target message) p = (.ok (), p) := rfl

@[simp] theorem effect_get (p : Process σ) : effect get p = (.ok p.runtime, p) := rfl

@[simp] theorem effect_set (s : σ) (p : Process σ) :
    effect (set s) p = (.ok (), { p with runtime := s }) := rfl

@[simp] theorem effect_apart (own : σ) (x : Run σ α) (p : Process τ) :
    effect (apart own x : Run τ (α × σ)) p =
      ((effect x ⟨own, p.depth, p.frames⟩).1.map (·, (effect x ⟨own, p.depth, p.frames⟩).2.runtime),
        ⟨p.runtime, (effect x ⟨own, p.depth, p.frames⟩).2.depth,
          (effect x ⟨own, p.depth, p.frames⟩).2.frames⟩) := rfl

/-- A boundary runs its body one boundary deeper, turns a fault of it into a value and lets a panic
pass. -/
theorem boundary_apply (x : Run σ α) (p : Process σ) :
    boundary x p =
      match x p.deeper with
      | ⟨.ok a, q, out⟩ => ⟨.ok (.ok a), q.shallower, out⟩
      | ⟨.error (.fault fault), q, out⟩ => ⟨.ok (.error fault), q.shallower, out⟩
      | ⟨.error (.panic text), q, out⟩ => ⟨.error (.panic text), q.shallower, out⟩ := by
  have hattempt : attempt (deeper x) p =
      ⟨.ok (x p.deeper).outcome, (x p.deeper).process.shallower, (x p.deeper).output⟩ := rfl
  rw [boundary, bind_of_ok hattempt]
  rcases x p.deeper with ⟨(fault | text) | a, q, out⟩ <;> simp [pure_apply, resume]

theorem effect_boundary (x : Run σ α) (p : Process σ) :
    effect (boundary x) p =
      (match (effect x p.deeper).1 with
        | .ok a => .ok (.ok a)
        | .error (.fault fault) => .ok (.error fault)
        | .error (.panic text) => .error (.panic text),
        (effect x p.deeper).2.shallower) := by
  simp only [effect, boundary_apply]
  rcases x p.deeper with ⟨(fault | text) | a, q, out⟩ <;> rfl

end Run

namespace Bridge

theorem enterFrame_apply (b : Bridge σ) (p : Process σ) :
    b.enterFrame p = ⟨.ok (p.frames, (b.enter p.frames {} p.runtime).frame),
      (b.enterFrame p).process, (b.enterFrame p).output⟩ := rfl

theorem leaveFrame_apply (b : Bridge σ) (number : Nat) (frame : TransitionFrame) (p : Process σ) :
    b.leaveFrame number frame p = ⟨.ok (b.leave number frame p.runtime).frame,
      (b.leaveFrame number frame p).process, (b.leaveFrame number frame p).output⟩ := rfl

/-- A guarded transition enters its frame, runs the body and leaves the frame, whatever the outcome
of the body. -/
theorem guarded_apply (b : Bridge σ) (body : TransitionFrame → Run σ α) (p : Process σ) :
    b.guarded body p =
      let frame := (b.enter p.frames {} p.runtime).frame
      let e := body frame (b.enterFrame p).process
      let l := b.leaveFrame p.frames frame e.process
      ⟨e.outcome.map (·, (b.leave p.frames frame e.process.runtime).frame), l.process,
        (b.enterFrame p).output ++ e.output ++ l.output⟩ := by
  have hattempt : ∀ frame q, (body frame).attempt q =
      ⟨.ok (body frame q).outcome, (body frame q).process, (body frame q).output⟩ :=
    fun _ _ => rfl
  rw [guarded, Run.bind_of_ok (b.enterFrame_apply p)]
  dsimp only
  rw [Run.bind_of_ok (hattempt _ _), Run.bind_of_ok (b.leaveFrame_apply _ _ _)]
  rcases body _ (b.enterFrame p).process with ⟨u | a, q, out⟩ <;>
    simp [Run.pure_apply, Run.resume, Except.map]

/-- A transition around a body passes its value on. -/
theorem within_apply (b : Bridge σ) (body : Run σ α) (p : Process σ) :
    b.within body p =
      let e := body (b.enterFrame p).process
      let l := b.leaveFrame p.frames (b.enter p.frames {} p.runtime).frame e.process
      ⟨e.outcome, l.process, (b.enterFrame p).output ++ e.output ++ l.output⟩ := by
  have hguarded := b.guarded_apply (fun _ => body) p
  dsimp only at hguarded ⊢
  rw [within]
  rcases h : body (b.enterFrame p).process with ⟨u | a, q, out⟩ <;> rw [h] at hguarded
  · rw [Run.bind_of_error hguarded]
  · rw [Run.bind_of_ok hguarded, Run.pure_apply, List.append_nil]

/-- A bare transition leaves its frame only if the body returns. -/
theorem bare_apply (b : Bridge σ) (body : Run σ α) (p : Process σ) :
    b.bare body p =
      match body (b.enterFrame p).process with
      | ⟨.ok a, q, out⟩ =>
        let l := b.leaveFrame p.frames (b.enter p.frames {} p.runtime).frame q
        ⟨.ok a, l.process, (b.enterFrame p).output ++ out ++ l.output⟩
      | ⟨.error u, q, out⟩ => ⟨.error u, q, (b.enterFrame p).output ++ out⟩ := by
  rw [bare, Run.bind_of_ok (b.enterFrame_apply p)]
  dsimp only
  rcases h : body (b.enterFrame p).process with ⟨u | a, q, out⟩
  · rw [Run.bind_of_error h]
  · rw [Run.bind_of_ok h, Run.bind_of_ok (b.leaveFrame_apply _ _ _)]
    simp [Run.pure_apply]

end Bridge
end ManagedBoot
