import ManagedBoot.Process.Run
/-!
Reverse transitions: native code, reached from managed code, that calls back.

Each transition has a frame of its own, known by a number that is never used again. A bridge is the
runtime's side: it is told of the frame on entry and on leaving. A guarded transition leaves whether
its body returns or unwinds; a bare one leaves only if the body returns.
-/
namespace ManagedBoot

/-- What the runtime did with a frame. It cannot unwind. -/
structure Crossing (σ : Type) where
  frame : TransitionFrame
  runtime : σ
  output : List Output := []

/-- The runtime's side of reverse transitions. A frame comes with its number. -/
structure Bridge (σ : Type) where
  enter : Nat → TransitionFrame → σ → Crossing σ
  leave : Nat → TransitionFrame → σ → Crossing σ

namespace Bridge

variable {σ α : Type}

/-- Makes a frame and enters it. -/
def enterFrame (b : Bridge σ) : Run σ (Nat × TransitionFrame) := fun p =>
  let crossing := b.enter p.frames {} p.runtime
  { outcome := .ok (p.frames, crossing.frame)
    process := { p with runtime := crossing.runtime, frames := p.frames + 1 }
    output := .passage (.enter p.frames {}) :: crossing.output }

/-- Leaves a frame and yields it as the runtime left it. -/
def leaveFrame (b : Bridge σ) (number : Nat) (frame : TransitionFrame) : Run σ TransitionFrame :=
  fun p =>
    let crossing := b.leave number frame p.runtime
    { outcome := .ok crossing.frame
      process := { p with runtime := crossing.runtime }
      output := .passage (.leave number frame) :: crossing.output }

/-- A transition that is left in any case. Yields the body's value and the frame afterwards. -/
def guarded (b : Bridge σ) (body : TransitionFrame → Run σ α) : Run σ (α × TransitionFrame) := do
  let (number, frame) ← b.enterFrame
  let outcome ← (body frame).attempt
  let frame ← b.leaveFrame number frame
  match outcome with
  | .ok a => return (a, frame)
  | .error u => Run.resume u

/-- Runs a body inside a transition. -/
def within (b : Bridge σ) (body : Run σ α) : Run σ α := do
  return (← b.guarded fun _ => body).1

/-- A transition that is left only if the body returns. -/
def bare (b : Bridge σ) (body : Run σ α) : Run σ α := do
  let (number, frame) ← b.enterFrame
  let a ← body
  let _ ← b.leaveFrame number frame
  return a

end Bridge
end ManagedBoot
