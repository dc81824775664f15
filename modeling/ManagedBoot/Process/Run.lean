import ManagedBoot.Process.Event
/-!
Running code that may unwind.

A run starts from the state of a process and ends with an outcome, the state after it and what an
observer saw. The state is what the collaborators keep (`runtime`), the number of fault boundaries
now entered and the number of transition frames made so far. Code can add to the output but never
read it.

`raise` reports a fault on the error stream if no boundary is entered. `boundary` turns a fault of
its body into a value and lets any other panic pass; either way the depth afterwards is the depth
before. `attempt` catches everything.
-/
namespace ManagedBoot

/-- The state of a process between two steps of its code. -/
structure Process (σ : Type) where
  runtime : σ
  depth : Nat := 0
  frames : Nat := 0

/-- How a run ended. -/
structure Ending (σ α : Type) where
  outcome : Except Unwind α
  process : Process σ
  output : List Output

/-- Code that yields an `α` or unwinds, over a runtime that keeps a `σ`. -/
def Run (σ α : Type) : Type := Process σ → Ending σ α

namespace Run

variable {σ τ α β : Type}

/-- Code that yields a value and does nothing else. -/
protected def pure (a : α) : Run σ α := fun p => ⟨.ok a, p, []⟩

/-- One piece of code and then, if it returned, another. -/
protected def bind (first : Run σ α) (next : α → Run σ β) : Run σ β := fun p =>
  match first p with
  | ⟨.error u, p, out⟩ => ⟨.error u, p, out⟩
  | ⟨.ok a, p, out⟩ =>
    let last := next a p
    { last with output := out ++ last.output }

instance : Monad (Run σ) where
  pure := Run.pure
  bind := Run.bind

/-- Code that only adds to the output. -/
def emit (out : List Output) : Run σ Unit := fun p => ⟨.ok (), p, out⟩

def event (e : Event) : Run σ Unit := emit [.event e]

def log (level : Level) (target message : String) : Run σ Unit :=
  emit [.log ⟨level, target, message⟩]

/-- Writes to a stream of the process. -/
def write (stream : Stream) (bytes : List UInt8) : Run σ Unit := emit [.text stream bytes]

/-- The process as it is now. -/
def here : Run σ (Process σ) := fun p => ⟨.ok p, p, []⟩

/-- What the runtime keeps. -/
def get : Run σ σ := fun p => ⟨.ok p.runtime, p, []⟩

def set (s : σ) : Run σ Unit := fun p => ⟨.ok (), { p with runtime := s }, []⟩

def modify (f : σ → σ) : Run σ Unit := fun p => ⟨.ok (), { p with runtime := f p.runtime }, []⟩

/-- Runs code over a part of what the runtime keeps. The rest stays as it is. -/
def zoom (part : τ → σ) (replace : τ → σ → τ) (body : Run σ α) : Run τ α := fun p =>
  let ending := body ⟨part p.runtime, p.depth, p.frames⟩
  { outcome := ending.outcome
    process := ⟨replace p.runtime ending.process.runtime, ending.process.depth,
      ending.process.frames⟩
    output := ending.output }

/-- Runs code with a runtime of its own and yields what that runtime keeps afterwards. -/
def apart (own : σ) (body : Run σ α) : Run τ (α × σ) := fun p =>
  let ending := body ⟨own, p.depth, p.frames⟩
  { outcome := ending.outcome.map (·, ending.process.runtime)
    process := ⟨p.runtime, ending.process.depth, ending.process.frames⟩
    output := ending.output }

/-- Where the records about faults come from. -/
def faultTarget : String := "aotboot_rt::fault"

/-- Unwinds with a fault. With no boundary entered its report goes to the error stream at once. -/
def raise (fault : Fault) : Run σ α := fun p =>
  { outcome := .error (.fault fault)
    process := p
    output := .log ⟨.debug, faultTarget, "Raising fault: " ++ fault.message⟩ ::
      if p.depth = 0 then [.text .stderr fault.reportBytes] else [] }

/-- Unwinds with an ordinary panic. -/
def panic (text : String) : Run σ α := fun p =>
  ⟨.error (.panic text), p, [.event (.panicHook text)]⟩

/-- Unwinds with something that was caught before, without any notice. -/
def resume (u : Unwind) : Run σ α := fun p => ⟨.error u, p, []⟩

/-- Runs code and yields its outcome, whatever it is. -/
def attempt (body : Run σ α) : Run σ (Except Unwind α) := fun p =>
  let ending := body p
  { ending with outcome := .ok ending.outcome }

/-- Runs code one boundary deeper. -/
def deeper (body : Run σ α) : Run σ α := fun p =>
  let ending := body { p with depth := p.depth + 1 }
  { ending with process := { ending.process with depth := ending.process.depth - 1 } }

/-- Runs code inside a fault boundary. -/
def boundary (body : Run σ α) : Run σ (Except Fault α) := do
  match ← attempt (deeper body) with
  | .ok a => return .ok a
  | .error (.fault fault) => return .error fault
  | .error (.panic text) => resume (.panic text)

/-- Runs code from a fresh process. -/
def start (body : Run σ α) (runtime : σ) : Ending σ α := body { runtime := runtime }

end Run
end ManagedBoot
