import ManagedBoot.Process.Transition
/-!
Managed code as data.

A program is a list of actions that run in order. A body ends at its first `finish`, and its value
is the code given there; a body that runs to its end has no value. Boundaries, catches and
transitions run a body of their own and record how it ended.
-/
namespace ManagedBoot

/-- One action of managed code over a runtime that keeps a `σ`. -/
inductive Action (σ : Type) where
  /-- Records something about the process. -/
  | observe (read : Process σ → Event)
  /-- Records the arguments of the entry point. -/
  | arguments
  /-- Ends the body with a code. -/
  | finish (code : Int32)
  /-- Ends the body with the number of arguments. -/
  | finishCount
  | raise (fault : Fault)
  | panic (text : String)
  /-- A fault boundary. -/
  | boundary (body : List (Action σ))
  /-- A catch of everything. -/
  | guard (body : List (Action σ))
  /-- A transition around the body. -/
  | within (bridge : Bridge σ) (body : List (Action σ))
  /-- A transition that also records its frame inside and afterwards. -/
  | transition (bridge : Bridge σ) (body : List (Action σ))
  /-- Entering and leaving as compiled code does it, without a guard. -/
  | pinvoke (bridge : Bridge σ) (body : List (Action σ))

/-- Managed code. -/
abbrev Program (σ : Type) := List (Action σ)

/-- The code of `finishCount` where there are no arguments. -/
def noArguments : Int32 := -99

mutual

/-- Performs one action. A value means that it ended the body. -/
def Action.perform {σ : Type} (args : Option ArgVector) : Action σ → Run σ (Option Int32)
  | .observe read => do
    Run.event (read (← Run.here))
    return none
  | .arguments => do
    Run.event (.arguments (args.map fun v => (v.argc, v.size, v.toStrings)))
    return none
  | .finish code => return some code
  | .finishCount => return some ((args.map (·.argc)).getD noArguments)
  | .raise fault => Run.raise fault
  | .panic text => Run.panic text
  | .boundary body => do
    Run.event (.boundary (← Run.boundary (Program.run args body)))
    return none
  | .guard body => do
    Run.event (.caught (← Run.attempt (Program.run args body)))
    return none
  | .within bridge body => do
    Run.event (.bridged (← bridge.within (Program.run args body)))
    return none
  | .transition bridge body => do
    let (_, frame) ← bridge.guarded fun frame => do
      Run.event (.frame frame)
      Program.run args body
    Run.event (.after frame)
    return none
  | .pinvoke bridge body => do
    Run.event (.pinvoked (← bridge.bare (Program.run args body)))
    return none

/-- Runs a body and yields its value. -/
def Program.run {σ : Type} (args : Option ArgVector) : List (Action σ) → Run σ (Option Int32)
  | [] => return none
  | action :: rest => do
    match ← Action.perform args action with
    | some code => return some code
    | none => Program.run args rest

end

end ManagedBoot
