import ManagedBoot.Boot.Error
import ManagedBoot.Boot.Platform
/-!
The start-up of a process, step by step.

The steps run in a fixed order, and the first that fails ends the start-up. Module initializers and
the entry point run inside a fault boundary each; a fault there is reported and becomes the exit
code. Whoever returns or faults there, the shutdown step follows; an ordinary panic passes through.

A session keeps, beside the runtime's own state, the milestones of the start-up: the steps entered
and the calls made, in order. Collaborators see neither those nor the sink.
-/
namespace ManagedBoot

/-- The steps, in the order in which they run. -/
inductive BootStep where
  | palInit
  | runtimeAttach
  | conservativeStackScan
  | imageRegistration
  | moduleInit
  | managedMain
  | shutdown
  deriving DecidableEq, Repr

namespace BootStep

def all : List BootStep := [
  .palInit, .runtimeAttach, .conservativeStackScan, .imageRegistration, .moduleInit,
  .managedMain, .shutdown]

def name : BootStep → String
  | .palInit => "pal-init"
  | .runtimeAttach => "runtime-attach"
  | .conservativeStackScan => "conservative-stack-scan"
  | .imageRegistration => "image-registration"
  | .moduleInit => "module-init"
  | .managedMain => "managed-main"
  | .shutdown => "shutdown"

end BootStep

/-- A call to a collaborator, with what it was given. -/
inductive Call where
  | palInit
  | attach
  | stackScan
  | image
  | registerImage (image : Image)
  | imageLayout
  | collect
  | initializeModules (list : ModuleList)
  | invoke (args : ArgVector)

inductive Milestone where
  | step (step : BootStep)
  | call (call : Call)

/-- A start-up in progress. -/
structure Session (σ : Type) where
  runtime : σ
  milestones : List Milestone := []
  sink : Sink := {}

/-- Where fault reports go. -/
inductive Destination where
  | sink
  | stream (stream : Stream)
  deriving DecidableEq, Repr

/-- What a start-up needs. -/
structure Initializer (σ : Type) where
  platform : Platform σ
  source : Source σ
  /-- Where `run` reports faults. -/
  stream : Stream := .stdout

namespace Session

variable {σ α : Type}

def target : String := "aotboot_rt::init"

/-- Notes a milestone. -/
def reach (m : Milestone) : Run (Session σ) Unit :=
  Run.modify fun s => { s with milestones := s.milestones ++ [m] }

/-- Enters a step. `detail` follows its name in the log. -/
def enter (step : BootStep) (detail : String) : Run (Session σ) Unit := do
  reach (.step step)
  Run.log .debug target ("Bootstrap step: " ++ step.name ++ detail)

/-- Calls a collaborator. -/
def call (c : Call) (body : Run σ α) : Run (Session σ) α := do
  reach (.call c)
  Run.zoom (·.runtime) (fun s r => { s with runtime := r }) body

/-- Tells of a failed start-up and yields the exit code. -/
def fail (e : BootError) : Run (Session σ) Int32 := do
  Run.log .error target ("Bootstrap failed: " ++ e.message)
  return e.exitCode

/-- Reports a fault and yields the exit code, which a failing report does not change. -/
def reportFault (destination : Destination) (fault : Fault) : Run (Session σ) Int32 := do
  Run.log .error target ("Managed execution stopped: " ++ fault.message)
  match destination with
  | .stream stream => Run.write stream fault.reportBytes
  | .sink =>
    let s ← Run.get
    let (result, sink) := fault.report s.sink
    Run.set { s with sink := sink }
    if let .error e := result then
      Run.log .warn target ("Failed to write fault report: " ++ e.message)
  return faultExitCode

/-- Nothing is torn down: the process is about to exit. -/
def shutdown : Run (Session σ) Unit := enter .shutdown ""

end Session

/-- The agreement check of a host's layout with an image's, with its log record. -/
def Layout.Contract.checking {σ : Type} (host image : Layout.Contract) :
    Run σ (Except Layout.LayoutError Unit) := do
  let result := host.ensureMatches image
  if let .error (.mismatch field hostValue imageValue) := result then
    Run.log .error "aotboot_layout::contract"
      s!"Layout contract mismatch on {field.name}: host {hostValue} vs image {imageValue}"
  return result

namespace Initializer

variable {σ : Type}

open Session

/-- The text about an image in the log. -/
def imageDetail (image : Image) : String :=
  s!" ({image.codeSize} bytes of managed code at {addressText image.codeStart})"

/-- Every step before the modules, and the layout check. -/
def prepare (boot : Initializer σ) : Run (Session σ) (Except BootError Unit) := do
  enter .palInit ""
  if !(← call .palInit boot.platform.palInit) then return .error .palInit
  enter .runtimeAttach ""
  if !(← call .attach boot.platform.attach) then return .error .runtimeAttach
  enter .conservativeStackScan ""
  if !(← call .stackScan boot.platform.enableStackScan) then return .error .stackScanning
  match ← call .image boot.platform.image with
  | none => Run.log .trace target "No image to register on this platform"
  | some image =>
    enter .imageRegistration (imageDetail image)
    if !(← call (.registerImage image) (boot.platform.registerImage image)) then
      return .error .imageRegistration
  match ← call .imageLayout boot.platform.imageLayout with
  | none => return .ok ()
  | some layout => return (← Layout.Contract.host.checking layout).mapError .layout

/-- Collects the module list and hands it to the runtime. -/
def startModules (boot : Initializer σ) : Run (Session σ) (Except BootError ModuleList) := do
  enter .moduleInit s!" (strategy {boot.source.strategy.name})"
  match ← call .collect boot.source.collect with
  | .error e => return .error (.registry e)
  | .ok list =>
    call (.initializeModules list) (boot.platform.initializeModules list)
    return .ok list

/-- Invokes the entry point and yields the exit code. -/
def runEntry (destination : Destination) (args : ArgVector) (entry : Entry σ) :
    Run (Session σ) Int32 := do
  enter .managedMain s!" with {args.size} argument(s)"
  match ← Run.boundary (call (.invoke args) (entry args)) with
  | .ok code => return code
  | .error fault => reportFault destination fault

/-- The whole start-up, with fault reports sent to a destination. Yields the exit code. -/
def runReportingTo (boot : Initializer σ) (destination : Destination) (args : ArgVector)
    (entry : Entry σ) : Run (Session σ) Int32 := do
  match ← boot.prepare with
  | .error e => fail e
  | .ok () =>
    match ← Run.boundary boot.startModules with
    | .ok (.error e) => fail e
    | .error fault =>
      let code ← reportFault destination fault
      shutdown
      return code
    | .ok (.ok list) =>
      Run.log .info target s!"Runtime initialized with {list.size} module(s)"
      let code ← runEntry destination args entry
      shutdown
      return code

/-- The whole start-up, with fault reports on the configured stream. -/
def run (boot : Initializer σ) (args : ArgVector) (entry : Entry σ) : Run (Session σ) Int32 :=
  boot.runReportingTo (.stream boot.stream) args entry

end Initializer
end ManagedBoot
