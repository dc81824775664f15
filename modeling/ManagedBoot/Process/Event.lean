import ManagedBoot.ArgVector
import ManagedBoot.CallbackTable
import ManagedBoot.Fault
import ManagedBoot.Logging.Record
/-!
What can be seen of a run from outside: events, log records, text on the process streams and the
frames of transitions.
-/
namespace ManagedBoot

/-- What travels up the stack when code does not return: a fault, or any other panic. -/
inductive Unwind where
  | fault (fault : Fault)
  | panic (text : String)
  deriving DecidableEq, Repr

/-- The two streams of a process that fault reports may go to. -/
inductive Stream where
  | stdout
  | stderr
  deriving DecidableEq, Repr

/-- The saved context of one reverse transition, as the runtime fills it in. -/
structure TransitionFrame where
  savedFrame : UInt64 := 0
  savedThread : UInt64 := 0
  deriving DecidableEq, Repr

/-- A frame in the hands of the runtime: its number, and its words when it was handed over. -/
inductive Passage where
  | enter (number : Nat) (frame : TransitionFrame)
  | leave (number : Nat) (frame : TransitionFrame)
  deriving DecidableEq, Repr

/-- What a runtime needs to register an image: its handle, its code's range and the callbacks. -/
structure Image where
  osModule : UInt64
  codeStart : UInt64
  codeSize : UInt32
  callbacks : CallbackTable

/-- A question or order that a platform received. -/
inductive PlatformCall where
  | palInit
  | attach
  | stackScan
  | image
  | imageIs (image : Image)
  | registerImage
  | imageLayout
  | collect
  | initializeModules (addresses : List UInt64) (count : Nat)

def PlatformCall.name : PlatformCall → String
  | .palInit => "pal_init"
  | .attach => "attach"
  | .stackScan => "stack_scan"
  | .image => "image"
  | .imageIs _ => "image_is"
  | .registerImage => "register_image"
  | .imageLayout => "image_layout"
  | .collect => "collect"
  | .initializeModules _ _ => "initialize_modules"

/-- A function of the runtime library that was called. -/
inductive LibraryCall where
  | palInit
  | dllMain (handle : UInt64) (reason : UInt32) (reserved : UInt64)
  | enableStackReporting
  | initializeModules (addresses : List UInt64) (count : Int32)
  | newArray (length : UInt32)
  | newObject

/-- The symbol under which the library exports the function. -/
def LibraryCall.symbol : LibraryCall → String
  | .palInit => "PalInit"
  | .dllMain _ _ _ => "RtuDllMain"
  | .enableStackReporting => "RhpEnableConservativeStackReporting"
  | .initializeModules _ _ => "InitializeModules"
  | .newArray _ => "RhNewArray"
  | .newObject => "RhNewObject"

/-- One happening, in the order of the run. A value is the code that ended a body, if one did. -/
inductive Event where
  | note (text : String)
  | arguments (seen : Option (Int32 × Nat × List String))
  | active (frame thread : UInt64)
  /-- The hook that was installed before ours saw an ordinary panic. -/
  | panicHook (text : String)
  | boundary (outcome : Except Fault (Option Int32))
  | caught (outcome : Except Unwind (Option Int32))
  | bridged (value : Option Int32)
  | frame (saved : TransitionFrame)
  | after (saved : TransitionFrame)
  | pinvoked (value : Option Int32)
  | enter (native : Bool) (record : TransitionFrame)
  | leave (native : Bool) (record : TransitionFrame) (matched : Bool)
  | platform (call : PlatformCall)
  | library (call : LibraryCall)
  | allocation (descriptor : UInt64) (length : UInt32)

/-- One piece of what a run lets an observer see. -/
inductive Output where
  | event (event : Event)
  | log (record : LogRecord)
  | text (stream : Stream) (bytes : List UInt8)
  /-- A transition began or ended. -/
  | passage (passage : Passage)

namespace Output

/-- The events of an output, in order. -/
def events (out : List Output) : List Event :=
  out.filterMap fun | .event e => some e | _ => none

/-- The log records of an output, in order. -/
def records (out : List Output) : List LogRecord :=
  out.filterMap fun | .log r => some r | _ => none

/-- The beginnings and ends of transitions, in order. -/
def passages (out : List Output) : List Passage :=
  out.filterMap fun | .passage p => some p | _ => none

/-- The bytes that went to a stream. -/
def written (stream : Stream) (out : List Output) : List UInt8 :=
  out.flatMap fun | .text s bytes => if s = stream then bytes else [] | _ => []

end Output
end ManagedBoot
