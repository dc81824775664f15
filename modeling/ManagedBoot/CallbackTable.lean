/-!
The table of callbacks through which a runtime calls back into an image.

The table has one place for each slot, in a fixed order. A place that nobody fills is null.
-/
namespace ManagedBoot

/-- Slots of the table. -/
inductive CallbackSlot where
  | newObject
  | newArray
  | isInstanceOf
  | storeRefElement
  | loadRefElementAddress
  | throwException
  | unhandledExceptionHandler
  | appendExceptionStackFrame
  deriving DecidableEq, Repr

namespace CallbackSlot

/-- Every slot, in the order of the table. -/
def all : List CallbackSlot := [
  .newObject, .newArray, .isInstanceOf, .storeRefElement, .loadRefElementAddress,
  .throwException, .unhandledExceptionHandler, .appendExceptionStackFrame]

/-- Position in the table. -/
def index (s : CallbackSlot) : Nat := all.idxOf s

def name : CallbackSlot → String
  | .newObject => "new-object"
  | .newArray => "new-array"
  | .isInstanceOf => "is-instance-of"
  | .storeRefElement => "store-ref-element"
  | .loadRefElementAddress => "load-ref-element-address"
  | .throwException => "throw-exception"
  | .unhandledExceptionHandler => "unhandled-exception-handler"
  | .appendExceptionStackFrame => "append-exception-stack-frame"

/-- Whether the host fills the slot when it registers an image. The last two are the runtime's. -/
def providedByHost : CallbackSlot → Bool
  | .unhandledExceptionHandler | .appendExceptionStackFrame => false
  | _ => true

end CallbackSlot

/-- A callback, known by its symbol. -/
structure Callback where
  symbol : String
  deriving DecidableEq, Repr

/-- The callbacks by slot. -/
structure CallbackTable where
  get : CallbackSlot → Option Callback

namespace CallbackTable

def empty : CallbackTable := ⟨fun _ => none⟩

/-- Fills a slot. What stood there is replaced. -/
def insert (t : CallbackTable) (slot : CallbackSlot) (callback : Callback) : CallbackTable :=
  ⟨fun s => if s = slot then some callback else t.get s⟩

def isSet (t : CallbackTable) (slot : CallbackSlot) : Bool := (t.get slot).isSome

def ofList (entries : List (CallbackSlot × Callback)) : CallbackTable :=
  entries.foldl (fun t (slot, callback) => t.insert slot callback) empty

/-- The places of the table in order. -/
def toList (t : CallbackTable) : List (Option Callback) := CallbackSlot.all.map t.get

/-- The callbacks that the host hands over with an image. -/
def host : CallbackTable := ofList [
  (.newObject, ⟨"RhNewObject"⟩),
  (.newArray, ⟨"RhNewArray"⟩),
  (.isInstanceOf, ⟨"RhTypeCast_IsInstanceOf"⟩),
  (.storeRefElement, ⟨"RhpStelemRef"⟩),
  (.loadRefElementAddress, ⟨"RhpLdelemaRef"⟩),
  (.throwException, ⟨"RhpThrowEx"⟩)]

end CallbackTable
end ManagedBoot
