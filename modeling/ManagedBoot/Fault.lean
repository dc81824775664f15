import ManagedBoot.Layout.Object
/-!
Faults: what is raised when execution reaches something that was never implemented.

A fault is either a method that the compiler could not build or a runtime entry point without an
implementation. Its report is a few lines of text for the user. Diagnostic stubs are the entry
points that exist only to raise one.
-/
namespace ManagedBoot

inductive Fault where
  /-- The compiler emitted a placeholder instead of a method body. -/
  | notYetImplemented (method reason : String)
  /-- A runtime entry point with no implementation was called. -/
  | unimplementedRuntimeMethod (name : String)
  deriving DecidableEq, Repr

/-- Exit code of a process stopped by a fault. -/
def faultExitCode : Int32 := -1

namespace Fault

def message : Fault → String
  | .notYetImplemented method reason => s!"Code generation gap in `{method}`: {reason}"
  | .unimplementedRuntimeMethod name => s!"Call to unimplemented runtime method `{name}`"

/-- The text of a string object, or a placeholder for null. -/
def walk : Option Layout.Object → String
  | some o => o.text
  | none => "<null>"

/-- The fault of the two strings that a compiled placeholder passes. -/
def ofStrings (method reason : Option Layout.Object) : Fault :=
  .notYetImplemented (walk method) (walk reason)

/-- The lines of the report. -/
def reportLines : Fault → List String
  | .notYetImplemented method reason => [
      "ILCompiler failed generating code for this method; execution cannot continue.",
      "This is likely because of a feature that is not yet implemented in the compiler.",
      "Method: " ++ method,
      "",
      "Reason: " ++ reason]
  | .unimplementedRuntimeMethod name => [
      "Call to an unimplemented runtime method; execution cannot continue.",
      "Method: " ++ name]

/-- The bytes of the report, line by line. -/
def reportPieces (f : Fault) : List (List UInt8) :=
  f.reportLines.map fun line => Utf8.bytes (line ++ "\n")

/-- The bytes of the whole report. -/
def reportBytes (f : Fault) : List UInt8 := f.reportPieces.flatten

/-- Writes the report to a sink and flushes it. -/
def report (f : Fault) (sink : Sink) : Except SinkError Unit × Sink :=
  match sink.writeAll f.reportPieces with
  | (.ok (), sink) => sink.flush
  | (.error e, sink) => (.error e, sink)

end Fault

/-- Runtime entry points that exist only so that reaching them is loud. -/
inductive DiagnosticStub where
  | getCurrentThreadStackTrace
  | universalTransition
  | etwExceptionThrown
  | failFast
  | throwException
  | throwHardwareException
  | callCatchFunclet
  | callFilterFunclet
  | callFinallyFunclet
  | rangeCheckFail
  deriving DecidableEq, Repr

namespace DiagnosticStub

def all : List DiagnosticStub := [
  .getCurrentThreadStackTrace, .universalTransition, .etwExceptionThrown, .failFast,
  .throwException, .throwHardwareException, .callCatchFunclet, .callFilterFunclet,
  .callFinallyFunclet, .rangeCheckFail]

/-- Exported symbol. -/
def symbol : DiagnosticStub → String
  | .getCurrentThreadStackTrace => "RhGetCurrentThreadStackTrace"
  | .universalTransition => "RhpUniversalTransition"
  | .etwExceptionThrown => "RhpEtwExceptionThrown"
  | .failFast => "__fail_fast"
  | .throwException => "RhpThrowEx"
  | .throwHardwareException => "RhpThrowHwEx"
  | .callCatchFunclet => "RhpCallCatchFunclet"
  | .callFilterFunclet => "RhpCallFilterFunclet"
  | .callFinallyFunclet => "RhpCallFinallyFunclet"
  | .rangeCheckFail => "__range_check_fail"

/-- Name in the fault. Only the range check reports another name than its symbol. -/
def reportedName (s : DiagnosticStub) : String :=
  match s with
  | .rangeCheckFail => "ThrowRangeOverflowException"
  | other => other.symbol

/-- Whether the stub is exported only where the runtime's own unwinder is absent. -/
def portableCodegenOnly : DiagnosticStub → Bool
  | .throwException | .throwHardwareException | .callCatchFunclet | .callFilterFunclet
  | .callFinallyFunclet | .rangeCheckFail => true
  | _ => false

def ofSymbol? (symbol : String) : Option DiagnosticStub := all.find? (·.symbol == symbol)

/-- The fault that the stub raises. -/
def fault (s : DiagnosticStub) : Fault := .unimplementedRuntimeMethod s.reportedName

end DiagnosticStub
end ManagedBoot
