/-!
A sink that may run full.

A sink takes bytes up to its limit. A write that does not fit is taken in part, up to the limit,
and then fails; flushing may be refused. What arrived is in `received`, and `flushes` counts the
attempts to flush.
-/
namespace ManagedBoot

/-- A receiver of bytes. Without a limit it takes everything. -/
structure Sink where
  limit : Option Nat := none
  refusesFlush : Bool := false
  received : List UInt8 := []
  flushes : Nat := 0
  deriving DecidableEq, Repr

inductive SinkError where
  | full
  | flushRefused
  deriving DecidableEq, Repr

def SinkError.message : SinkError → String
  | .full => "failed to write whole buffer"
  | .flushRefused => "flush refused"

namespace Sink

/-- How many of `n` bytes the sink still takes. -/
def room (s : Sink) (n : Nat) : Nat :=
  match s.limit with
  | none => n
  | some limit => min n (limit - s.received.length)

/-- Writes all of `bytes`, or as many as fit. -/
def write (s : Sink) (bytes : List UInt8) : Except SinkError Unit × Sink :=
  let taken := s.room bytes.length
  let s := { s with received := s.received ++ bytes.take taken }
  (if taken < bytes.length then .error .full else .ok (), s)

/-- Writes one piece after another and stops at the first that fails. -/
def writeAll (s : Sink) : List (List UInt8) → Except SinkError Unit × Sink
  | [] => (.ok (), s)
  | bytes :: rest =>
    match s.write bytes with
    | (.ok (), s) => s.writeAll rest
    | (.error e, s) => (.error e, s)

/-- Asks the sink to flush, which it may refuse. -/
def flush (s : Sink) : Except SinkError Unit × Sink :=
  (if s.refusesFlush then .error .flushRefused else .ok (), { s with flushes := s.flushes + 1 })

end Sink
end ManagedBoot
