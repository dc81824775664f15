import ManagedBoot.Fault
/-!
What arrives of a report.

A sink takes pieces as it takes their bytes in one piece (`Sink.writeAll_eq`), so how a report is cut
is of no account: the sink gets its first bytes up to the limit, and is asked to flush once it has
all of them (`Sink.deliver_eq`). A report is lines of text, and gives the fault's own texts on lines
of their own (`Fault.told_reportBytes`).
-/
namespace ManagedBoot

namespace Sink

/-- Writes pieces to a sink and then flushes it. -/
def deliver (s : Sink) (pieces : List (List UInt8)) : Except SinkError Unit × Sink :=
  match s.writeAll pieces with
  | (.ok (), s) => s.flush
  | (.error e, s) => (.error e, s)

theorem room_le (s : Sink) (n : Nat) : s.room n ≤ n := by
  unfold room
  cases s.limit with
  | none => exact Nat.le_refl n
  | some limit => exact Nat.min_le_left _ _

/-- A sink that has room for some bytes has for more bytes the room it has after them, besides. -/
theorem room_add {s : Sink} {first : List UInt8} (fits : s.room first.length = first.length)
    (more : Nat) :
    s.room (first.length + more) =
      first.length + ({ s with received := s.received ++ first } : Sink).room more := by
  unfold room at fits ⊢
  cases hlimit : s.limit with
  | none => rfl
  | some limit =>
    simp only [hlimit, List.length_append] at fits ⊢
    omega

/-- A sink that has no room for some bytes has the same room for more. -/
theorem room_of_lt {s : Sink} {n : Nat} (short : s.room n < n) (more : Nat) :
    s.room (n + more) = s.room n := by
  unfold room at short ⊢
  cases hlimit : s.limit with
  | none =>
    rw [hlimit] at short
    exact absurd short (Nat.lt_irrefl n)
  | some limit =>
    simp only [hlimit] at short ⊢
    omega

/-- Pieces are taken as their bytes are in one piece. -/
theorem writeAll_eq (s : Sink) (pieces : List (List UInt8)) :
    s.writeAll pieces = s.write pieces.flatten := by
  induction pieces generalizing s with
  | nil =>
    have hroom : s.room 0 = 0 := Nat.le_zero.mp (s.room_le 0)
    simp [writeAll, write, hroom]
  | cons bytes rest ih =>
    rw [writeAll, List.flatten_cons]
    rcases Nat.lt_or_eq_of_le (s.room_le bytes.length) with short | fits
    · -- The sink is full within the first piece, and what is behind it changes nothing.
      have hroom := room_of_lt short rest.flatten.length
      have hshort : s.room bytes.length < bytes.length + rest.flatten.length := by omega
      have htake : (bytes ++ rest.flatten).take (s.room bytes.length) =
          bytes.take (s.room bytes.length) := List.take_append_of_le_length (Nat.le_of_lt short)
      simp only [write, List.length_append, hroom, if_pos short, if_pos hshort, htake]
    · have hwrite : s.write bytes = (.ok (), { s with received := s.received ++ bytes }) := by
        rw [write, fits, List.take_length, if_neg (Nat.lt_irrefl _)]
      have hroom := room_add fits rest.flatten.length
      rw [hwrite]
      dsimp only
      rw [ih]
      simp only [write, List.length_append, hroom, List.take_length_add_append, List.append_assoc,
        Nat.add_lt_add_iff_left]

/-- What a sink has of bytes that were delivered in pieces. -/
theorem deliver_eq (s : Sink) {pieces : List (List UInt8)} {bytes : List UInt8}
    (h : pieces.flatten = bytes) :
    s.deliver pieces =
      if s.room bytes.length < bytes.length then
        (.error .full, { s with received := s.received ++ bytes.take (s.room bytes.length) })
      else
        (if s.refusesFlush then .error .flushRefused else .ok (),
          { s with received := s.received ++ bytes, flushes := s.flushes + 1 }) := by
  rw [deliver, writeAll_eq, h, write]
  by_cases short : s.room bytes.length < bytes.length
  · rw [if_pos short, if_pos short]
  · have hroom : s.room bytes.length = bytes.length :=
      Nat.le_antisymm (s.room_le _) (Nat.not_lt.mp short)
    rw [if_neg short, if_neg short, hroom, List.take_length]
    rfl

end Sink

namespace Fault

theorem flatten_reportPieces (fault : Fault) : fault.reportPieces.flatten = fault.reportBytes :=
  rfl

theorem report_eq_deliver (fault : Fault) (sink : Sink) :
    fault.report sink = sink.deliver fault.reportPieces := rfl

theorem report_of_limited (fault : Fault) (limit : Nat) (refuses : Bool) :
    fault.report { limit := some limit, refusesFlush := refuses } =
      if limit < fault.reportBytes.length then
        (.error .full,
          { limit := some limit, refusesFlush := refuses,
            received := fault.reportBytes.take limit })
      else
        (if refuses then .error .flushRefused else .ok (),
          { limit := some limit, refusesFlush := refuses, received := fault.reportBytes,
            flushes := 1 }) := by
  have hroom : Sink.room { limit := some limit, refusesFlush := refuses }
      fault.reportBytes.length = min limit fault.reportBytes.length := Nat.min_comm _ _
  have hshort : min limit fault.reportBytes.length < fault.reportBytes.length ↔
      limit < fault.reportBytes.length := by omega
  rw [report_eq_deliver, Sink.deliver_eq _ fault.flatten_reportPieces, hroom]
  by_cases h : limit < fault.reportBytes.length
  · rw [if_pos (hshort.mpr h), if_pos h, Nat.min_eq_left (Nat.le_of_lt h)]
    rfl
  · rw [if_neg (fun h' => h (hshort.mp h')), if_neg h]
    rfl

/-- The lines that tell a fault from others of its kind. -/
def particulars : Fault → List String
  | .notYetImplemented method reason => ["Method: " ++ method, "Reason: " ++ reason]
  | .unimplementedRuntimeMethod name => ["Method: " ++ name]

/-- The bytes are those of lines of text, among them in order the particulars of the fault. -/
def Told (fault : Fault) (bytes : List UInt8) : Prop :=
  ∃ lines : List String, bytes = lines.flatMap (fun line => Utf8.bytes (line ++ "\n")) ∧
    fault.particulars.Sublist lines

theorem told_reportBytes (fault : Fault) : fault.Told fault.reportBytes := by
  refine ⟨fault.reportLines, List.flatMap_def.symm, ?_⟩
  cases fault with
  | notYetImplemented method reason =>
    exact .cons _ (.cons _ (.cons_cons _ (.cons _ (.refl _))))
  | unimplementedRuntimeMethod name => exact .cons _ (.refl _)

/-- What becomes of a fault's report. -/
structure Reports (fault : Fault) : Prop where
  /-- The report that is delivered says what the fault is about. -/
  told : fault.Told fault.reportBytes
  /-- A sink gets the bytes up to its limit, and is asked to flush once it has all of them. -/
  received : ∀ limit refuses,
    (fault.report { limit := some limit, refusesFlush := refuses }).2 =
      { limit := some limit, refusesFlush := refuses,
        received := fault.reportBytes.take (min limit fault.reportBytes.length),
        flushes := if limit < fault.reportBytes.length then 0 else 1 }
  failed : ∀ limit refuses,
    (∃ e, (fault.report { limit := some limit, refusesFlush := refuses }).1 = .error e) ↔
      limit < fault.reportBytes.length ∨ refuses = true
  unlimited : ∀ refuses, fault.report { refusesFlush := refuses } =
    (if refuses then .error .flushRefused else .ok (),
      { refusesFlush := refuses, received := fault.reportBytes, flushes := 1 })
  /-- Any sink gets the first bytes of the report, as many as it has room for. -/
  appended : ∀ sink : Sink, (fault.report sink).2.received =
    sink.received ++ fault.reportBytes.take (sink.room fault.reportBytes.length)
  /-- However the report is cut into pieces, the same happens. -/
  chunked : ∀ pieces, pieces.flatten = fault.reportBytes →
    ∀ sink : Sink, sink.deliver pieces = fault.report sink

theorem reports (fault : Fault) : fault.Reports where
  told := fault.told_reportBytes
  received := by
    intro limit refuses
    rw [report_of_limited]
    by_cases h : limit < fault.reportBytes.length
    · rw [if_pos h, if_pos h, Nat.min_eq_left (Nat.le_of_lt h)]
    · rw [if_neg h, if_neg h, Nat.min_eq_right (Nat.not_lt.mp h), List.take_length]
  failed := by
    intro limit refuses
    rw [report_of_limited]
    by_cases h : limit < fault.reportBytes.length
    · simp [h]
    · cases refuses <;> simp [h]
  unlimited := by
    intro refuses
    have hroom : ¬Sink.room { refusesFlush := refuses } fault.reportBytes.length <
        fault.reportBytes.length := Nat.lt_irrefl _
    rw [report_eq_deliver, Sink.deliver_eq _ fault.flatten_reportPieces, if_neg hroom]
    rfl
  appended := by
    intro sink
    rw [report_eq_deliver, Sink.deliver_eq _ fault.flatten_reportPieces]
    by_cases short : sink.room fault.reportBytes.length < fault.reportBytes.length
    · rw [if_pos short]
    · have hroom := Nat.le_antisymm (sink.room_le _) (Nat.not_lt.mp short)
      rw [if_neg short, hroom, List.take_length]
  chunked := by
    intro pieces hpieces sink
    rw [report_eq_deliver, Sink.deliver_eq sink hpieces,
      Sink.deliver_eq sink fault.flatten_reportPieces]

end Fault
end ManagedBoot
