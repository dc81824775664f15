import ManagedBoot.Proofs.SectionReading
/-!
What a section of an array is read as.

Reading the range between two slots of an array yields the list of the words strictly between them
that are not null, and nothing else in the array or around it plays a part. Each call for the
modules of a section has this one result and leaves the process as it was (`effect_answer`), and so
has every call of a sequence (`effect_answerAll`). `reads_between` states the law of a section.
-/
namespace ManagedBoot

/-- A call for the modules of a section: collecting from a source of merged sections, or reading the
range. -/
inductive SectionCall where
  | collect (strategy : Strategy)
  | read
  deriving DecidableEq, Repr

namespace SectionRange

variable {σ : Type}

def answer (range : SectionRange) (memory : Memory) :
    SectionCall → Run σ (Except RegistryError ModuleList)
  | .collect strategy => (Source.merged strategy range memory).collect
  | .read => range.reading memory

/-- Makes calls in order and yields the result of each. -/
def answerAll (range : SectionRange) (memory : Memory) :
    List SectionCall → Run σ (List (Except RegistryError ModuleList))
  | [] => return []
  | call :: rest => do
    let result ← range.answer memory call
    return result :: (← range.answerAll memory rest)

/-- A call reads the range and changes nothing. -/
@[simp] theorem effect_answer (range : SectionRange) (memory : Memory) (call : SectionCall)
    (p : Process σ) :
    Run.effect (range.answer memory call) p = (.ok (range.read memory), p) := by
  cases call with
  | collect strategy => exact Source.effect_collect_merged strategy range memory p
  | read => exact effect_reading range memory p

/-- Every call has the same result, whatever was called before it. -/
theorem effect_answerAll (range : SectionRange) (memory : Memory) (calls : List SectionCall)
    (p : Process σ) :
    Run.effect (range.answerAll memory calls) p =
      (.ok (List.replicate calls.length (range.read memory)), p) := by
  induction calls with
  | nil => rfl
  | cons call rest ih =>
    rw [answerAll, Run.effect_bind, effect_answer]
    dsimp only
    rw [Run.effect_bind, ih]
    rfl

/-- A trailing bookend that is no later than the leading one bounds no range. -/
theorem ofIndexes_of_le {base : UInt64} {leading trailing : Nat} (order : trailing ≤ leading)
    (fits : base.toNat + 8 * (leading + 1) < UInt64.size) :
    ofIndexes base leading trailing =
      .error (.invertedBounds (base + slotSize * .ofNat leading)
        (base + slotSize * .ofNat trailing)) := by
  have hsize : UInt64.size = 2 ^ 64 := rfl
  have hstart : (base + slotSize * .ofNat leading + slotSize).toNat =
      base.toNat + 8 * leading + 8 := by
    rw [UInt64.toNat_add, toNat_slot (by omega), toNat_slotSize]
    exact Nat.mod_eq_of_lt (by omega)
  have hstop : (base + slotSize * .ofNat trailing).toNat = base.toNat + 8 * trailing :=
    toNat_slot (by omega)
  have hinverted :
      base + slotSize * .ofNat trailing < base + slotSize * .ofNat leading + slotSize := by
    rw [UInt64.lt_iff_toNat_lt, hstart, hstop]
    omega
  rw [ofIndexes, ofBookends, if_pos hinverted]

/-- Bookends in order bound a range, which reads as the words between them that are not null. -/
theorem Holds.exists_range {memory : Memory} {base : UInt64} {slots : List UInt64}
    (held : Holds memory base slots) {leading trailing : Nat} (order : leading < trailing)
    (within : trailing ≤ slots.length) :
    ∃ range, ofIndexes base leading trailing = .ok range ∧
      range.read memory = ModuleList.ofDescriptors
        ((between leading trailing slots).filterMap Descriptor.ofAddress?) :=
  have placed := held.placed order within
  ⟨_, placed.ofBookends, placed.read_words⟩

/-- A section is read as the list of the words strictly between its bookends that are not null. The
result is the same however it is asked for and however often, and the same for any other section
with the same words up to padding. Bookends out of order bound no section. -/
theorem reads_between {memory : Memory} {base : UInt64} {slots : List UInt64}
    (held : Holds memory base slots) (leading trailing : Nat) :
    (leading < trailing → trailing ≤ slots.length →
      ∃ range, ofIndexes base leading trailing = .ok range ∧
        range.read memory = ModuleList.ofDescriptors
          ((between leading trailing slots).filterMap Descriptor.ofAddress?) ∧
        (∀ (calls : List SectionCall) (p : Process σ), (range.answerAll memory calls p).outcome =
          .ok (List.replicate calls.length (range.read memory))) ∧
        ∀ (memory' : Memory) (base' : UInt64) (slots' : List UInt64) (leading' trailing' : Nat),
          Holds memory' base' slots' → leading' < trailing' → trailing' ≤ slots'.length →
          (between leading' trailing' slots').filter (· ≠ 0) =
            (between leading trailing slots).filter (· ≠ 0) →
          ∃ range', ofIndexes base' leading' trailing' = .ok range' ∧
            range'.read memory' = range.read memory) ∧
    (trailing ≤ leading → leading < slots.length ∨ base.toNat + 8 * (leading + 1) < UInt64.size →
      ofIndexes base leading trailing =
        .error (.invertedBounds (base + slotSize * .ofNat leading)
          (base + slotSize * .ofNat trailing))) := by
  constructor
  · intro order within
    obtain ⟨range, hrange, hread⟩ := held.exists_range order within
    refine ⟨range, hrange, hread, ?_, ?_⟩
    · intro calls p
      exact congrArg Prod.fst (effect_answerAll range memory calls p)
    · intro memory' base' slots' leading' trailing' held' order' within' same
      obtain ⟨range', hrange', hread'⟩ := held'.exists_range order' within'
      refine ⟨range', hrange', ?_⟩
      rw [hread, hread', ← filterMap_ofAddress?_filter, same, filterMap_ofAddress?_filter]
  · intro order inside
    apply ofIndexes_of_le order
    rcases inside with inside | room
    · have hfits : base.toNat + 8 * slots.length < UInt64.size := held.fits
      omega
    · exact room

/-- Two modules among padding and the same two without it, between bookends that hold words
themselves. -/
theorem reads_between_of_padding :
    ∃ range list, ofIndexes 0x10000 0 5 = .ok range ∧
      range.read (.ofSlots 0x10000 [7, 0, 64, 0, 96, 7]) = .ok list ∧ list.addresses = [64, 96] ∧
      (∀ p : Process Unit, (range.answerAll (.ofSlots 0x10000 [7, 0, 64, 0, 96, 7])
        [.read, .collect .scriptMerge, .read] p).outcome = .ok [.ok list, .ok list, .ok list]) ∧
      (∃ range', ofIndexes 0x20000 1 4 = .ok range' ∧
        range'.read (.ofSlots 0x20000 [64, 96, 64, 96]) = .ok list) ∧
      ofIndexes 0x10000 2 2 = .error (.invertedBounds 0x10010 0x10010) := by
  have held : Holds (.ofSlots 0x10000 [7, 0, 64, 0, 96, 7]) 0x10000 [7, 0, 64, 0, 96, 7] :=
    @holds_ofSlots 0x10000 [7, 0, 64, 0, 96, 7] [] (by decide)
  have held' : Holds (.ofSlots 0x20000 [64, 96, 64, 96]) 0x20000 [64, 96, 64, 96] :=
    @holds_ofSlots 0x20000 [64, 96, 64, 96] [] (by decide)
  obtain ⟨range, hrange, hread, hcalls, hother⟩ :=
    (@reads_between Unit _ _ _ held 0 5).1 (by decide) (by decide)
  obtain ⟨range', hrange', hread'⟩ := hother _ _ _ 1 4 held' (by decide) (by decide) (by decide)
  have hlist : range.read (.ofSlots 0x10000 [7, 0, 64, 0, 96, 7]) =
      .ok ⟨[⟨64, by decide⟩, ⟨96, by decide⟩]⟩ := hread.trans rfl
  rw [hlist] at hcalls hread'
  exact ⟨range, _, hrange, hlist, rfl, hcalls _, ⟨range', hrange', hread'⟩,
    (@reads_between Unit _ _ _ held 2 2).2 (by decide) (.inl (by decide))⟩

end SectionRange
end ManagedBoot
