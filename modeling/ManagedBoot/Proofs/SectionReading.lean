import ManagedBoot.Module.Source
import ManagedBoot.Proofs.ModuleListing
import ManagedBoot.Proofs.RunLaws
/-!
Reading the slots between two bookends.

`Placed` says that a memory holds given words between two bookends, as a linker lays them out. The
range between such bookends has exactly these words as its slots (`Placed.slots`), and reading it
yields the list of the addresses that are not null, whatever the padding (`Placed.read`).
-/
namespace ManagedBoot
namespace SectionRange

/-- The memory holds the words one slot after another between the bookends. -/
structure Placed (memory : Memory) (leading trailing : UInt64) (words : List UInt64) : Prop where
  /-- The slots and the leading bookend lie below the trailing one, without a wrap. -/
  distance : trailing.toNat = leading.toNat + slotSize.toNat * (words.length + 1)
  word : ∀ i (h : i < words.length), memory (leading + slotSize * .ofNat (i + 1)) = words[i]

theorem toNat_slotSize : slotSize.toNat = 8 := rfl

section
variable {memory : Memory} {leading trailing : UInt64} {words : List UInt64}

theorem Placed.toNat_stop (h : Placed memory leading trailing words) :
    trailing.toNat = leading.toNat + 8 * (words.length + 1) := h.distance

theorem Placed.toNat_start (h : Placed memory leading trailing words) :
    (leading + slotSize).toNat = leading.toNat + 8 := by
  have hstop := h.toNat_stop
  have hlt := trailing.toNat_lt
  rw [UInt64.toNat_add, toNat_slotSize]
  omega

theorem Placed.start_le (h : Placed memory leading trailing words) :
    leading + slotSize ≤ trailing := by
  rw [UInt64.le_iff_toNat_le, h.toNat_start, h.toNat_stop]
  omega

/-- Bookends with slots between them bound a range. -/
theorem Placed.ofBookends (h : Placed memory leading trailing words) :
    SectionRange.ofBookends leading trailing = .ok ⟨leading + slotSize, trailing⟩ := by
  have horder : ¬trailing < leading + slotSize := UInt64.not_lt.mpr h.start_le
  rw [SectionRange.ofBookends, if_neg horder]

theorem Placed.slotCount (h : Placed memory leading trailing words) :
    (slotCount ⟨leading + slotSize, trailing⟩).toNat = words.length := by
  rw [SectionRange.slotCount, UInt64.toNat_div, UInt64.toNat_sub_of_le _ _ h.start_le,
    h.toNat_stop, h.toNat_start, toNat_slotSize]
  omega

/-- The range between the bookends has the slots that the memory holds there. -/
theorem Placed.slots (h : Placed memory leading trailing words) :
    SectionRange.slots ⟨leading + slotSize, trailing⟩ memory = words := by
  have hword : ∀ i : Nat,
      leading + slotSize + slotSize * .ofNat i = leading + slotSize * .ofNat (i + 1) := by
    intro i
    rw [UInt64.ofNat_add, UInt64.mul_add, UInt64.add_assoc, UInt64.add_comm slotSize]
    rfl
  rw [SectionRange.slots, h.slotCount]
  refine List.ext_getElem (by simp) ?_
  intro i _ hi
  rw [List.getElem_map, List.getElem_range, hword, h.word i hi]

end

/-! ## Arrays in memory -/

/-- The memory holds an array of slots at an address. The array ends below the end of the address
space. -/
structure Holds (memory : Memory) (base : UInt64) (slots : List UInt64) : Prop where
  fits : base.toNat + slotSize.toNat * slots.length < UInt64.size
  word : ∀ i (h : i < slots.length), memory (base + slotSize * .ofNat i) = slots[i]

theorem toNat_slot {base : UInt64} {i : Nat} (h : base.toNat + 8 * i < UInt64.size) :
    (base + slotSize * .ofNat i).toNat = base.toNat + 8 * i := by
  have hlt : i < UInt64.size := by omega
  have hsize : UInt64.size = 2 ^ 64 := rfl
  have hoffset : (slotSize * .ofNat i).toNat = 8 * i := by
    rw [UInt64.toNat_mul, toNat_slotSize, UInt64.toNat_ofNat_of_lt' hlt]
    exact Nat.mod_eq_of_lt (by omega)
  rw [UInt64.toNat_add, hoffset]
  exact Nat.mod_eq_of_lt h

/-- An array stands in the memory made of it, whatever comes behind it. -/
theorem holds_ofSlots {base : UInt64} {slots : List UInt64} (rest : List UInt64)
    (fits : base.toNat + 8 * slots.length < UInt64.size) :
    Holds (.ofSlots base (slots ++ rest)) base slots where
  fits := fits
  word := by
    intro i hi
    have hindex : (base + slotSize * .ofNat i - base).toNat / slotSize.toNat = i := by
      have hle : base ≤ base + slotSize * .ofNat i := by
        rw [UInt64.le_iff_toNat_le, toNat_slot (by omega)]
        omega
      rw [UInt64.toNat_sub_of_le _ _ hle, toNat_slot (by omega), toNat_slotSize]
      omega
    rw [Memory.ofSlots, hindex, List.getD_eq_getElem?_getD, List.getElem?_append_left hi,
      List.getElem?_eq_getElem hi, Option.getD_some]

/-- The words at the indexes strictly between two others. -/
def between (leading trailing : Nat) (slots : List UInt64) : List UInt64 :=
  (slots.take trailing).drop (leading + 1)

/-- The words between two slots of an array stand between the bookends at these slots. -/
theorem Holds.placed {memory : Memory} {base : UInt64} {slots : List UInt64}
    (h : Holds memory base slots) {leading trailing : Nat} (order : leading < trailing)
    (within : trailing ≤ slots.length) :
    Placed memory (base + slotSize * .ofNat leading) (base + slotSize * .ofNat trailing)
      (between leading trailing slots) := by
  have hfits : base.toNat + 8 * slots.length < UInt64.size := h.fits
  have hlength : (between leading trailing slots).length = trailing - (leading + 1) := by
    rw [between, List.length_drop, List.length_take, Nat.min_eq_left within]
  constructor
  · rw [toNat_slot (by omega), toNat_slot (by omega), hlength, toNat_slotSize]
    omega
  · intro i hi
    have hindex : leading + 1 + i < slots.length := by omega
    have haddress : base + slotSize * .ofNat leading + slotSize * .ofNat (i + 1) =
        base + slotSize * .ofNat (leading + 1 + i) := by
      rw [UInt64.add_assoc, ← UInt64.mul_add, ← UInt64.ofNat_add]
      congr 3
      omega
    have hword : (between leading trailing slots)[i] = slots[leading + 1 + i] := by
      simp only [between, List.getElem_drop, List.getElem_take]
    rw [haddress, hword, h.word _ hindex]

/-- An array of words, placed in memory with a null slot at either end. -/
theorem placed_ofSlots (base : UInt64) (words : List UInt64)
    (fits : base.toNat + 8 * (words.length + 1) < UInt64.size) :
    Placed (.ofSlots base (0 :: words ++ [0])) base (base + slotSize * .ofNat (words.length + 1))
      words := by
  have hheld : Holds (.ofSlots base (0 :: words ++ [0])) base (0 :: words) := holds_ofSlots [0] fits
  have horder : 0 < words.length + 1 := Nat.succ_pos _
  have hplaced := hheld.placed horder (Nat.le_refl _)
  have hfirst : base + slotSize * .ofNat 0 = base := UInt64.add_zero base
  have hbetween : between 0 (words.length + 1) (0 :: words) = words := by simp [between]
  rwa [hfirst, hbetween] at hplaced

/-! ## Reading -/

/-- Null words are no descriptors. -/
theorem filterMap_ofAddress?_filter (words : List UInt64) :
    (words.filter (· ≠ 0)).filterMap Descriptor.ofAddress? =
      words.filterMap Descriptor.ofAddress? := by
  have hskip : ∀ address, (if address ≠ 0 then Descriptor.ofAddress? address else none) =
      Descriptor.ofAddress? address := by
    intro address
    by_cases null : address = 0
    · simp [null, Descriptor.ofAddress?_zero]
    · simp [null]
  rw [List.filterMap_filter]
  simp [hskip]

/-- Padding among the words adds nothing to the descriptors found there. -/
theorem filterMap_ofAddress? {words : List UInt64} {ds : List Descriptor}
    (padding : words.filter (· ≠ 0) = ds.map (·.address)) :
    words.filterMap Descriptor.ofAddress? = ds := by
  rw [← filterMap_ofAddress?_filter, padding, List.filterMap_map]
  simp

/-- Reading a range yields the list of the descriptors among its words. -/
theorem Placed.read_words {memory : Memory} {leading trailing : UInt64} {words : List UInt64}
    (h : Placed memory leading trailing words) :
    SectionRange.read ⟨leading + slotSize, trailing⟩ memory =
      ModuleList.ofDescriptors (words.filterMap Descriptor.ofAddress?) := by
  rw [SectionRange.read, SectionRange.descriptors, h.slots, List.filterMap_map]
  rfl

/-- Reading a range yields the list of the addresses that are not null. -/
theorem Placed.read {memory : Memory} {leading trailing : UInt64} {words : List UInt64}
    {ds : List Descriptor} (h : Placed memory leading trailing words)
    (padding : words.filter (· ≠ 0) = ds.map (·.address)) :
    SectionRange.read ⟨leading + slotSize, trailing⟩ memory = ModuleList.ofDescriptors ds := by
  rw [h.read_words, filterMap_ofAddress? padding]

variable {σ : Type}

@[simp] theorem effect_reading (r : SectionRange) (memory : Memory) (p : Process σ) :
    Run.effect (r.reading memory) p = (.ok (r.read memory), p) := by
  rw [reading]
  split <;> simp [Except.map]

end SectionRange

/-- Collecting from a merged section reads its range, whichever way it was merged. -/
@[simp] theorem Source.effect_collect_merged {σ : Type} (strategy : Strategy) (range : SectionRange)
    (memory : Memory) (p : Process σ) :
    Run.effect (Source.merged strategy range memory).collect p = (.ok (range.read memory), p) := by
  rw [Source.merged, Run.effect_bind, SectionRange.effect_reading]
  cases range.read memory <;> simp [Except.map]

end ManagedBoot
