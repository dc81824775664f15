import ManagedBoot.Proofs.ObjectParts
/-!
Sizes of arrays, computed without a wrap.

A checked operation yields exactly the words whose number is the sum or the product
(`checkedAdd_eq_some_iff`, `checkedMul_eq_some_iff`), so `arraySize` is the size in the natural
numbers wherever a word can hold it (`Contract.arraySize_eq_some_iff`). Beyond it stands the largest
size that can be laid out: `Object.array_sized` tells which arrays there are, what they hold, and
with what the others are refused.
-/
namespace ManagedBoot.Layout

namespace Contract

variable (c : Contract) {length elementSize : UInt64}

/-- An array has no size if a word cannot hold it. -/
theorem arraySize_eq_none_iff :
    c.arraySize length elementSize = none ↔
      UInt64.size ≤ c.dataOffset.toNat + length.toNat * elementSize.toNat := by
  constructor
  · intro hnone
    apply Nat.not_lt.mp
    intro hlt
    rw [c.arraySize_of_lt hlt] at hnone
    cases hnone
  · intro hlarge
    rw [Option.eq_none_iff_forall_ne_some]
    intro size hsome
    have hlt : size.toNat < UInt64.size := size.toNat_lt
    rw [arraySize_eq_some_iff] at hsome
    omega

end Contract

namespace Object

/-- An array with zeroed elements: its header, and elements that lie inside the buffer. -/
structure HoldsArray (o : Object) (descriptor : UInt64) (count : UInt32) (elementSize : UInt64) :
    Prop where
  size : o.size = 12 + count.toNat * elementSize.toNat
  typeDescriptor : o.typeDescriptor = descriptor
  length : o.length = count
  zero : ∀ i, 12 ≤ i → i < o.size → o.bytes[i]? = some 0
  inside : ∀ i < count.toNat, 12 + (i + 1) * elementSize.toNat ≤ o.size

variable (descriptor : UInt64) (length : UInt32) {elementSize : UInt64}

theorem holdsArray_ofParts :
    (ofParts descriptor length (List.replicate (length.toNat * elementSize.toNat) 0)).HoldsArray
      descriptor length elementSize := by
  have hsize : (ofParts descriptor length
      (List.replicate (length.toNat * elementSize.toNat) 0)).size =
      12 + length.toNat * elementSize.toNat := by
    rw [size_ofParts, List.length_replicate]
    rfl
  exact {
    size := hsize
    typeDescriptor := typeDescriptor_ofParts _ _ _
    length := length_ofParts _ _ _
    zero := by
      intro i hdata hi
      rw [hsize] at hi
      have hheader : (header descriptor length).length ≤ i := by
        rw [length_header]
        exact hdata
      rw [ofParts, List.getElem?_append_right hheader, length_header]
      apply List.getElem?_replicate_of_lt
      show i - 12 < length.toNat * elementSize.toNat
      omega
    inside := by
      intro i hi
      rw [hsize]
      exact Nat.add_le_add_left (Nat.mul_le_mul_right _ hi) 12
  }

theorem zeroed_of_gt {size : UInt64} (h : maxSize < size.toNat) :
    zeroed size = .error (.invalidSize size) := by
  rw [zeroed, decide_eq_true h, Bool.or_true, if_pos rfl]

/-- An array whose size a word holds but which is too large is refused with that size. -/
theorem array_of_too_large
    (hlarge : maxSize < dataOffset + length.toNat * elementSize.toNat)
    (hword : dataOffset + length.toNat * elementSize.toNat < UInt64.size) :
    array descriptor length elementSize =
      .error (.invalidSize (.ofNat (dataOffset + length.toNat * elementSize.toNat))) := by
  have htotal : (UInt64.ofNat (dataOffset + length.toNat * elementSize.toNat)).toNat =
      dataOffset + length.toNat * elementSize.toNat := UInt64.toNat_ofNat_of_lt' hword
  have hrefused : zeroed (.ofNat (dataOffset + length.toNat * elementSize.toNat)) = .error _ :=
    zeroed_of_gt (by rw [htotal]; exact hlarge)
  rw [array_of_lt descriptor length hword, hrefused]
  rfl

/-- An array whose size no word holds is refused with the largest word. -/
theorem array_of_overflow (h : UInt64.size ≤ dataOffset + length.toNat * elementSize.toNat) :
    array descriptor length elementSize = .error (.invalidSize (.ofNat (UInt64.size - 1))) := by
  have hnone : Contract.host.arraySize length.toUInt64 elementSize = none :=
    Contract.host.arraySize_eq_none_iff.mpr h
  rw [array, hnone]

/-- An array that is too large is refused with its size, or with the largest word if its size is
larger still. -/
theorem array_of_gt (h : maxSize < dataOffset + length.toNat * elementSize.toNat) :
    array descriptor length elementSize =
      .error (.invalidSize
        (if dataOffset + length.toNat * elementSize.toNat < UInt64.size
          then .ofNat (dataOffset + length.toNat * elementSize.toNat)
          else .ofNat (UInt64.size - 1))) := by
  split
  · next hword => exact array_of_too_large descriptor length h hword
  · next hover => exact array_of_overflow descriptor length (Nat.not_lt.mp hover)

/-- An array is made exactly if its size, computed without a wrap, can be laid out, and it is
refused with that size or, where no word holds it, with the largest word. The size under any
contract is exact likewise. -/
theorem array_sized (descriptor : UInt64) (length : UInt32) (elementSize : UInt64) :
    ((∃ o, array descriptor length elementSize = .ok o) ↔
      12 + length.toNat * elementSize.toNat ≤ 2 ^ 63 - 8) ∧
    (∀ o, array descriptor length elementSize = .ok o →
      o.HoldsArray descriptor length elementSize) ∧
    (∀ e, array descriptor length elementSize = .error e →
      e = .invalidSize (if 12 + length.toNat * elementSize.toNat < 2 ^ 64
        then .ofNat (12 + length.toNat * elementSize.toNat) else .ofNat (2 ^ 64 - 1))) ∧
    ∀ (c : Contract) (count width size : UInt64), c.arraySize count width = some size ↔
      c.dataOffset.toNat + count.toNat * width.toNat < 2 ^ 64 ∧
        size.toNat = c.dataOffset.toNat + count.toNat * width.toNat := by
  have hexact : ∀ (c : Contract) (count width size : UInt64),
      c.arraySize count width = some size ↔
        c.dataOffset.toNat + count.toNat * width.toNat < 2 ^ 64 ∧
          size.toNat = c.dataOffset.toNat + count.toNat * width.toNat := by
    intro c count width size
    have hlt : size.toNat < 2 ^ 64 := size.toNat_lt
    rw [c.arraySize_eq_some_iff]
    omega
  rcases Nat.lt_or_ge maxSize (dataOffset + length.toNat * elementSize.toNat) with hlarge | hfits
  · have harray := array_of_gt descriptor length hlarge
    rw [harray]
    refine ⟨⟨?_, ?_⟩, ?_, ?_, hexact⟩
    · rintro ⟨o, hmade⟩
      cases hmade
    · intro hfits
      exact absurd hfits (Nat.not_le.mpr hlarge)
    · intro o hmade
      cases hmade
    · intro e hrefused
      cases hrefused
      rfl
  · have harray := array_eq_ofParts descriptor length hfits
    rw [harray]
    refine ⟨⟨fun _ => hfits, fun _ => ⟨_, rfl⟩⟩, ?_, ?_, hexact⟩
    · intro o hmade
      cases hmade
      exact holdsArray_ofParts descriptor length
    · intro e hrefused
      cases hrefused

end Object
end ManagedBoot.Layout
