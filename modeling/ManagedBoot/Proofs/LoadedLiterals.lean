import ManagedBoot.Literal
import ManagedBoot.Proofs.ManagedStrings
import ManagedBoot.Proofs.RunLaws
/-!
String literals on a heap whose allocator keeps its contract.

The contract (`Allocator.Lawful`) promises zeroed elements, at least as many as were asked for. A
load copies the units of its text over the first elements and leaves the length that the allocator
wrote, so the string reads as the text with a null character for every element too many
(`loadLiteral_holdsPadded`). It reads as the text itself exactly if the allocator granted no more
than was asked for, which the contract does not promise (`overallocated_literal`).
-/
namespace ManagedBoot

open Layout

/-! ## What an allocator promises -/

namespace Layout.Object

/-- An object of a type. -/
structure Instance (o : Object) (descriptor : UInt64) : Prop where
  typeDescriptor : o.typeDescriptor = descriptor
  room : wordSize ≤ o.size

/-- An array of zeroed elements of `width` bytes each, `length` of them or more. -/
structure FreshArray (o : Object) (width : Nat) (descriptor : UInt64) (length : UInt32) : Prop where
  typeDescriptor : o.typeDescriptor = descriptor
  length_le : length.toNat ≤ o.length.toNat
  room : dataOffset + width * o.length.toNat ≤ o.size
  zeroed : ∀ b ∈ (o.bytes.drop dataOffset).take (width * o.length.toNat), b = 0

end Layout.Object

/-- The contract of an allocator. Arrays of the type with a descriptor have elements of
`width descriptor` bytes. -/
structure Allocator.Lawful (width : UInt64 → Nat) (allocator : Allocator) : Prop where
  newObject : ∀ descriptor p address,
    (allocator.newObject descriptor p).outcome = .ok (some address) →
    ∃ o, (allocator.newObject descriptor p).process.runtime.get? address = some o ∧
      o.Instance descriptor
  newArray : ∀ descriptor length p address,
    (allocator.newArray descriptor length p).outcome = .ok (some address) →
    ∃ o, (allocator.newArray descriptor length p).process.runtime.get? address = some o ∧
      o.FreshArray (width descriptor) descriptor length

theorem Allocator.Lawful.exists_granted {width : UInt64 → Nat} {allocator : Allocator}
    (lawful : allocator.Lawful width) {descriptor : UInt64} {length : UInt32} {address : Nat}
    {p q : Process Heap} {out : List Output}
    (h : allocator.newArray descriptor length p = ⟨.ok (some address), q, out⟩) :
    ∃ o, q.runtime.get? address = some o ∧ o.FreshArray (width descriptor) descriptor length := by
  have hcontract := lawful.newArray descriptor length p address
  rw [h] at hcontract
  exact hcontract rfl

/-! ## What a load does -/

namespace Heap

theorem get?_push_self (h : Heap) (o : Object) : (h.push o).2.get? h.size = some o :=
  List.getElem?_concat_length

theorem get?_push_of_some {h : Heap} {address : Nat} {x : Object} (hx : h.get? address = some x)
    (o : Object) : (h.push o).2.get? address = some x := by
  have hlt : address < h.objects.length := (List.getElem?_eq_some_iff.mp hx).1
  show (h.objects ++ [o])[address]? = some x
  rw [List.getElem?_append_left hlt]
  exact hx

/-- Writes code units over the data of the object at an address. -/
def fill (h : Heap) (address : Nat) (units : List UInt16) : Heap :=
  h.update address (·.overwrite dataOffset (unitBytes units))

theorem get?_fill_self {h : Heap} {address : Nat} {o : Object} (ho : h.get? address = some o)
    (units : List UInt16) :
    (h.fill address units).get? address = some (o.overwrite dataOffset (unitBytes units)) := by
  have hobject : h.objects[address]? = some o := ho
  show (h.objects.modify address _)[address]? = _
  rw [List.getElem?_modify_eq, hobject]
  rfl

theorem get?_fill_of_ne (h : Heap) {address other : Nat} (hne : address ≠ other)
    (units : List UInt16) : (h.fill address units).get? other = h.get? other :=
  List.getElem?_modify_ne _ _ hne

end Heap

/-- The ways a load can end, told by what became of its one request. -/
inductive Loads (allocator : Allocator) (descriptor : UInt64) (text : String) (p : Process Heap) :
    Ending Heap (Option Nat) → Prop
  /-- No array is asked for where the text is too long for one. -/
  | long (h : 2 ^ 31 ≤ (Utf16.units text).length) :
    Loads allocator descriptor text p ⟨.ok none, p, []⟩
  | unwound {u : Unwind} {q : Process Heap} {out : List Output}
    (h : (Utf16.units text).length < 2 ^ 31)
    (request : allocator.newArray descriptor (.ofNat (Utf16.units text).length) p =
      ⟨.error u, q, out⟩) :
    Loads allocator descriptor text p ⟨.error u, q, out⟩
  | refused {q : Process Heap} {out : List Output} (h : (Utf16.units text).length < 2 ^ 31)
    (request : allocator.newArray descriptor (.ofNat (Utf16.units text).length) p =
      ⟨.ok none, q, out⟩) (notice : LogRecord) :
    Loads allocator descriptor text p ⟨.ok none, q, out ++ [.log notice]⟩
  /-- An array that was granted is filled with the units of the text. -/
  | granted {address : Nat} {q : Process Heap} {out : List Output}
    (h : (Utf16.units text).length < 2 ^ 31)
    (request : allocator.newArray descriptor (.ofNat (Utf16.units text).length) p =
      ⟨.ok (some address), q, out⟩) :
    Loads allocator descriptor text p ⟨.ok (some address),
      { q with runtime := q.runtime.fill address (Utf16.units text) }, out⟩

theorem loadLiteral_loads (allocator : Allocator) (descriptor : UInt64) (text : String)
    (p : Process Heap) :
    Loads allocator descriptor text p (loadLiteral allocator descriptor text p) := by
  by_cases hlong : 0x80000000 ≤ (Utf16.units text).length
  · rw [loadLiteral, if_pos hlong]
    exact .long hlong
  · have hshort : (Utf16.units text).length < 2 ^ 31 := Nat.not_le.mp hlong
    rw [loadLiteral, if_neg hlong]
    rcases h : allocator.newArray descriptor (.ofNat (Utf16.units text).length) p with
      ⟨u | _ | address, q, out⟩
    · rw [Run.bind_of_error h]
      exact .unwound hshort h
    · rw [Run.bind_of_ok h]
      exact .refused hshort h _
    · rw [Run.bind_of_ok h]
      show Loads _ _ _ _ ⟨_, _, out ++ []⟩
      rw [List.append_nil]
      exact .granted hshort h

/-- A load that yields an address was granted an array there, and filled it. -/
theorem exists_granted_of_loaded {allocator : Allocator} {descriptor : UInt64} {text : String}
    {p : Process Heap} {address : Nat}
    (loaded : (loadLiteral allocator descriptor text p).outcome = .ok (some address)) :
    ∃ q out, (Utf16.units text).length < 2 ^ 31 ∧
      allocator.newArray descriptor (.ofNat (Utf16.units text).length) p =
        ⟨.ok (some address), q, out⟩ ∧
      (loadLiteral allocator descriptor text p).process.runtime =
        q.runtime.fill address (Utf16.units text) := by
  have hloads := loadLiteral_loads allocator descriptor text p
  generalize loadLiteral allocator descriptor text p = e at hloads loaded ⊢
  cases hloads with
  | long | unwound | refused => cases loaded
  | @granted _ q out hshort request =>
    cases loaded
    exact ⟨q, out, hshort, request, rfl⟩

/-! ## What a loaded string reads as -/

/-- Zero units behind a text are read as null characters. -/
theorem Utf16.toStringLossy_units_append_zero (s : String) (n : Nat) :
    toStringLossy (units s ++ List.replicate n 0) =
      s ++ String.ofList (List.replicate n '\x00') := by
  have hzero : decodeLossy (List.replicate n 0) = List.replicate n '\x00' := by
    induction n with
    | zero => rfl
    | succ n ih => rw [List.replicate_succ, decodeLossy_cons rfl, ih]; rfl
  rw [toStringLossy, units, decodeLossy_encode_append, hzero, String.ofList_append,
    String.ofList_toList]

namespace Layout.Object

theorem unitBytes_append (us vs : List UInt16) : unitBytes (us ++ vs) = unitBytes us ++ unitBytes vs :=
  List.flatMap_append

/-- A string object with the units of a text, and a zero unit for every element behind them. -/
structure HoldsPadded (o : Object) (descriptor : UInt64) (text : String) : Prop where
  typeDescriptor : o.typeDescriptor = descriptor
  length_le : (Utf16.units text).length ≤ o.length.toNat
  codeUnits : o.codeUnits = Utf16.units text ++
    List.replicate (o.length.toNat - (Utf16.units text).length) 0
  reads : o.text = text ++
    String.ofList (List.replicate (o.length.toNat - (Utf16.units text).length) '\x00')
  /-- Only an array without a surplus reads as the text. -/
  exact_iff : o.text = text ↔ o.length.toNat = (Utf16.units text).length

theorem holdsPadded_of_codeUnits {o : Object} {descriptor : UInt64} {text : String}
    (hdescriptor : o.typeDescriptor = descriptor)
    (hlength : (Utf16.units text).length ≤ o.length.toNat)
    (hunits : o.codeUnits = Utf16.units text ++
      List.replicate (o.length.toNat - (Utf16.units text).length) 0) :
    o.HoldsPadded descriptor text := by
  have hreads : o.text = text ++
      String.ofList (List.replicate (o.length.toNat - (Utf16.units text).length) '\x00') := by
    rw [Object.text, hunits, Utf16.toStringLossy_units_append_zero]
  refine ⟨hdescriptor, hlength, hunits, hreads, ?_⟩
  constructor
  · intro hsame
    have hlist : text.toList ++
        List.replicate (o.length.toNat - (Utf16.units text).length) '\x00' = text.toList := by
      have hjoined := congrArg String.toList (hreads.symm.trans hsame)
      rwa [String.toList_append, String.toList_ofList] at hjoined
    have hnone := congrArg List.length (List.append_right_eq_self.mp hlist)
    rw [List.length_replicate, List.length_nil] at hnone
    omega
  · intro hsame
    rw [hreads, hsame, Nat.sub_self, List.replicate_zero, String.ofList_nil, String.append_empty]

/-- A fresh array of code units holds zero units, whatever stands behind its elements. -/
theorem FreshArray.exists_parts {o : Object} {descriptor : UInt64} {length : UInt32}
    (h : o.FreshArray charSize descriptor length) :
    ∃ rest, o = ofParts descriptor o.length
      (unitBytes (List.replicate o.length.toNat 0) ++ rest) := by
  have hroom := h.room
  have hparts := eq_ofParts (o := o) (by omega)
  have hdata : (o.bytes.drop dataOffset).length = o.size - dataOffset := List.length_drop
  have hzero : (o.bytes.drop dataOffset).take (charSize * o.length.toNat) =
      List.replicate (charSize * o.length.toNat) 0 := by
    rw [List.eq_replicate_iff, List.length_take, hdata]
    exact ⟨by omega, h.zeroed⟩
  have hsplit := List.take_append_drop (charSize * o.length.toNat) (o.bytes.drop dataOffset)
  rw [hzero, ← unitBytes_replicate_zero] at hsplit
  rw [h.typeDescriptor, ← hsplit] at hparts
  exact ⟨_, hparts⟩

/-- Units that fit into a fresh array replace as many zero units and nothing else. -/
theorem FreshArray.exists_filled {o : Object} {descriptor : UInt64} {length : UInt32}
    (h : o.FreshArray charSize descriptor length) {units : List UInt16}
    (hfits : units.length ≤ o.length.toNat) :
    ∃ rest, o = ofParts descriptor o.length
        (unitBytes (List.replicate units.length 0) ++ rest) ∧
      o.overwrite dataOffset (unitBytes units) = ofParts descriptor o.length
        (unitBytes units ++ rest) ∧
      ∃ slack, rest = unitBytes (List.replicate (o.length.toNat - units.length) 0) ++ slack := by
  obtain ⟨slack, hparts⟩ := h.exists_parts
  have hsplit : List.replicate o.length.toNat (0 : UInt16) =
      List.replicate units.length 0 ++ List.replicate (o.length.toNat - units.length) 0 := by
    rw [List.replicate_append_replicate, Nat.add_sub_cancel' hfits]
  rw [hsplit, unitBytes_append, List.append_assoc] at hparts
  have hlength : (unitBytes units).length = (unitBytes (List.replicate units.length 0)).length := by
    rw [length_unitBytes, length_unitBytes, List.length_replicate]
  have hwritten := overwrite_ofParts descriptor o.length hlength
    (unitBytes (List.replicate (o.length.toNat - units.length) 0) ++ slack)
  exact ⟨_, hparts, (congrArg (·.overwrite dataOffset (unitBytes units)) hparts).trans hwritten,
    slack, rfl⟩

theorem FreshArray.holdsPadded {o : Object} {descriptor : UInt64} {length : UInt32} {text : String}
    (h : o.FreshArray charSize descriptor length)
    (hlength : length.toNat = (Utf16.units text).length) :
    (o.overwrite dataOffset (unitBytes (Utf16.units text))).HoldsPadded descriptor text := by
  have hfits : (Utf16.units text).length ≤ o.length.toNat := hlength ▸ h.length_le
  obtain ⟨rest, -, hwritten, slack, rfl⟩ := h.exists_filled hfits
  have hread := readUnits_unitBytes_append (Utf16.units text)
    (o.length.toNat - (Utf16.units text).length)
    (unitBytes (List.replicate (o.length.toNat - (Utf16.units text).length) 0) ++ slack)
  rw [Nat.add_sub_cancel' hfits, unitBytes_replicate_zero, readUnits_replicate_zero] at hread
  rw [hwritten]
  apply holdsPadded_of_codeUnits
  · exact typeDescriptor_ofParts _ _ _
  · rw [length_ofParts]
    exact hfits
  · rw [length_ofParts, codeUnits_ofParts, unitBytes_replicate_zero, hread]

end Layout.Object

/-! ## A loaded literal -/

/-- The number of elements that a load asks for is the number of units. -/
theorem toNat_length {units : List UInt16} (h : units.length < 2 ^ 31) :
    (UInt32.ofNat units.length).toNat = units.length := by
  have hsize : UInt32.size = 2 ^ 32 := rfl
  exact UInt32.toNat_ofNat_of_lt' (by omega)

/-- A literal that was loaded from a lawful allocator has the given type and the units of its text,
and it reads as the text itself exactly if its array has no surplus. -/
theorem loadLiteral_holdsPadded {width : UInt64 → Nat} {allocator : Allocator}
    (lawful : allocator.Lawful width) {descriptor : UInt64}
    (string_type : width descriptor = charSize) (text : String) (p : Process Heap) {address : Nat}
    (loaded : (loadLiteral allocator descriptor text p).outcome = .ok (some address)) :
    ∃ o, (loadLiteral allocator descriptor text p).process.runtime.get? address = some o ∧
      o.HoldsPadded descriptor text := by
  obtain ⟨q, out, hshort, request, hfilled⟩ := exists_granted_of_loaded loaded
  obtain ⟨o, ho, hfresh⟩ := lawful.exists_granted request
  rw [string_type] at hfresh
  rw [hfilled]
  exact ⟨_, Heap.get?_fill_self ho _, hfresh.holdsPadded (toNat_length hshort)⟩

/-! ## Allocators that grant more than they are asked for -/

namespace Allocator

/-- A request leads to nothing, or to an array that is put at the end of the heap. -/
theorem request_cases (grant : Grant) (descriptor : UInt64) (length : UInt32) (p : Process Heap) :
    request grant descriptor length p =
        ⟨.ok none, p, [.event (.allocation descriptor length)]⟩ ∨
      ∃ total : UInt32, length.toNat ≤ total.toNat ∧
        request grant descriptor length p = ⟨.ok (some p.runtime.size),
          { p with runtime := (p.runtime.push (Object.ofParts descriptor total
              (List.replicate (total.toNat * charSize) 0))).2 },
          [.event (.allocation descriptor length)]⟩ := by
  cases grant with
  | refused => exact .inl rfl
  | granted extra =>
    have hevent : (Run.event (.allocation descriptor length) : Run Heap Unit) p =
        ⟨.ok (), p, [.event (.allocation descriptor length)]⟩ := rfl
    rw [request, Run.bind_of_ok hevent]
    dsimp only
    by_cases hlarge : UInt32.size ≤ length.toNat + extra.toNat
    · left
      rw [if_pos hlarge]
      rfl
    · right
      have hbound : UInt32.size = 0x100000000 := rfl
      have htotal : (UInt32.ofNat (length.toNat + extra.toNat)).toNat =
          length.toNat + extra.toNat := UInt32.toNat_ofNat_of_lt' (Nat.not_le.mp hlarge)
      have hchar : (UInt64.ofNat charSize).toNat = charSize := rfl
      have hfits : dataOffset + (UInt32.ofNat (length.toNat + extra.toNat)).toNat *
          (UInt64.ofNat charSize).toNat ≤ maxSize := by
        rw [htotal, hchar]
        show 12 + (length.toNat + extra.toNat) * 2 ≤ 0x7ffffffffffffff8
        omega
      refine ⟨.ofNat (length.toNat + extra.toNat), by omega, ?_⟩
      rw [if_neg hlarge, Object.array_eq_ofParts descriptor _ hfits]
      rfl

/-- An address that a request leads to is that of a fresh array. -/
theorem exists_array_of_request {grant : Grant} {descriptor : UInt64} {length : UInt32}
    {p : Process Heap} {address : Nat}
    (h : (request grant descriptor length p).outcome = .ok (some address)) :
    ∃ o, (request grant descriptor length p).process.runtime.get? address = some o ∧
      o.FreshArray charSize descriptor length := by
  rcases request_cases grant descriptor length p with hrefused | ⟨total, hle, hgranted⟩
  · rw [hrefused] at h
    cases h
  · rw [hgranted] at h ⊢
    cases h
    refine ⟨_, Heap.get?_push_self _ _, ?_⟩
    exact {
      typeDescriptor := Object.typeDescriptor_ofParts _ _ _
      length_le := by rwa [Object.length_ofParts]
      room := by
        apply Nat.le_of_eq
        rw [Object.length_ofParts, Object.size_ofParts, List.length_replicate, Nat.mul_comm]
      zeroed := by
        intro b hb
        rw [Object.drop_ofParts] at hb
        exact List.eq_of_mem_replicate (List.mem_of_mem_take hb)
    }

theorem direct_lawful (grant : Grant) : (direct grant).Lawful fun _ => charSize where
  newObject := by
    intro descriptor p address h
    obtain ⟨o, ho, hfresh⟩ := exists_array_of_request h
    have hroom := hfresh.room
    have hheader : wordSize ≤ dataOffset := by decide
    exact ⟨o, ho, hfresh.typeDescriptor, by omega⟩
  newArray := fun _ _ _ _ h => exists_array_of_request h

end Allocator

/-- An allocator that grants one element more than it is asked for keeps its contract, and a letter
loaded from it is followed by a null character. -/
theorem overallocated_literal :
    (Allocator.direct (.granted 1)).Lawful (fun _ => charSize) ∧
    (loadLiteral (.direct (.granted 1)) 0x40 "a" ⟨{}, 0, 0⟩).outcome = .ok (some 0) ∧
    ∃ o, (loadLiteral (.direct (.granted 1)) 0x40 "a" ⟨{}, 0, 0⟩).process.runtime.get? 0 = some o ∧
      o.typeDescriptor = 0x40 ∧ o.codeUnits = [0x61, 0] ∧ o.text = "a\x00" ∧ o.text ≠ "a" := by
  refine ⟨Allocator.direct_lawful _, rfl, _, rfl, ?_⟩
  decide

/-- A surrogate pair loaded from an allocator that grants two elements more. -/
theorem loadLiteral_holdsPadded_of_pair :
    (Allocator.direct (.granted 2)).Lawful (fun _ => charSize) ∧
    (loadLiteral (.direct (.granted 2)) 0x4D "😀" ⟨{}, 0, 0⟩).outcome = .ok (some 0) ∧
    ∃ o, (loadLiteral (.direct (.granted 2)) 0x4D "😀" ⟨{}, 0, 0⟩).process.runtime.get? 0 =
        some o ∧ o.HoldsPadded 0x4D "😀" := by
  have loaded :
      (loadLiteral (.direct (.granted 2)) 0x4D "😀" ⟨{}, 0, 0⟩).outcome = .ok (some 0) := rfl
  exact ⟨Allocator.direct_lawful _, loaded,
    loadLiteral_holdsPadded (Allocator.direct_lawful _) rfl "😀" _ loaded⟩

end ManagedBoot
