import ManagedBoot.Proofs.LoadedLiterals
/-!
A heap in a flat memory.

Objects stand at places of a memory such that no two of them overlap (`Heap.LaidOut`), and every heap
can be laid out like that (`Heap.exists_laidOut`). Units that fit into an array are written over its
first elements and over nothing else: told as a change of the object (`Layout.Object.Filled`) and as
a single store into the memory, which reaches into no other object (`Heap.LaidOut.store`).
-/
namespace ManagedBoot

open Layout

/-! ## Bytes in a flat memory -/

/-- The bytes of a memory, by address. -/
abbrev ByteMemory := Nat → UInt8

/-- The memory with bytes written from an address on, whatever stands there. -/
def ByteMemory.store (memory : ByteMemory) (address : Nat) (bytes : List UInt8) : ByteMemory :=
  fun x => if address ≤ x then bytes[x - address]?.getD (memory x) else memory x

theorem ByteMemory.store_of_outside (memory : ByteMemory) {address x : Nat} {bytes : List UInt8}
    (h : x < address ∨ address + bytes.length ≤ x) : memory.store address bytes x = memory x := by
  rw [store]
  split
  · have hnone : bytes[x - address]? = none := by
      rw [List.getElem?_eq_none_iff]
      omega
    rw [hnone, Option.getD_none]
  · rfl

theorem ByteMemory.store_of_inside (memory : ByteMemory) {address i : Nat} {bytes : List UInt8}
    {b : UInt8} (h : bytes[i]? = some b) : memory.store address bytes (address + i) = b := by
  rw [store, if_pos (Nat.le_add_right _ _), Nat.add_sub_cancel_left, h, Option.getD_some]

/-- A memory that holds every object of a heap, from the place of its address on, such that no two
of them overlap. -/
structure Heap.LaidOut (h : Heap) (place : Nat → Nat) (memory : ByteMemory) : Prop where
  holds : ∀ address o, h.get? address = some o →
    ∀ (i : Nat) (b : UInt8), o.bytes[i]? = some b → memory (place address + i) = b
  apart : ∀ address other o x, address ≠ other → h.get? address = some o →
    h.get? other = some x →
    place address + o.size ≤ place other ∨ place other + x.size ≤ place address

namespace Heap

/-- The bytes of the first objects of a heap, one object after the other. -/
def bytesBefore (h : Heap) (address : Nat) : List UInt8 :=
  (h.objects.take address).flatMap (·.bytes)

theorem bytesBefore_add (h : Heap) (m n : Nat) :
    h.bytesBefore (m + n) = h.bytesBefore m ++ ((h.objects.drop m).take n).flatMap (·.bytes) := by
  rw [bytesBefore, List.take_add, List.flatMap_append]
  rfl

theorem bytesBefore_succ {h : Heap} {address : Nat} {o : Object} (ho : h.get? address = some o) :
    h.bytesBefore (address + 1) = h.bytesBefore address ++ o.bytes := by
  have hobject : h.objects[address]? = some o := ho
  rw [bytesBefore, List.take_add_one, hobject, List.flatMap_append]
  show _ ++ (o.bytes ++ []) = _
  rw [List.append_nil]
  rfl

/-- Every heap can be laid out, for instance with its objects in a row. -/
theorem exists_laidOut (h : Heap) : ∃ place memory, h.LaidOut place memory := by
  have hmono : ∀ {m n : Nat}, m ≤ n → (h.bytesBefore m).length ≤ (h.bytesBefore n).length := by
    intro m n hmn
    obtain ⟨k, rfl⟩ := Nat.exists_eq_add_of_le hmn
    rw [bytesBefore_add, List.length_append]
    exact Nat.le_add_right _ _
  -- The place of an object is the length of all before it, so no later one begins before its end.
  have hend : ∀ {address other : Nat} {o : Object}, h.get? address = some o → address < other →
      (h.bytesBefore address).length + o.size ≤ (h.bytesBefore other).length := by
    intro address other o ho hlt
    have hnext := hmono (Nat.succ_le_of_lt hlt)
    rwa [Nat.succ_eq_add_one, bytesBefore_succ ho, List.length_append] at hnext
  refine ⟨fun address => (h.bytesBefore address).length,
    fun x => (h.bytesBefore h.size)[x]?.getD 0, ?_, ?_⟩
  · intro address o ho i b hb
    have hi : i < o.bytes.length := (List.getElem?_eq_some_iff.mp hb).1
    have hlt : address < h.size := (List.getElem?_eq_some_iff.mp ho).1
    obtain ⟨k, hk⟩ := Nat.exists_eq_add_of_le (Nat.succ_le_of_lt hlt)
    show (h.bytesBefore h.size)[_]?.getD 0 = b
    rw [hk, Nat.succ_eq_add_one, bytesBefore_add, bytesBefore_succ ho, List.append_assoc,
      List.getElem?_append_right (Nat.le_add_right _ _), Nat.add_sub_cancel_left,
      List.getElem?_append_left hi, hb, Option.getD_some]
  · intro address other o x hne ho hx
    rcases Nat.lt_or_gt_of_ne hne with hlt | hlt
    · exact .inl (hend ho hlt)
    · exact .inr (hend hx hlt)

end Heap
/-! ## Filling an array -/

/-- Two lists agree wherever a part of the same length is exchanged in between. -/
theorem getElem?_exchanged {before middle middle' rest : List UInt8} {i : Nat}
    (h : middle'.length = middle.length)
    (hi : i < before.length ∨ before.length + middle.length ≤ i) :
    (before ++ (middle' ++ rest))[i]? = (before ++ (middle ++ rest))[i]? := by
  rcases hi with hi | hi
  · rw [List.getElem?_append_left hi, List.getElem?_append_left hi]
  · have hbefore : before.length ≤ i := by omega
    have hmiddle : middle.length ≤ i - before.length := by omega
    rw [List.getElem?_append_right hbefore, List.getElem?_append_right hbefore,
      List.getElem?_append_right hmiddle, List.getElem?_append_right (h ▸ hmiddle), h]

namespace Layout.Object

/-- The object `o'` is `o` with units written over the first bytes of its data, which it has room
for, and is otherwise unchanged. -/
structure Filled (o : Object) (units : List UInt16) (o' : Object) : Prop where
  room : dataOffset + charSize * units.length ≤ o.size
  size : o'.size = o.size
  data : (o'.bytes.drop dataOffset).take (charSize * units.length) = unitBytes units
  rest : ∀ i, i < dataOffset ∨ dataOffset + charSize * units.length ≤ i → o'.bytes[i]? = o.bytes[i]?
  typeDescriptor : o'.typeDescriptor = o.typeDescriptor
  length : o'.length = o.length
  surplus : o'.codeUnits.drop units.length = o.codeUnits.drop units.length

theorem FreshArray.filled {o : Object} {descriptor : UInt64} {length : UInt32}
    (h : o.FreshArray charSize descriptor length) {units : List UInt16}
    (hfits : units.length ≤ o.length.toNat) :
    o.Filled units (o.overwrite dataOffset (unitBytes units)) := by
  obtain ⟨rest, hparts, hwritten, slack, hrest⟩ := h.exists_filled hfits
  generalize o.overwrite dataOffset (unitBytes units) = o' at hwritten
  generalize hcount : o.length = count at hfits hparts hwritten hrest
  subst hwritten hparts
  have hzero : (unitBytes (List.replicate units.length 0)).length = charSize * units.length := by
    rw [length_unitBytes, List.length_replicate]
  have hlength : (unitBytes units).length = (unitBytes (List.replicate units.length 0)).length := by
    rw [hzero, length_unitBytes]
  -- Behind the exchanged units stand the same zero units before and after.
  have hread : ∀ us : List UInt16, us.length = units.length →
      (readUnits count.toNat (unitBytes us ++ rest)).drop units.length =
        List.replicate (count.toNat - units.length) 0 := by
    intro us hus
    have hunits := readUnits_unitBytes_append us (count.toNat - us.length) rest
    rw [Nat.add_sub_cancel' (by omega), hus, hrest, unitBytes_replicate_zero,
      readUnits_replicate_zero] at hunits
    rw [hrest, unitBytes_replicate_zero, hunits, ← hus, List.drop_left]
  exact {
    room := by
      rw [size_ofParts, List.length_append, hzero]
      omega
    size := by rw [size_ofParts, size_ofParts, List.length_append, List.length_append, hlength]
    data := by
      rw [drop_ofParts, ← length_unitBytes]
      exact List.take_left
    rest := by
      intro i hi
      apply getElem?_exchanged hlength
      rwa [length_header, hzero]
    typeDescriptor := by rw [typeDescriptor_ofParts, typeDescriptor_ofParts]
    length := by rw [length_ofParts, length_ofParts]
    surplus := by
      rw [codeUnits_ofParts, codeUnits_ofParts, hread units rfl,
        hread _ List.length_replicate]
  }

end Layout.Object

/-- A single store of the units at the data of an array turns a memory that holds the heap into one
that holds the filled heap: it reaches into no other object. -/
theorem Heap.LaidOut.store {h : Heap} {place : Nat → Nat} {memory : ByteMemory}
    (laid : h.LaidOut place memory) {address : Nat} {o : Object} {units : List UInt16}
    (ho : h.get? address = some o)
    (filled : o.Filled units (o.overwrite dataOffset (unitBytes units))) :
    (h.fill address units).LaidOut place
      (memory.store (place address + dataOffset) (unitBytes units)) := by
  have hself := get?_fill_self ho units
  have hlength := length_unitBytes units
  have hroom := filled.room
  constructor
  · intro other x hx i b hb
    have hi : i < x.size := (List.getElem?_eq_some_iff.mp hb).1
    by_cases hother : address = other
    · subst hother
      rw [hself] at hx
      cases hx
      -- Within the written data the store decides, and elsewhere the object is as it was.
      by_cases hinside : dataOffset ≤ i ∧ i < dataOffset + charSize * units.length
      · obtain ⟨j, rfl⟩ := Nat.exists_eq_add_of_le hinside.1
        have hj : (unitBytes units)[j]? = some b := by
          rw [← filled.data, List.getElem?_take_of_lt (by omega), List.getElem?_drop]
          exact hb
        rw [← Nat.add_assoc]
        exact memory.store_of_inside hj
      · rw [memory.store_of_outside (by omega)]
        rw [filled.rest i (by omega)] at hb
        exact laid.holds address o ho i b hb
    · rw [get?_fill_of_ne h hother] at hx
      have hapart := laid.apart address other o x hother ho hx
      rw [memory.store_of_outside (by omega)]
      exact laid.holds other x hx i b hb
  · -- Objects keep their sizes, so they stay apart.
    have hbefore : ∀ other x, (h.fill address units).get? other = some x →
        ∃ y, h.get? other = some y ∧ y.size = x.size := by
      intro other x hx
      by_cases hother : address = other
      · subst hother
        rw [hself] at hx
        cases hx
        exact ⟨o, ho, filled.size.symm⟩
      · rw [get?_fill_of_ne h hother] at hx
        exact ⟨x, hx, rfl⟩
    intro first second x y hne hx hy
    obtain ⟨x', hx', hsizex⟩ := hbefore first x hx
    obtain ⟨y', hy', hsizey⟩ := hbefore second y hy
    rw [← hsizex, ← hsizey]
    exact laid.apart first second x' y' hne hx' hy'

end ManagedBoot
