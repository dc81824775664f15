import Mathlib.Algebra.Group.Nat.Defs
import ManagedBoot.Layout.Object
/-!
Objects taken apart into descriptor, length and data.

Little-endian bytes and numbers turn into each other without loss, and so do code units and their
bytes. An object that is large enough for the header therefore is its descriptor, its length and the
bytes behind them (`eq_ofParts`). The accessors of an object in parts read the parts back, and
writing into its data leaves the other two alone (`overwrite_ofParts`). The size of an array is
exact (`Contract.arraySize_eq_some_iff`), and what the constructors build is given by its parts:
`array_eq_ofParts` for arrays, `ofUnits_eq_ofParts` for strings.
-/
namespace ManagedBoot.Layout

/-! ## Little-endian numbers -/

@[simp] theorem length_littleEndian (width n : Nat) : (littleEndian width n).length = width := by
  induction width generalizing n with
  | zero => rfl
  | succ width ih => rw [littleEndian, List.length_cons, ih]

theorem ofLittleEndian_littleEndian {width n : Nat} (h : n < 256 ^ width) :
    ofLittleEndian (littleEndian width n) = n := by
  induction width generalizing n with
  | zero =>
    have hzero : n = 0 := by omega
    rw [hzero]
    rfl
  | succ width ih =>
    have hrest : n / 256 < 256 ^ width := by
      rw [Nat.pow_succ] at h
      exact Nat.div_lt_of_lt_mul (by omega)
    rw [littleEndian, ofLittleEndian, ih hrest]
    show n % 256 + 256 * (n / 256) = n
    omega

theorem ofLittleEndian_lt (bs : List UInt8) : ofLittleEndian bs < 256 ^ bs.length := by
  induction bs with
  | nil => exact Nat.one_pos
  | cons b bs ih =>
    have hb : b.toNat < 256 := b.toNat_lt
    rw [ofLittleEndian, List.length_cons, Nat.pow_succ]
    omega

theorem littleEndian_ofLittleEndian (bs : List UInt8) :
    littleEndian bs.length (ofLittleEndian bs) = bs := by
  induction bs with
  | nil => rfl
  | cons b bs ih =>
    have hb : b.toNat < 256 := b.toNat_lt
    have hlow : UInt8.ofNat (b.toNat + 256 * ofLittleEndian bs) = b := by
      apply UInt8.toNat_inj.mp
      show (b.toNat + 256 * ofLittleEndian bs) % 256 = b.toNat
      omega
    have hhigh : (b.toNat + 256 * ofLittleEndian bs) / 256 = ofLittleEndian bs := by omega
    rw [ofLittleEndian, List.length_cons, littleEndian, hlow, hhigh, ih]

/-! ## Code units -/

theorem unitBytes_cons (u : UInt16) (us : List UInt16) :
    unitBytes (u :: us) =
      UInt8.ofNat u.toNat :: UInt8.ofNat (u.toNat / 256) :: unitBytes us := rfl

@[simp] theorem length_unitBytes (us : List UInt16) :
    (unitBytes us).length = charSize * us.length := by
  induction us with
  | nil => rfl
  | cons u us ih =>
    rw [unitBytes_cons, List.length_cons, List.length_cons, List.length_cons, ih]
    show 2 * us.length + 1 + 1 = 2 * (us.length + 1)
    omega

@[simp] theorem readUnits_zero (bytes : List UInt8) : readUnits 0 bytes = [] := by
  cases bytes <;> rfl

/-- Units are read back from their bytes, and then whatever stands behind them. -/
theorem readUnits_unitBytes_append (us : List UInt16) (n : Nat) (rest : List UInt8) :
    readUnits (us.length + n) (unitBytes us ++ rest) = us ++ readUnits n rest := by
  induction us with
  | nil =>
    show readUnits (0 + n) rest = readUnits n rest
    rw [Nat.zero_add]
  | cons u us ih =>
    have hu : u.toNat < 0x10000 := u.toNat_lt
    have hunit : UInt16.ofNat ((UInt8.ofNat u.toNat).toNat +
        256 * (UInt8.ofNat (u.toNat / 256)).toNat) = u := by
      apply UInt16.toNat_inj.mp
      show (u.toNat % 256 + 256 * (u.toNat / 256 % 256)) % 0x10000 = u.toNat
      omega
    have hlength : (u :: us).length + n = us.length + n + 1 := by
      rw [List.length_cons]
      omega
    rw [unitBytes_cons, hlength, List.cons_append, List.cons_append, readUnits, hunit, ih,
      List.cons_append]

theorem readUnits_unitBytes (us : List UInt16) (rest : List UInt8) :
    readUnits us.length (unitBytes us ++ rest) = us := by
  have hread := readUnits_unitBytes_append us 0 rest
  rwa [Nat.add_zero, readUnits_zero, List.append_nil] at hread

theorem unitBytes_replicate_zero (n : Nat) :
    unitBytes (List.replicate n 0) = List.replicate (charSize * n) 0 := by
  induction n with
  | zero => rfl
  | succ n ih =>
    have hlength : charSize * (n + 1) = charSize * n + 1 + 1 := rfl
    rw [List.replicate_succ, unitBytes_cons, ih, hlength, List.replicate_succ,
      List.replicate_succ]
    rfl

/-- Zero bytes are read as zero units. -/
theorem readUnits_replicate_zero (n : Nat) (rest : List UInt8) :
    readUnits n (List.replicate (charSize * n) 0 ++ rest) = List.replicate n 0 := by
  have hread := readUnits_unitBytes (List.replicate n 0) rest
  rwa [unitBytes_replicate_zero, List.length_replicate] at hread

/-! ## Sizes -/

/-- A checked word is there exactly if its number fits, and then it is that number. -/
theorem checked_eq_some_iff {word result : UInt64} {n : Nat}
    (h : n < UInt64.size → word.toNat = n) :
    (if n < UInt64.size then some word else none) = some result ↔ result.toNat = n := by
  have hlt : result.toNat < UInt64.size := result.toNat_lt
  constructor
  · intro hsome
    split at hsome
    · next hfits =>
      cases hsome
      exact h hfits
    · cases hsome
  · intro hnumber
    have hfits : n < UInt64.size := hnumber ▸ hlt
    have hword : word = result := UInt64.toNat_inj.mp ((h hfits).trans hnumber.symm)
    rw [if_pos hfits, hword]

theorem checkedMul_eq_some_iff {a b product : UInt64} :
    checkedMul a b = some product ↔ product.toNat = a.toNat * b.toNat := by
  apply checked_eq_some_iff
  intro hfits
  rw [UInt64.toNat_mul, Nat.mod_eq_of_lt hfits]

theorem checkedAdd_eq_some_iff {a b sum : UInt64} :
    checkedAdd a b = some sum ↔ sum.toNat = a.toNat + b.toNat := by
  apply checked_eq_some_iff
  intro hfits
  rw [UInt64.toNat_add, Nat.mod_eq_of_lt hfits]

namespace Contract

variable (c : Contract) {length elementSize : UInt64}

/-- The size of an array is exact. -/
theorem arraySize_eq_some_iff {size : UInt64} :
    c.arraySize length elementSize = some size ↔
      size.toNat = c.dataOffset.toNat + length.toNat * elementSize.toNat := by
  have hlt : size.toNat < UInt64.size := size.toNat_lt
  show (checkedMul length elementSize).bind (checkedAdd · c.dataOffset) = some size ↔ _
  rw [Option.bind_eq_some_iff]
  constructor
  · rintro ⟨data, hdata, hsize⟩
    rw [checkedMul_eq_some_iff] at hdata
    rw [checkedAdd_eq_some_iff] at hsize
    omega
  · intro hsize
    have hdata : (UInt64.ofNat (length.toNat * elementSize.toNat)).toNat =
        length.toNat * elementSize.toNat := UInt64.toNat_ofNat_of_lt' (by omega)
    refine ⟨.ofNat (length.toNat * elementSize.toNat), checkedMul_eq_some_iff.mpr hdata, ?_⟩
    rw [checkedAdd_eq_some_iff]
    omega

/-- An array has the size that a word can hold. -/
theorem arraySize_of_lt
    (h : c.dataOffset.toNat + length.toNat * elementSize.toNat < UInt64.size) :
    c.arraySize length elementSize =
      some (.ofNat (c.dataOffset.toNat + length.toNat * elementSize.toNat)) :=
  c.arraySize_eq_some_iff.mpr (UInt64.toNat_ofNat_of_lt' h)

end Contract

namespace Object

/-! ## Objects in parts -/

/-- The bytes of a descriptor and a length. -/
def header (descriptor : UInt64) (length : UInt32) : List UInt8 :=
  littleEndian wordSize descriptor.toNat ++ littleEndian 4 length.toNat

/-- The object with the given descriptor, length and data. -/
def ofParts (descriptor : UInt64) (length : UInt32) (data : List UInt8) : Object :=
  ⟨header descriptor length ++ data⟩

variable (descriptor : UInt64) (length : UInt32) (data : List UInt8)

@[simp] theorem length_header : (header descriptor length).length = dataOffset := by
  rw [header, List.length_append, length_littleEndian, length_littleEndian]
  rfl

@[simp] theorem size_ofParts : (ofParts descriptor length data).size = dataOffset + data.length := by
  rw [size, ofParts, List.length_append, length_header]

@[simp] theorem drop_ofParts : (ofParts descriptor length data).bytes.drop dataOffset = data :=
  List.drop_left' (length_header descriptor length)

@[simp] theorem typeDescriptor_ofParts :
    (ofParts descriptor length data).typeDescriptor = descriptor := by
  have hlt : descriptor.toNat < 256 ^ wordSize := descriptor.toNat_lt
  have hword : (ofParts descriptor length data).bytes.take wordSize =
      littleEndian wordSize descriptor.toNat := by
    rw [ofParts, header, List.append_assoc]
    exact List.take_left' (length_littleEndian _ _)
  rw [typeDescriptor, numberAt, List.drop_zero, hword, ofLittleEndian_littleEndian hlt,
    UInt64.ofNat_toNat]

@[simp] theorem length_ofParts : (ofParts descriptor length data).length = length := by
  have hlt : length.toNat < 256 ^ 4 := length.toNat_lt
  have hcount : ((ofParts descriptor length data).bytes.drop lengthOffset).take 4 =
      littleEndian 4 length.toNat := by
    have hword : (littleEndian wordSize descriptor.toNat).length = lengthOffset :=
      length_littleEndian _ _
    rw [ofParts, header, List.append_assoc, List.drop_left' hword]
    exact List.take_left' (length_littleEndian _ _)
  rw [Object.length, numberAt, hcount, ofLittleEndian_littleEndian hlt, UInt32.ofNat_toNat]

@[simp] theorem codeUnits_ofParts :
    (ofParts descriptor length data).codeUnits = readUnits length.toNat data := by
  rw [codeUnits, length_ofParts, drop_ofParts]

/-- An object with room for a header consists of what its accessors read and of its data. -/
theorem eq_ofParts {o : Object} (h : dataOffset ≤ o.size) :
    o = ofParts o.typeDescriptor o.length (o.bytes.drop dataOffset) := by
  have hbytes : dataOffset ≤ o.bytes.length := h
  have hword : (o.bytes.take wordSize).length = wordSize := by
    rw [List.length_take]
    exact Nat.min_eq_left (Nat.le_trans (by decide) hbytes)
  have hcount : ((o.bytes.drop lengthOffset).take 4).length = 4 := by
    rw [List.length_take, List.length_drop]
    have hroom : lengthOffset + 4 ≤ o.bytes.length := hbytes
    omega
  have hdescriptor : littleEndian wordSize o.typeDescriptor.toNat = o.bytes.take wordSize := by
    have hlt := ofLittleEndian_lt (o.bytes.take wordSize)
    have hread := littleEndian_ofLittleEndian (o.bytes.take wordSize)
    rw [hword] at hlt hread
    rw [typeDescriptor, numberAt, List.drop_zero, UInt64.toNat_ofNat_of_lt' hlt, hread]
  have hlength : littleEndian 4 o.length.toNat = (o.bytes.drop lengthOffset).take 4 := by
    have hlt := ofLittleEndian_lt ((o.bytes.drop lengthOffset).take 4)
    have hread := littleEndian_ofLittleEndian ((o.bytes.drop lengthOffset).take 4)
    rw [hcount] at hlt hread
    rw [Object.length, numberAt, UInt32.toNat_ofNat_of_lt' hlt, hread]
  have hall : o.bytes = o.bytes.take wordSize ++ (o.bytes.drop lengthOffset).take 4 ++
      o.bytes.drop dataOffset := by
    calc o.bytes
        = o.bytes.take wordSize ++ o.bytes.drop lengthOffset :=
          (List.take_append_drop wordSize o.bytes).symm
      _ = o.bytes.take wordSize ++ ((o.bytes.drop lengthOffset).take 4 ++
            (o.bytes.drop lengthOffset).drop 4) := by rw [List.take_append_drop]
      _ = _ := by rw [List.drop_drop, List.append_assoc]; rfl
  cases o with
  | mk bytes => exact congrArg Object.mk (by rw [header, hdescriptor, hlength]; exact hall)

/-- As many bytes as the part they overwrite take its place. -/
theorem overwrite_append (before middle rest : List UInt8) {bytes : List UInt8}
    (h : bytes.length = middle.length) :
    (Object.mk (before ++ (middle ++ rest))).overwrite before.length bytes =
      ⟨before ++ (bytes ++ rest)⟩ := by
  have hfits : before.length + bytes.length ≤ (Object.mk (before ++ (middle ++ rest))).size := by
    rw [size, List.length_append, List.length_append]
    omega
  rw [overwrite, if_pos hfits, List.take_left, List.drop_length_add_append, h, List.drop_left,
    List.append_assoc]

theorem overwrite_ofParts {old bytes : List UInt8} (h : bytes.length = old.length)
    (rest : List UInt8) :
    (ofParts descriptor length (old ++ rest)).overwrite dataOffset bytes =
      ofParts descriptor length (bytes ++ rest) := by
  have hwritten := overwrite_append (header descriptor length) old rest h
  rwa [length_header] at hwritten

/-- Bytes written at the data take the place of as many bytes there. -/
theorem overwrite_data {o : Object} {bytes : List UInt8} (h : dataOffset + bytes.length ≤ o.size) :
    o.overwrite dataOffset bytes =
      ofParts o.typeDescriptor o.length
        (bytes ++ (o.bytes.drop dataOffset).drop bytes.length) := by
  have hparts := eq_ofParts (o := o) (by omega)
  have hold : bytes.length = ((o.bytes.drop dataOffset).take bytes.length).length := by
    have hsize : dataOffset + bytes.length ≤ o.bytes.length := h
    rw [List.length_take, List.length_drop]
    omega
  calc o.overwrite dataOffset bytes
      = (ofParts o.typeDescriptor o.length ((o.bytes.drop dataOffset).take bytes.length ++
          (o.bytes.drop dataOffset).drop bytes.length)).overwrite dataOffset bytes := by
        rw [List.take_append_drop, ← hparts]
    _ = _ := overwrite_ofParts _ _ hold _

/-! ## What the constructors build -/

theorem withHeader_eq_ofParts {o : Object} (h : dataOffset ≤ o.size) :
    o.withHeader descriptor length = ofParts descriptor length (o.bytes.drop dataOffset) := by
  have hparts := eq_ofParts h
  generalize o.bytes.drop dataOffset = rest at hparts ⊢
  generalize o.typeDescriptor = word at hparts
  generalize o.length = count at hparts
  have hword : o.overwrite 0 (littleEndian wordSize descriptor.toNat) =
      ⟨littleEndian wordSize descriptor.toNat ++ (littleEndian 4 count.toNat ++ rest)⟩ := by
    have hlength : (littleEndian wordSize descriptor.toNat).length =
        (littleEndian wordSize word.toNat).length := by
      rw [length_littleEndian, length_littleEndian]
    rw [hparts, ofParts, header, List.append_assoc]
    exact overwrite_append [] _ _ hlength
  have hcount : (Object.mk (littleEndian wordSize descriptor.toNat ++
      (littleEndian 4 count.toNat ++ rest))).overwrite lengthOffset (littleEndian 4 length.toNat) =
      ⟨littleEndian wordSize descriptor.toNat ++ (littleEndian 4 length.toNat ++ rest)⟩ := by
    have hlength : (littleEndian 4 length.toNat).length = (littleEndian 4 count.toNat).length := by
      rw [length_littleEndian, length_littleEndian]
    have hwritten := overwrite_append (littleEndian wordSize descriptor.toNat) _ rest hlength
    rwa [length_littleEndian] at hwritten
  rw [withHeader, hword, ofParts, header, List.append_assoc]
  exact hcount

theorem zeroed_of_le {size : UInt64} (hlow : wordSize ≤ size.toNat) (hhigh : size.toNat ≤ maxSize) :
    zeroed size = .ok ⟨List.replicate size.toNat 0⟩ := by
  have hlays : ¬(decide (size.toNat < wordSize) || decide (maxSize < size.toNat)) = true := by
    rw [Bool.or_eq_true, decide_eq_true_iff, decide_eq_true_iff]
    omega
  rw [zeroed, if_neg hlays]

/-- An array whose size a word holds is a buffer of that size with a header. -/
theorem array_of_lt {elementSize : UInt64}
    (h : dataOffset + length.toNat * elementSize.toNat < UInt64.size) :
    array descriptor length elementSize =
      (zeroed (.ofNat (dataOffset + length.toNat * elementSize.toNat))).map
        (·.withHeader descriptor length) := by
  have hsize : Contract.host.arraySize length.toUInt64 elementSize =
      some (.ofNat (dataOffset + length.toNat * elementSize.toNat)) :=
    Contract.host.arraySize_of_lt h
  rw [array, hsize]

/-- An array that can be laid out has zeroed elements. -/
theorem array_eq_ofParts {elementSize : UInt64}
    (h : dataOffset + length.toNat * elementSize.toNat ≤ maxSize) :
    array descriptor length elementSize =
      .ok (ofParts descriptor length (List.replicate (length.toNat * elementSize.toNat) 0)) := by
  have hmax : maxSize < UInt64.size := by decide
  have hoffset : wordSize ≤ dataOffset := by decide
  have hlt : dataOffset + length.toNat * elementSize.toNat < UInt64.size := by omega
  have htotal : (UInt64.ofNat (dataOffset + length.toNat * elementSize.toNat)).toNat =
      dataOffset + length.toNat * elementSize.toNat := UInt64.toNat_ofNat_of_lt' hlt
  have hzeroed : zeroed (.ofNat (dataOffset + length.toNat * elementSize.toNat)) = .ok ⟨_⟩ :=
    zeroed_of_le (by omega) (by omega)
  have hroom : dataOffset ≤ (Object.mk
      (List.replicate (dataOffset + length.toNat * elementSize.toNat) 0)).size := by
    rw [size, List.length_replicate]
    omega
  rw [htotal] at hzeroed
  rw [array_of_lt descriptor length hlt, hzeroed]
  show Except.ok (Object.withHeader _ descriptor length) = _
  rw [withHeader_eq_ofParts descriptor length hroom, List.drop_replicate, Nat.add_sub_cancel_left]

/-- A string whose length fits its header holds its units. -/
theorem ofUnits_eq_ofParts {units : List UInt16} (h : units.length < UInt32.size) :
    ofUnits descriptor units =
      .ok (ofParts descriptor (.ofNat units.length) (unitBytes units)) := by
  have hbound : UInt32.size = 0x100000000 := rfl
  have hlength : (UInt32.ofNat units.length).toNat = units.length := UInt32.toNat_ofNat_of_lt' h
  have hchar : (UInt64.ofNat charSize).toNat = charSize := rfl
  have hfits : dataOffset + (UInt32.ofNat units.length).toNat * (UInt64.ofNat charSize).toNat ≤
      maxSize := by
    rw [hlength, hchar]
    show 12 + units.length * 2 ≤ 0x7ffffffffffffff8
    omega
  have hdata : (unitBytes units).length =
      (List.replicate (units.length * charSize) (0 : UInt8)).length := by
    rw [length_unitBytes, List.length_replicate, Nat.mul_comm]
  have hwritten := overwrite_ofParts descriptor (.ofNat units.length) hdata []
  rw [List.append_nil, List.append_nil] at hwritten
  rw [ofUnits, if_neg (Nat.not_le.mpr h), array_eq_ofParts descriptor _ hfits, hlength, hchar]
  exact congrArg Except.ok hwritten

end Object
end ManagedBoot.Layout
