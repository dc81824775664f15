import ManagedBoot.Proofs.ObjectParts
/-!
The bytes that a string is read from.

An accessor looks at no byte behind the field or the code units it reads: cutting the object off
there (`Object.upTo`) changes nothing for it. So two objects read alike if they agree up to the end
of their code units, and a write behind a point leaves alone whatever is read before it
(`Object.upTo_overwrite`). `Object.reads_own_bytes` puts this together for strings.
-/
namespace ManagedBoot.Layout

/-- Units are read from their own bytes only. -/
theorem readUnits_take {n k : Nat} (h : charSize * n ≤ k) (bytes : List UInt8) :
    readUnits n (bytes.take k) = readUnits n bytes := by
  induction n generalizing k bytes with
  | zero => rw [readUnits_zero, readUnits_zero]
  | succ n ih =>
    have hroom : charSize * n + 2 ≤ k := h
    obtain ⟨k, rfl⟩ : ∃ k', k = k' + 2 := ⟨k - 2, by omega⟩
    match bytes with
    | [] => rfl
    | [_] => rfl
    | low :: high :: rest =>
      rw [List.take_succ_cons, List.take_succ_cons, readUnits, readUnits, ih (by omega)]

namespace Object

/-- The object cut off at an offset. -/
def upTo (o : Object) (n : Nat) : Object := ⟨o.bytes.take n⟩

variable (o : Object)

theorem numberAt_upTo {offset width n : Nat} (h : offset + width ≤ n) :
    (o.upTo n).numberAt offset width = o.numberAt offset width := by
  have hroom : width ≤ n - offset := by omega
  rw [numberAt, numberAt, upTo, List.drop_take, List.take_take, Nat.min_eq_left hroom]

theorem typeDescriptor_upTo {n : Nat} (h : dataOffset ≤ n) :
    (o.upTo n).typeDescriptor = o.typeDescriptor := by
  have hfield : 0 + wordSize ≤ n := Nat.le_trans (by decide) h
  rw [typeDescriptor, typeDescriptor, numberAt_upTo o hfield]

theorem length_upTo {n : Nat} (h : dataOffset ≤ n) : (o.upTo n).length = o.length := by
  rw [Object.length, Object.length, numberAt_upTo o h]

theorem codeUnits_upTo {n : Nat} (h : dataOffset + charSize * o.length.toNat ≤ n) :
    (o.upTo n).codeUnits = o.codeUnits := by
  have hheader : dataOffset ≤ n := by omega
  have hroom : charSize * o.length.toNat ≤ n - dataOffset := by omega
  rw [codeUnits, codeUnits, length_upTo o hheader, upTo, List.drop_take, readUnits_take hroom]

/-- A write leaves what is before it as it was. -/
theorem upTo_overwrite {n offset : Nat} (h : n ≤ offset) (data : List UInt8) :
    (o.overwrite offset data).upTo n = o.upTo n := by
  rw [overwrite]
  split
  · next hfits =>
    have hbefore : n ≤ (o.bytes.take offset).length := by
      rw [List.length_take]
      have hsize : offset + data.length ≤ o.bytes.length := hfits
      omega
    rw [upTo, upTo, List.append_assoc, List.take_append_of_le_length hbefore, List.take_take,
      Nat.min_eq_left h]
  · rfl

/-- Units written over the data of an object with room for them are the units it reads. -/
theorem codeUnits_overwrite {us : List UInt16} (hlength : us.length = o.length.toNat)
    (hroom : dataOffset + charSize * us.length ≤ o.size) :
    (o.overwrite dataOffset (unitBytes us)).codeUnits = us := by
  rw [overwrite_data (by rwa [length_unitBytes]), codeUnits_ofParts, ← hlength, readUnits_unitBytes]

/-- Every accessor reads the same in two objects. -/
structure ReadsAlike (o other : Object) : Prop where
  typeDescriptor : o.typeDescriptor = other.typeDescriptor
  length : o.length = other.length
  codeUnits : o.codeUnits = other.codeUnits
  text : o.text = other.text
  written : ∀ sink, o.writeTo sink = other.writeTo sink

/-- Objects that agree up to their data have the same header. -/
theorem header_of_upTo {o other : Object} {n : Nat} (hheader : dataOffset ≤ n)
    (h : o.upTo n = other.upTo n) :
    o.typeDescriptor = other.typeDescriptor ∧ o.length = other.length := by
  constructor
  · rw [← typeDescriptor_upTo o hheader, h, typeDescriptor_upTo other hheader]
  · rw [← length_upTo o hheader, h, length_upTo other hheader]

/-- Objects that agree up to the end of the code units of one of them read alike. -/
theorem readsAlike_of_upTo {o other : Object} {n : Nat}
    (hend : dataOffset + charSize * other.length.toNat ≤ n) (h : o.upTo n = other.upTo n) :
    o.ReadsAlike other := by
  obtain ⟨hdescriptor, hlength⟩ := header_of_upTo (by omega) h
  have hend' : dataOffset + charSize * o.length.toNat ≤ n := by
    rw [hlength]
    exact hend
  have hunits : o.codeUnits = other.codeUnits := by
    rw [← codeUnits_upTo o hend', h, codeUnits_upTo other hend]
  have htext : o.text = other.text := by rw [Object.text, Object.text, hunits]
  exact {
    typeDescriptor := hdescriptor
    length := hlength
    codeUnits := hunits
    text := htext
    written := fun sink => by rw [writeTo, writeTo, htext]
  }

/-- A string reads the same in every buffer that agrees with its own up to the end of its code
units. Writing into the data keeps descriptor and length, writing behind the code units keeps the
whole string, and as many units as the length says are read back once they are written. -/
theorem reads_own_bytes :
    (∀ o other : Object, 12 + 2 * o.length.toNat ≤ o.size →
      12 + 2 * o.length.toNat ≤ other.size →
      other.bytes.take (12 + 2 * o.length.toNat) = o.bytes.take (12 + 2 * o.length.toNat) →
      other.ReadsAlike o) ∧
    (∀ (o : Object) (offset : Nat) (data : List UInt8), 12 ≤ offset →
      offset + data.length ≤ o.size →
      (o.overwrite offset data).typeDescriptor = o.typeDescriptor ∧
      (o.overwrite offset data).length = o.length) ∧
    (∀ (o : Object) (offset : Nat) (data : List UInt8), 12 + 2 * o.length.toNat ≤ offset →
      offset + data.length ≤ o.size → (o.overwrite offset data).ReadsAlike o) ∧
    ∀ (o : Object) (us : List UInt16), 12 + 2 * o.length.toNat ≤ o.size →
      us.length = o.length.toNat → (o.overwrite 12 (unitBytes us)).codeUnits = us := by
  refine ⟨?_, ?_, ?_, ?_⟩
  · intro o other _ _ hagree
    exact readsAlike_of_upTo (Nat.le_refl _) (congrArg Object.mk hagree)
  · intro o offset data hdata _
    exact header_of_upTo (Nat.le_refl _) (upTo_overwrite o hdata data)
  · intro o offset data hbehind _
    exact readsAlike_of_upTo (Nat.le_refl _) (upTo_overwrite o hbehind data)
  · intro o us hroom hlength
    exact codeUnits_overwrite o hlength (by rw [hlength]; exact hroom)

/-- A string of one letter in a buffer with another unit behind it. -/
theorem reads_own_bytes_of_trailing :
    (ofParts 0x40 1 (unitBytes [0x61, 0x62])).ReadsAlike (ofParts 0x40 1 (unitBytes [0x61])) ∧
    ((ofParts 0x40 1 (unitBytes [0x61, 0x62])).overwrite 12 [0xFF, 0xFF, 0xFF]).length = 1 ∧
    ((ofParts 0x40 1 (unitBytes [0x61, 0x62])).overwrite 14 [0xFF]).ReadsAlike
      (ofParts 0x40 1 (unitBytes [0x61, 0x62])) ∧
    ((ofParts 0x40 1 (unitBytes [0x61, 0x62])).overwrite 12 (unitBytes [0xD800])).codeUnits =
      [0xD800] := by
  obtain ⟨halike, hheader, hbehind, hwritten⟩ := reads_own_bytes
  refine ⟨?_, ?_, ?_, ?_⟩
  · exact halike _ _ (by decide) (by decide) (by decide)
  · exact (hheader _ 12 _ (by decide) (by decide)).2
  · exact hbehind _ 14 _ (by decide) (by decide)
  · exact hwritten _ _ (by decide) (by decide)

end Object
end ManagedBoot.Layout
