import ManagedBoot.Proofs.ObjectParts
import ManagedBoot.Proofs.SurrogatePairs
/-!
Strings survive being laid out as objects.

The object made of a text has exactly the bytes of its header and of its code units, and every
accessor reads back what went in (`Object.HoldsText`). A text has such an object unless its length
does not fit into the header (`string_holdsText`).
-/
namespace ManagedBoot

/-- The bytes of a string are those in which it is kept. -/
theorem Utf8.bytes_eq (s : String) : Utf8.bytes s = s.toUTF8.data.toList := by
  have hkept : s.toList.utf8Encode = s.toUTF8 := String.utf8Encode_toList
  rw [← hkept]
  show s.toList.flatMap String.utf8EncodeChar =
    (s.toList.flatMap String.utf8EncodeChar).toByteArray.data.toList
  rw [List.data_toByteArray]

/-- A sink without a limit takes everything. -/
theorem Sink.write_of_unlimited {s : Sink} (h : s.limit = none) (bytes : List UInt8) :
    s.write bytes = (.ok (), { s with received := s.received ++ bytes }) := by
  have hroom : s.room bytes.length = bytes.length := by rw [room, h]
  rw [write, hroom, List.take_length, if_neg (Nat.lt_irrefl _)]

namespace Layout.Object

/-- A string object that holds exactly a text: its bytes and what each accessor reads in them. -/
structure HoldsText (o : Object) (descriptor : UInt64) (text : String) : Prop where
  bytes : o.bytes = littleEndian 8 descriptor.toNat ++
    littleEndian 4 (Utf16.units text).length ++ unitBytes (Utf16.units text)
  size : o.size = 12 + 2 * (Utf16.units text).length
  typeDescriptor : o.typeDescriptor = descriptor
  length : o.length.toNat = (Utf16.units text).length
  data : o.bytes.drop 12 = unitBytes (Utf16.units text)
  codeUnits : o.codeUnits = Utf16.units text
  reads : o.text = text
  written : ∀ sink : Sink, sink.limit = none →
    o.writeTo sink = (.ok (), { sink with received := sink.received ++ text.toUTF8.data.toList })

theorem holdsText_ofParts (descriptor : UInt64) {text : String}
    (h : (Utf16.units text).length < UInt32.size) :
    (ofParts descriptor (.ofNat (Utf16.units text).length)
      (unitBytes (Utf16.units text))).HoldsText descriptor text := by
  have hlength : (UInt32.ofNat (Utf16.units text).length).toNat = (Utf16.units text).length :=
    UInt32.toNat_ofNat_of_lt' h
  have hunits : (ofParts descriptor (.ofNat (Utf16.units text).length)
      (unitBytes (Utf16.units text))).codeUnits = Utf16.units text := by
    have hread := readUnits_unitBytes (Utf16.units text) []
    rw [List.append_nil] at hread
    rw [codeUnits_ofParts, hlength, hread]
  have htext : (ofParts descriptor (.ofNat (Utf16.units text).length)
      (unitBytes (Utf16.units text))).text = text := by
    rw [Object.text, hunits, Utf16.toStringLossy_units]
  exact {
    bytes := by rw [ofParts, header, hlength]; rfl
    size := by rw [size_ofParts, length_unitBytes]; rfl
    typeDescriptor := typeDescriptor_ofParts _ _ _
    length := by rw [length_ofParts, hlength]
    data := drop_ofParts _ _ _
    codeUnits := hunits
    reads := htext
    written := fun sink hsink => by
      rw [writeTo, htext, Sink.write_of_unlimited hsink, Utf8.bytes_eq]
  }

/-- A text whose length fits a 32-bit count has an object that holds it, and no other text has. -/
theorem string_holdsText (descriptor : UInt64) (text : String) :
    ((Utf16.units text).length ≤ 2 ^ 32 - 1 →
      ∃ o, string descriptor text = .ok o ∧ o.HoldsText descriptor text) ∧
    (2 ^ 32 - 1 < (Utf16.units text).length →
      string descriptor text = .error (.invalidSize (.ofNat (Utf16.units text).length))) := by
  have hsize : UInt32.size = 2 ^ 32 := rfl
  constructor
  · intro hfits
    have hlt : (Utf16.units text).length < UInt32.size := by omega
    exact ⟨_, ofUnits_eq_ofParts descriptor hlt, holdsText_ofParts descriptor hlt⟩
  · intro hlong
    have hle : UInt32.size ≤ (Utf16.units text).length := by omega
    rw [string, ofUnits, if_pos hle]

/-- A letter, a character beyond the first plane, and a null character. -/
theorem string_holdsText_of_pair :
    (Utf16.units "h😀\x00").length ≤ 2 ^ 32 - 1 ∧
    ∃ o, string 0x40 "h😀\x00" = .ok o ∧ o.HoldsText 0x40 "h😀\x00" ∧
      o.codeUnits = [0x68, 0xD83D, 0xDE00, 0] := by
  have hfits : (Utf16.units "h😀\x00").length ≤ 2 ^ 32 - 1 := by decide
  obtain ⟨o, hstring, hholds⟩ := (string_holdsText 0x40 "h😀\x00").1 hfits
  exact ⟨hfits, o, hstring, hholds, by rw [hholds.codeUnits]; decide⟩

end Layout.Object
end ManagedBoot
