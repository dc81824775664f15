import ManagedBoot.Text.Utf16
/-!
Reading back what was encoded as UTF-16.

A scalar value is never a surrogate, so a unit that encodes one by itself is read alone, and the two
units of any other are a high and a low surrogate that join to it. Reading therefore gives back the
encoded text, whatever units stand behind it (`decodeLossy_encode_append`).
-/
namespace ManagedBoot.Utf16

/-- A scalar value lies below or above the surrogates. -/
theorem toNat_scalar (c : Char) : c.toNat < 0xD800 ∨ 0xDFFF < c.toNat ∧ c.toNat < 0x110000 :=
  c.valid

theorem isHigh_iff (u : UInt16) : isHigh u = true ↔ 0xD800 ≤ u.toNat ∧ u.toNat ≤ 0xDBFF := by
  simp [isHigh, UInt16.le_iff_toNat_le]

theorem isLow_iff (u : UInt16) : isLow u = true ↔ 0xDC00 ≤ u.toNat ∧ u.toNat ≤ 0xDFFF := by
  simp [isLow, UInt16.le_iff_toNat_le]

/-- A unit that is no surrogate is the character with its number. -/
theorem alone_of_scalar {u : UInt16} {c : Char} (h : u.toNat = c.toNat) : alone u = c := by
  have hc := toNat_scalar c
  have hhigh : ¬isHigh u = true := by
    rw [isHigh_iff]
    omega
  have hlow : ¬isLow u = true := by
    rw [isLow_iff]
    omega
  rw [alone, if_neg (by simp [hhigh, hlow]), h, Char.ofNat_toNat]

/-- A unit that is no high surrogate is read alone. -/
theorem decodeLossy_cons {u : UInt16} (h : isHigh u = false) (rest : List UInt16) :
    decodeLossy (u :: rest) = alone u :: decodeLossy rest := by
  cases rest with
  | nil => rfl
  | cons v rest => rw [decodeLossy, h, Bool.false_and, if_neg Bool.false_ne_true]

/-- A high and a low surrogate are read as one character. -/
theorem decodeLossy_pair {high low : UInt16} (hhigh : isHigh high = true) (hlow : isLow low = true)
    (rest : List UInt16) : decodeLossy (high :: low :: rest) = join high low :: decodeLossy rest := by
  rw [decodeLossy, hhigh, hlow, Bool.and_self, if_pos rfl]

theorem decodeLossy_encodeChar_append (c : Char) (rest : List UInt16) :
    decodeLossy (encodeChar c ++ rest) = c :: decodeLossy rest := by
  have hc := toNat_scalar c
  have hsize : UInt16.size = 0x10000 := rfl
  unfold encodeChar
  split
  · next hsmall =>
    have hunit : (UInt16.ofNat c.toNat).toNat = c.toNat := UInt16.toNat_ofNat_of_lt' hsmall
    have hhigh : isHigh (UInt16.ofNat c.toNat) = false := by
      rw [← Bool.not_eq_true, isHigh_iff]
      omega
    show decodeLossy (UInt16.ofNat c.toNat :: rest) = _
    rw [decodeLossy_cons hhigh, alone_of_scalar hunit]
  · next hlarge =>
    -- Twenty bits are left: ten go into each surrogate.
    have hv : c.toNat - 0x10000 < 0x100000 := by omega
    generalize hdef : c.toNat - 0x10000 = v at hv ⊢
    have hhigh : (UInt16.ofNat (0xD800 + v / 0x400)).toNat = 0xD800 + v / 0x400 :=
      UInt16.toNat_ofNat_of_lt' (by omega)
    have hlow : (UInt16.ofNat (0xDC00 + v % 0x400)).toNat = 0xDC00 + v % 0x400 :=
      UInt16.toNat_ofNat_of_lt' (by omega)
    have hsum : 0x10000 + (0xD800 + v / 0x400 - 0xD800) * 0x400 + (0xDC00 + v % 0x400 - 0xDC00) =
        c.toNat := by
      omega
    have hjoin :
        join (UInt16.ofNat (0xD800 + v / 0x400)) (UInt16.ofNat (0xDC00 + v % 0x400)) = c := by
      rw [join, hhigh, hlow, hsum, Char.ofNat_toNat]
    show decodeLossy (UInt16.ofNat _ :: UInt16.ofNat _ :: rest) = _
    rw [decodeLossy_pair, hjoin]
    · rw [isHigh_iff, hhigh]
      omega
    · rw [isLow_iff, hlow]
      omega

/-- What was encoded is read back, and then whatever stands behind it. -/
theorem decodeLossy_encode_append (cs : List Char) (rest : List UInt16) :
    decodeLossy (encode cs ++ rest) = cs ++ decodeLossy rest := by
  induction cs with
  | nil => rfl
  | cons c cs ih =>
    have hcons : encode (c :: cs) ++ rest = encodeChar c ++ (encode cs ++ rest) := by
      rw [encode, List.flatMap_cons, List.append_assoc]
      rfl
    rw [hcons, decodeLossy_encodeChar_append, ih]
    rfl

theorem toStringLossy_units (s : String) : toStringLossy (units s) = s := by
  have hread := decodeLossy_encode_append s.toList []
  rw [List.append_nil] at hread
  rw [toStringLossy, units, hread, decodeLossy, List.append_nil, String.ofList_toList]

end ManagedBoot.Utf16
