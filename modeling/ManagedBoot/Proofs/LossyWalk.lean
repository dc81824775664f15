import ManagedBoot.Proofs.ManagedStrings
import ManagedBoot.Proofs.Utf8Decoding
/-!
Text read from code units of any content.

A surrogate is unpaired if the unit that would complete it does not stand next to it
(`Utf16.unpairedAt`). Reading joins exactly the paired surrogates, so encoding the text again puts
every unit back in its place, with U+FFFD where an unpaired surrogate was
(`Utf16.getElem?_encode_decodeLossy`). What this means for a string object, and what a sink gets of
its text, is `Object.text_walksLossily`.
-/
namespace ManagedBoot
namespace Utf16

/-! ## Pairs of surrogates -/

def highAt (us : List UInt16) (i : Nat) : Bool := us[i]?.any isHigh

def lowAt (us : List UInt16) (i : Nat) : Bool := us[i]?.any isLow

/-- Whether a high surrogate stands right before an index. -/
def highBefore (us : List UInt16) : Nat → Bool
  | 0 => false
  | i + 1 => highAt us i

/-- Whether the unit at an index is a surrogate without a partner: a high one with no low one right
after it, or a low one with no high one right before it. -/
def unpairedAt (us : List UInt16) (i : Nat) : Bool :=
  (highAt us i && !lowAt us (i + 1)) || (lowAt us i && !highBefore us i)

@[simp] theorem highAt_nil (i : Nat) : highAt [] i = false := rfl

@[simp] theorem highAt_zero (u : UInt16) (us : List UInt16) : highAt (u :: us) 0 = isHigh u := rfl

@[simp] theorem highAt_succ (u : UInt16) (us : List UInt16) (i : Nat) :
    highAt (u :: us) (i + 1) = highAt us i := rfl

@[simp] theorem lowAt_nil (i : Nat) : lowAt [] i = false := rfl

@[simp] theorem lowAt_zero (u : UInt16) (us : List UInt16) : lowAt (u :: us) 0 = isLow u := rfl

@[simp] theorem lowAt_succ (u : UInt16) (us : List UInt16) (i : Nat) :
    lowAt (u :: us) (i + 1) = lowAt us i := rfl

@[simp] theorem highBefore_zero (us : List UInt16) : highBefore us 0 = false := rfl

@[simp] theorem highBefore_succ (us : List UInt16) (i : Nat) :
    highBefore us (i + 1) = highAt us i := rfl

theorem unpairedAt_add_two (u : UInt16) (us : List UInt16) (i : Nat) :
    unpairedAt (u :: us) (i + 2) = unpairedAt us (i + 1) := rfl

/-- A unit in front matters only if it is a high surrogate and a low one comes right after it. -/
theorem unpairedAt_succ {u : UInt16} {us : List UInt16} (h : isHigh u = true → lowAt us 0 = false)
    (i : Nat) : unpairedAt (u :: us) (i + 1) = unpairedAt us i := by
  cases i with
  | zero =>
    cases hu : isHigh u with
    | false => simp [unpairedAt, hu]
    | true => simp [unpairedAt, h hu]
  | succ i => exact unpairedAt_add_two u us i

theorem isLow_eq_false_of_isHigh {u : UInt16} (h : isHigh u = true) : isLow u = false := by
  rw [isHigh_iff] at h
  rw [← Bool.not_eq_true, isLow_iff]
  omega

theorem isHigh_eq_false_of_isLow {u : UInt16} (h : isLow u = true) : isHigh u = false := by
  rw [isLow_iff] at h
  rw [← Bool.not_eq_true, isHigh_iff]
  omega

/-- What stands for an unpaired surrogate is no surrogate itself. -/
theorem unpairedAt_of_replacement {us : List UInt16} {i : Nat} (h : us[i]? = some 0xFFFD) :
    unpairedAt us i = false := by
  have hhigh : highAt us i = false := by rw [highAt, h]; rfl
  have hlow : lowAt us i = false := by rw [lowAt, h]; rfl
  rw [unpairedAt, hhigh, hlow, Bool.false_and, Bool.false_and, Bool.or_false]

/-! ## Encoding what was read -/

theorem encode_cons (c : Char) (cs : List Char) :
    encode (c :: cs) = encodeChar c ++ encode cs := rfl

/-- A unit read alone is encoded as itself, and a surrogate read alone as U+FFFD. -/
theorem encodeChar_alone (u : UInt16) :
    encodeChar (alone u) = [if isHigh u || isLow u then 0xFFFD else u] := by
  rw [alone]
  split
  · rfl
  · next hscalar =>
    have hvalid : u.toNat.isValidChar := by
      rw [Bool.or_eq_true, isHigh_iff, isLow_iff] at hscalar
      have hlt : u.toNat < 0x10000 := u.toNat_lt
      show u.toNat < 0xD800 ∨ 0xDFFF < u.toNat ∧ u.toNat < 0x110000
      omega
    have hchar : (Char.ofNat u.toNat).toNat = u.toNat := Utf8.toNat_ofNat hvalid
    have hsmall : u.toNat < 0x10000 := u.toNat_lt
    rw [encodeChar, hchar, if_pos hsmall, UInt16.ofNat_toNat]

/-- The character of two surrogates is encoded as these two. -/
theorem encodeChar_join {high low : UInt16} (hhigh : isHigh high = true) (hlow : isLow low = true) :
    encodeChar (join high low) = [high, low] := by
  rw [isHigh_iff] at hhigh
  rw [isLow_iff] at hlow
  have hvalid : (0x10000 + (high.toNat - 0xD800) * 0x400 + (low.toNat - 0xDC00)).isValidChar := by
    show _ < 0xD800 ∨ 0xDFFF < _ ∧ _ < 0x110000
    omega
  have hchar : (join high low).toNat =
      0x10000 + (high.toNat - 0xD800) * 0x400 + (low.toNat - 0xDC00) :=
    Utf8.toNat_ofNat hvalid
  have hlarge : ¬(join high low).toNat < 0x10000 := by omega
  have hfirst : 0xD800 + ((join high low).toNat - 0x10000) / 0x400 = high.toNat := by omega
  have hsecond : 0xDC00 + ((join high low).toNat - 0x10000) % 0x400 = low.toNat := by omega
  rw [encodeChar, if_neg hlarge]
  dsimp only
  rw [hfirst, hsecond, UInt16.ofNat_toNat, UInt16.ofNat_toNat]

theorem length_encode_decodeLossy (us : List UInt16) :
    (encode (decodeLossy us)).length = us.length := by
  fun_induction decodeLossy us with
  | case1 => rfl
  | case2 u => rw [encode_cons, encodeChar_alone]; rfl
  | case3 u v rest hpair ih =>
    rw [Bool.and_eq_true] at hpair
    rw [encode_cons, encodeChar_join hpair.1 hpair.2, List.length_append, ih]
    show 2 + rest.length = rest.length + 1 + 1
    omega
  | case4 u v rest hpair ih =>
    rw [encode_cons, encodeChar_alone, List.length_append, ih]
    show 1 + (rest.length + 1) = rest.length + 1 + 1
    omega

/-- Every unit that is read comes back in its place, and U+FFFD in the place of each unpaired
surrogate. -/
theorem getElem?_encode_decodeLossy (us : List UInt16) (i : Nat) :
    (encode (decodeLossy us))[i]? = if unpairedAt us i then some 0xFFFD else us[i]? := by
  fun_induction decodeLossy us generalizing i with
  | case1 => rfl
  | case2 u =>
    rw [encode_cons, encodeChar_alone]
    cases i with
    | zero =>
      have hfirst : unpairedAt [u] 0 = (isHigh u || isLow u) := by simp [unpairedAt]
      rw [hfirst]
      split <;> rfl
    | succ i => rw [unpairedAt_succ fun _ => rfl]; rfl
  | case3 u v rest hpair ih =>
    rw [Bool.and_eq_true] at hpair
    obtain ⟨hhigh, hlow⟩ := hpair
    rw [encode_cons, encodeChar_join hhigh hlow]
    match i with
    | 0 =>
      have hfirst : unpairedAt (u :: v :: rest) 0 = false := by
        simp [unpairedAt, hlow, isLow_eq_false_of_isHigh hhigh]
      rw [hfirst]
      rfl
    | 1 =>
      have hsecond : unpairedAt (u :: v :: rest) 1 = false := by
        simp [unpairedAt, hhigh, isHigh_eq_false_of_isLow hlow]
      rw [hsecond]
      rfl
    | i + 2 =>
      -- The low surrogate of a pair is no partner for a unit after it.
      have hlater : isHigh v = true → lowAt rest 0 = false := by
        intro hhigh'
        rw [isHigh_eq_false_of_isLow hlow] at hhigh'
        cases hhigh'
      rw [unpairedAt_add_two, unpairedAt_succ hlater]
      exact ih i
  | case4 u v rest hpair ih =>
    have hfollows : isHigh u = true → lowAt (v :: rest) 0 = false := by
      intro hhigh
      simpa [hhigh] using hpair
    rw [encode_cons, encodeChar_alone]
    cases i with
    | zero =>
      have hfirst : unpairedAt (u :: v :: rest) 0 = (isHigh u || isLow u) := by
        cases hhigh : isHigh u with
        | false => simp [unpairedAt, hhigh]
        | true =>
          have hnext : isLow v = false := hfollows hhigh
          simp [unpairedAt, hhigh, hnext]
      rw [hfirst]
      split <;> rfl
    | succ i =>
      rw [unpairedAt_succ hfollows]
      exact ih i

example : encode (decodeLossy [0xD800, 0xD83D, 0xDE00, 0xDE00]) =
    [0xFFFD, 0xD83D, 0xDE00, 0xFFFD] := by decide

theorem encode_decodeLossy_eq_iff (us : List UInt16) :
    encode (decodeLossy us) = us ↔ ∀ i, unpairedAt us i = false := by
  constructor
  · intro hexact i
    have hunit := getElem?_encode_decodeLossy us i
    rw [hexact] at hunit
    cases hunpaired : unpairedAt us i with
    | false => rfl
    | true =>
      rw [hunpaired, if_pos rfl] at hunit
      exact hunpaired.symm.trans (unpairedAt_of_replacement hunit)
  · intro hpaired
    apply List.ext_getElem?
    intro i
    rw [getElem?_encode_decodeLossy, hpaired i]
    rfl

theorem units_toStringLossy (us : List UInt16) :
    units (toStringLossy us) = encode (decodeLossy us) := by
  rw [units, toStringLossy, String.toList_ofList]

end Utf16

/-- A fresh sink with a limit gets what fits under it, and is not asked to flush. -/
theorem Sink.write_of_limited (limit : Nat) (refuses : Bool) (bytes : List UInt8) :
    Sink.write { limit := some limit, refusesFlush := refuses } bytes =
      (if limit < bytes.length then .error .full else .ok (),
        { limit := some limit, refusesFlush := refuses,
          received := bytes.take (min limit bytes.length) }) := by
  have hroom : Sink.room { limit := some limit, refusesFlush := refuses } bytes.length =
      min limit bytes.length := Nat.min_comm _ _
  have hshort : min limit bytes.length < bytes.length ↔ limit < bytes.length := by omega
  rw [write, hroom]
  simp only [hshort, List.nil_append]

namespace Layout

theorem length_readUnits_le (n : Nat) (bytes : List UInt8) : (readUnits n bytes).length ≤ n := by
  fun_induction readUnits n bytes with
  | case1 n low high rest ih =>
    rw [List.length_cons]
    omega
  | case2 => exact Nat.zero_le _

namespace Object

/-- What walking a string does with its code units, whatever they are. -/
structure WalksLossily (o : Object) : Prop where
  length : (Utf16.units o.text).length = o.codeUnits.length
  unit : ∀ i, (Utf16.units o.text)[i]? =
    if Utf16.unpairedAt o.codeUnits i then some 0xFFFD else o.codeUnits[i]?
  lossless : Utf16.units o.text = o.codeUnits ↔ ∀ i, Utf16.unpairedAt o.codeUnits i = false
  again : ∀ other : Object, other.codeUnits = Utf16.units o.text → other.text = o.text
  encoded : ∀ descriptor, ∃ other, string descriptor o.text = .ok other ∧
    other.codeUnits = Utf16.units o.text
  written : ∀ limit refuses,
    o.writeTo { limit := some limit, refusesFlush := refuses } =
      (if limit < o.text.toUTF8.size then .error .full else .ok (),
        { limit := some limit, refusesFlush := refuses, flushes := 0,
          received := o.text.toUTF8.data.toList.take (min limit o.text.toUTF8.size) })

/-- A walk keeps every unit but the unpaired surrogates, which come out as U+FFFD, and writes as
many bytes of the text as the sink takes. -/
theorem text_walksLossily (o : Object) : o.WalksLossily := by
  have hunits : Utf16.units o.text = Utf16.encode (Utf16.decodeLossy o.codeUnits) :=
    Utf16.units_toStringLossy o.codeUnits
  have hlength : (Utf16.units o.text).length = o.codeUnits.length := by
    rw [hunits, Utf16.length_encode_decodeLossy]
  have hfits : (Utf16.units o.text).length < UInt32.size := by
    rw [hlength]
    exact Nat.lt_of_le_of_lt (length_readUnits_le _ _) o.length.toNat_lt
  exact {
    length := hlength
    unit := by rw [hunits]; exact Utf16.getElem?_encode_decodeLossy o.codeUnits
    lossless := by rw [hunits]; exact Utf16.encode_decodeLossy_eq_iff o.codeUnits
    again := by
      intro other hother
      rw [text, hother, Utf16.toStringLossy_units]
    encoded := fun descriptor =>
      ⟨_, ofUnits_eq_ofParts descriptor hfits, (holdsText_ofParts descriptor hfits).codeUnits⟩
    written := by
      intro limit refuses
      rw [writeTo, Sink.write_of_limited, Utf8.bytes_eq]
      rfl
  }

end Object
end Layout
end ManagedBoot
