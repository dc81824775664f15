import Mathlib.Algebra.Group.Nat.Defs
import ManagedBoot.Text.Utf8
/-!
Decoding is the inverse of encoding.

A sequence that has begun can still hold the numbers of a range (`Pending.Holds`), and every number
of the range is a scalar value whose encoding begins with the bytes read so far (`Pending.After`).
So the encoding of a character is read as that character, and the bytes of a piece that is a
character are its encoding (`decode_encode`, `cuts_decode`). What decodes without an ill-formed
piece is therefore an encoded text (`decode?_eq_some_iff`).
-/
namespace ManagedBoot.Utf8

/-! ## The bytes of a character -/

/-- The byte that continues a sequence and holds the bits of `n` that `k` more bytes follow. -/
def tailByte (k n : Nat) : UInt8 := .ofNat (n / 64 ^ k % 64 + 0x80)

/-- The last `k` bytes of the encoding of `n`. -/
def tails : Nat → Nat → List UInt8
  | 0, _ => []
  | k + 1, n => tailByte k n :: tails k n

theorem toNat_tailByte (k n : Nat) : (tailByte k n).toNat = n / 64 ^ k % 64 + 0x80 := by
  have hlt : n / 64 ^ k % 64 < 64 := Nat.mod_lt _ (by decide)
  show (n / 64 ^ k % 64 + 0x80) % 2 ^ 8 = _
  omega

theorem tailByte_toNat_mod (k n : Nat) : (tailByte k n).toNat % 64 = n / 64 ^ k % 64 := by
  rw [toNat_tailByte]
  omega

theorem Bounds.admits_iff (b : Bounds) (byte : UInt8) :
    b.admits byte = true ↔ b.low.toNat ≤ byte.toNat ∧ byte.toNat ≤ b.high.toNat := by
  rw [admits, Bool.and_eq_true, decide_eq_true_iff, decide_eq_true_iff, UInt8.le_iff_toNat_le,
    UInt8.le_iff_toNat_le]

theorem Bounds.tail_admits (k n : Nat) : Bounds.tail.admits (tailByte k n) = true := by
  have hlt : n / 64 ^ k % 64 < 64 := Nat.mod_lt _ (by decide)
  rw [admits_iff, toNat_tailByte]
  show 0x80 ≤ _ ∧ _ ≤ 0xBF
  omega

theorem toNat_ofNat {n : Nat} (h : n.isValidChar) : (Char.ofNat n).toNat = n := by
  rw [Char.ofNat, dif_pos h]
  rfl

theorem encodeChar_one {c : Char} (h : c.toNat < 0x80) :
    String.utf8EncodeChar c = [.ofNat c.toNat] := by
  rw [String.utf8EncodeChar, Char.toNat_val, if_pos (by omega)]

theorem encodeChar_two {c : Char} (h : 0x80 ≤ c.toNat) (h' : c.toNat < 0x800) :
    String.utf8EncodeChar c = .ofNat (c.toNat / 64 ^ 1 + 0xC0) :: tails 1 c.toNat := by
  have hlead : c.toNat / 64 % 32 + 192 = c.toNat / 64 ^ 1 + 0xC0 := by omega
  rw [String.utf8EncodeChar, Char.toNat_val, if_neg (by omega), if_pos (by omega), hlead]
  simp [tails, tailByte]

theorem encodeChar_three {c : Char} (h : 0x800 ≤ c.toNat) (h' : c.toNat < 0x10000) :
    String.utf8EncodeChar c = .ofNat (c.toNat / 64 ^ 2 + 0xE0) :: tails 2 c.toNat := by
  have hlead : c.toNat / 4096 % 16 + 224 = c.toNat / 64 ^ 2 + 0xE0 := by omega
  rw [String.utf8EncodeChar, Char.toNat_val, if_neg (by omega), if_neg (by omega),
    if_pos (by omega), hlead]
  simp [tails, tailByte]

theorem encodeChar_four {c : Char} (h : 0x10000 ≤ c.toNat) :
    String.utf8EncodeChar c = .ofNat (c.toNat / 64 ^ 3 + 0xF0) :: tails 3 c.toNat := by
  have hvalid : c.toNat < 0xD800 ∨ 0xDFFF < c.toNat ∧ c.toNat < 0x110000 := c.valid
  have hlead : c.toNat / 262144 % 8 + 240 = c.toNat / 64 ^ 3 + 0xF0 := by omega
  rw [String.utf8EncodeChar, Char.toNat_val, if_neg (by omega), if_neg (by omega),
    if_neg (by omega), hlead]
  simp [tails, tailByte]

/-! ## The numbers of a sequence that has begun -/

/-- The numbers that a sequence that has begun can still hold. -/
def Pending.Holds (p : Pending) (n : Nat) : Prop :=
  n / 64 ^ (p.after + 1) = p.value ∧ p.next.admits (tailByte p.after n) = true

theorem Pending.holds_iff {p : Pending} {n : Nat} :
    p.Holds n ↔ n / 64 ^ (p.after + 1) = p.value ∧
      p.next.low.toNat ≤ n / 64 ^ p.after % 64 + 0x80 ∧
        n / 64 ^ p.after % 64 + 0x80 ≤ p.next.high.toNat := by
  rw [Holds, Bounds.admits_iff, toNat_tailByte]

theorem div_pow_succ (n k : Nat) : n / 64 ^ (k + 1) = n / 64 ^ k / 64 := by
  rw [Nat.pow_succ, Nat.div_div_eq_div_mul]

/-- The next byte of a number adds its bits. -/
theorem Pending.Holds.value {p : Pending} {n : Nat} (h : p.Holds n) :
    p.value * 64 + (tailByte p.after n).toNat % 64 = n / 64 ^ p.after := by
  have hvalue := h.1
  rw [div_pow_succ] at hvalue
  rw [tailByte_toNat_mod]
  omega

theorem pieces_tails {p : Pending} {n : Nat} (h : p.Holds n) (rest : List UInt8) :
    pieces (some p) (tails (p.after + 1) n ++ rest) = some (Char.ofNat n) :: pieces none rest := by
  obtain ⟨value, next, after⟩ := p
  induction after generalizing value next with
  | zero =>
    have hvalue := h.value
    have hadmits : next.admits (tailByte 0 n) = true := h.2
    have hn : n / 64 ^ 0 = n := Nat.div_one n
    dsimp only at hvalue
    rw [hn] at hvalue
    show (Pending.read ⟨value, next, 0⟩ (tailByte 0 n)).1 ++ pieces _ rest = _
    rw [Pending.read, if_pos hadmits]
    dsimp only
    rw [hvalue]
    rfl
  | succ k ih =>
    have hvalue := h.value
    have hadmits : next.admits (tailByte (k + 1) n) = true := h.2
    have hnext : Pending.Holds ⟨n / 64 ^ (k + 1), .tail, k⟩ n := ⟨rfl, Bounds.tail_admits k n⟩
    dsimp only at hvalue
    show (Pending.read ⟨value, next, k + 1⟩ (tailByte (k + 1) n)).1 ++ pieces _ _ = _
    rw [Pending.read, if_pos hadmits]
    dsimp only
    rw [hvalue]
    exact ih _ _ hnext

/-- The first byte of two. -/
theorem lead_two {n : Nat} (h : 0x80 ≤ n) (h' : n < 0x800) :
    ∃ p : Pending, lead (.ofNat (n / 64 ^ 1 + 0xC0)) = ([], some p) ∧ p.after = 0 ∧ p.Holds n := by
  have hbyte : (UInt8.ofNat (n / 64 ^ 1 + 0xC0)).toNat = n / 64 + 0xC0 := by
    show (n / 64 + 0xC0) % 2 ^ 8 = _
    omega
  refine ⟨⟨n / 64, .tail, 0⟩, ?_, rfl, rfl, Bounds.tail_admits 0 n⟩
  unfold lead
  dsimp only
  rw [hbyte, if_neg (by omega), if_neg (by omega), if_pos (by omega), Nat.add_sub_cancel]

/-- The first byte of three. -/
theorem lead_three {n : Nat} (h : 0x800 ≤ n) (h' : n < 0x10000)
    (hscalar : n < 0xD800 ∨ 0xDFFF < n) :
    ∃ p : Pending, lead (.ofNat (n / 64 ^ 2 + 0xE0)) = ([], some p) ∧ p.after = 1 ∧ p.Holds n := by
  have hbyte : (UInt8.ofNat (n / 64 ^ 2 + 0xE0)).toNat = n / 64 ^ 2 + 0xE0 := by
    show (n / 64 ^ 2 + 0xE0) % 2 ^ 8 = _
    omega
  have hnext := toNat_tailByte 1 n
  unfold lead
  dsimp only
  rw [hbyte, if_neg (by omega), if_neg (by omega), if_neg (by omega)]
  by_cases hfirst : n / 64 ^ 2 + 0xE0 = 0xE0
  · rw [if_pos hfirst]
    refine ⟨_, rfl, rfl, by dsimp only; omega, ?_⟩
    rw [Bounds.admits_iff, hnext]
    show 0xA0 ≤ _ ∧ _ ≤ 0xBF
    omega
  rw [if_neg hfirst]
  by_cases hlast : n / 64 ^ 2 + 0xE0 = 0xED
  · rw [if_pos hlast]
    refine ⟨_, rfl, rfl, by dsimp only; omega, ?_⟩
    rw [Bounds.admits_iff, hnext]
    show 0x80 ≤ _ ∧ _ ≤ 0x9F
    omega
  rw [if_neg hlast, if_pos (by omega), Nat.add_sub_cancel]
  exact ⟨_, rfl, rfl, rfl, Bounds.tail_admits 1 n⟩

/-- The first byte of four. -/
theorem lead_four {n : Nat} (h : 0x10000 ≤ n) (h' : n < 0x110000) :
    ∃ p : Pending, lead (.ofNat (n / 64 ^ 3 + 0xF0)) = ([], some p) ∧ p.after = 2 ∧ p.Holds n := by
  have hbyte : (UInt8.ofNat (n / 64 ^ 3 + 0xF0)).toNat = n / 64 ^ 3 + 0xF0 := by
    show (n / 64 ^ 3 + 0xF0) % 2 ^ 8 = _
    omega
  have hnext := toNat_tailByte 2 n
  unfold lead
  dsimp only
  rw [hbyte, if_neg (by omega), if_neg (by omega), if_neg (by omega), if_neg (by omega),
    if_neg (by omega), if_neg (by omega)]
  by_cases hfirst : n / 64 ^ 3 + 0xF0 = 0xF0
  · rw [if_pos hfirst]
    refine ⟨_, rfl, rfl, by dsimp only; omega, ?_⟩
    rw [Bounds.admits_iff, hnext]
    show 0x90 ≤ _ ∧ _ ≤ 0xBF
    omega
  rw [if_neg hfirst]
  by_cases hmiddle : n / 64 ^ 3 + 0xF0 < 0xF4
  · rw [if_pos hmiddle, Nat.add_sub_cancel]
    exact ⟨_, rfl, rfl, rfl, Bounds.tail_admits 2 n⟩
  rw [if_neg hmiddle, if_pos (by omega)]
  refine ⟨_, rfl, rfl, by dsimp only; omega, ?_⟩
  rw [Bounds.admits_iff, hnext]
  show 0x80 ≤ _ ∧ _ ≤ 0x8F
  omega

/-- The encoding of a character beyond one byte: a first byte, and the bytes that its sequence waits
for. -/
theorem exists_lead {c : Char} (h : 0x80 ≤ c.toNat) :
    ∃ byte p, String.utf8EncodeChar c = byte :: tails (p.after + 1) c.toNat ∧
      lead byte = ([], some p) ∧ p.Holds c.toNat := by
  have hvalid : c.toNat < 0xD800 ∨ 0xDFFF < c.toNat ∧ c.toNat < 0x110000 := c.valid
  by_cases htwo : c.toNat < 0x800
  · obtain ⟨p, hlead, hafter, hholds⟩ := lead_two h htwo
    exact ⟨_, p, by rw [hafter, encodeChar_two h htwo], hlead, hholds⟩
  by_cases hthree : c.toNat < 0x10000
  · obtain ⟨p, hlead, hafter, hholds⟩ :=
      lead_three (Nat.le_of_not_lt htwo) hthree (hvalid.imp_right And.left)
    exact ⟨_, p, by rw [hafter, encodeChar_three (Nat.le_of_not_lt htwo) hthree], hlead, hholds⟩
  · have hfour : c.toNat < 0x110000 := by omega
    obtain ⟨p, hlead, hafter, hholds⟩ := lead_four (Nat.le_of_not_lt hthree) hfour
    exact ⟨_, p, by rw [hafter, encodeChar_four (Nat.le_of_not_lt hthree)], hlead, hholds⟩

/-- The encoding of a character is read as that character. -/
theorem pieces_encodeChar (c : Char) (rest : List UInt8) :
    pieces none (String.utf8EncodeChar c ++ rest) = some c :: pieces none rest := by
  by_cases hone : c.toNat < 0x80
  · have hbyte : (UInt8.ofNat c.toNat).toNat = c.toNat := by
      show c.toNat % 2 ^ 8 = _
      omega
    rw [encodeChar_one hone]
    show (lead _).1 ++ pieces (lead _).2 rest = _
    unfold lead
    dsimp only
    rw [hbyte, if_pos hone, Char.ofNat_toNat]
    rfl
  · obtain ⟨byte, p, hencoded, hlead, hholds⟩ := exists_lead (Nat.le_of_not_lt hone)
    rw [hencoded]
    show (lead byte).1 ++ pieces (lead byte).2 _ = _
    rw [hlead]
    show pieces (some p) (tails (p.after + 1) c.toNat ++ rest) = _
    rw [pieces_tails hholds, Char.ofNat_toNat]

/-- A text that was encoded is read without an ill-formed piece. -/
theorem decode_encode (cs : List Char) : decode (encode cs) = cs.map some := by
  induction cs with
  | nil => rfl
  | cons c cs ih =>
    show pieces none (String.utf8EncodeChar c ++ encode cs) = some c :: cs.map some
    rw [pieces_encodeChar, ← ih, decode]

theorem decodeLossy_encode (cs : List Char) : decodeLossy (encode cs) = cs := by
  rw [decodeLossy, decode_encode, List.map_map]
  exact List.map_id cs

theorem toStringLossy_bytes (s : String) : toStringLossy (bytes s) = s := by
  rw [toStringLossy, bytes, decodeLossy_encode, String.ofList_toList]

/-! ## The bytes of a piece -/

/-- What has been read of a sequence that has begun: every number that it can still hold is a scalar
value whose encoding begins with these bytes. -/
structure Pending.After (p : Pending) (read : List UInt8) : Prop where
  low : 0x80 ≤ p.next.low.toNat
  high : p.next.high.toNat ≤ 0xBF
  encoded : ∀ n, p.Holds n → n.isValidChar ∧
    String.utf8EncodeChar (Char.ofNat n) = read ++ tails (p.after + 1) n

/-- A byte within the bounds is the next byte of every number that is left. -/
theorem Pending.holds_of_read {p : Pending} {byte : UInt8} {n : Nat}
    (hlow : 0x80 ≤ p.next.low.toNat) (hhigh : p.next.high.toNat ≤ 0xBF)
    (hadmits : p.next.admits byte = true) (hn : n / 64 ^ p.after = p.value * 64 + byte.toNat % 64) :
    p.Holds n ∧ tailByte p.after n = byte := by
  have hbounds := (Bounds.admits_iff _ _).mp hadmits
  have hbyte : tailByte p.after n = byte := by
    apply UInt8.toNat_inj.mp
    rw [toNat_tailByte, hn]
    omega
  refine ⟨⟨?_, hbyte ▸ hadmits⟩, hbyte⟩
  rw [div_pow_succ, hn]
  omega

theorem Pending.After.next {p : Pending} {read : List UInt8} (h : p.After read) {byte : UInt8}
    (hadmits : p.next.admits byte = true) {k : Nat} (hk : p.after = k + 1) :
    Pending.After ⟨p.value * 64 + byte.toNat % 64, .tail, k⟩ (read ++ [byte]) where
  low := Nat.le_refl _
  high := Nat.le_refl _
  encoded := by
    intro n hn
    have hdiv : n / 64 ^ p.after = p.value * 64 + byte.toNat % 64 := hk ▸ hn.1
    obtain ⟨hholds, hbyte⟩ := holds_of_read h.low h.high hadmits hdiv
    obtain ⟨hvalid, hencoded⟩ := h.encoded n hholds
    refine ⟨hvalid, ?_⟩
    rw [hencoded, tails, hbyte, hk, List.append_assoc]
    rfl

theorem Pending.After.last {p : Pending} {read : List UInt8} (h : p.After read) {byte : UInt8}
    (hadmits : p.next.admits byte = true) (hlast : p.after = 0) :
    String.utf8EncodeChar (Char.ofNat (p.value * 64 + byte.toNat % 64)) = read ++ [byte] := by
  have hdiv : (p.value * 64 + byte.toNat % 64) / 64 ^ p.after = p.value * 64 + byte.toNat % 64 := by
    rw [hlast]
    exact Nat.div_one _
  obtain ⟨hholds, hbyte⟩ := holds_of_read h.low h.high hadmits hdiv
  rw [(h.encoded _ hholds).2, tails, hbyte, hlast]
  rfl

theorem encoded_two {byte : UInt8} {n : Nat} (hbyte : byte.toNat = n / 64 ^ 1 + 0xC0)
    (h : 0x80 ≤ n) (h' : n < 0x800) :
    n.isValidChar ∧ String.utf8EncodeChar (Char.ofNat n) = byte :: tails 1 n := by
  have hvalid : n.isValidChar := .inl (by omega)
  have hnat := toNat_ofNat hvalid
  have hencoded := encodeChar_two (c := Char.ofNat n) (by omega) (by omega)
  rw [hnat, ← hbyte, UInt8.ofNat_toNat] at hencoded
  exact ⟨hvalid, hencoded⟩

theorem encoded_three {byte : UInt8} {n : Nat} (hbyte : byte.toNat = n / 64 ^ 2 + 0xE0)
    (h : 0x800 ≤ n) (h' : n < 0x10000) (hscalar : n < 0xD800 ∨ 0xDFFF < n) :
    n.isValidChar ∧ String.utf8EncodeChar (Char.ofNat n) = byte :: tails 2 n := by
  have hvalid : n.isValidChar := hscalar.imp_right fun hn => ⟨hn, by omega⟩
  have hnat := toNat_ofNat hvalid
  have hencoded := encodeChar_three (c := Char.ofNat n) (by omega) (by omega)
  rw [hnat, ← hbyte, UInt8.ofNat_toNat] at hencoded
  exact ⟨hvalid, hencoded⟩

theorem encoded_four {byte : UInt8} {n : Nat} (hbyte : byte.toNat = n / 64 ^ 3 + 0xF0)
    (h : 0x10000 ≤ n) (h' : n < 0x110000) :
    n.isValidChar ∧ String.utf8EncodeChar (Char.ofNat n) = byte :: tails 3 n := by
  have hvalid : n.isValidChar := .inr ⟨by omega, h'⟩
  have hnat := toNat_ofNat hvalid
  have hencoded := encodeChar_four (c := Char.ofNat n) (by omega)
  rw [hnat, ← hbyte, UInt8.ofNat_toNat] at hencoded
  exact ⟨hvalid, hencoded⟩

/-- A first byte of two begins the encodings of the numbers that its sequence can hold. -/
theorem after_two {byte : UInt8} (h : 0xC2 ≤ byte.toNat) (h' : byte.toNat < 0xE0) :
    ∃ p : Pending, lead byte = ([], some p) ∧ p.After [byte] := by
  unfold lead
  dsimp only
  rw [if_neg (by omega), if_neg (by omega), if_pos h']
  refine ⟨_, rfl, Nat.le_refl _, Nat.le_refl _, ?_⟩
  intro n hn
  have hvalue : n / 64 ^ 1 = byte.toNat - 0xC0 := hn.1
  exact encoded_two (by omega) (by omega) (by omega)

/-- A first byte of three, likewise. Two of these keep the second byte within narrower bounds. -/
theorem after_three {byte : UInt8} (h : 0xE0 ≤ byte.toNat) (h' : byte.toNat < 0xF0) :
    ∃ p : Pending, lead byte = ([], some p) ∧ p.After [byte] := by
  unfold lead
  dsimp only
  rw [if_neg (by omega), if_neg (by omega), if_neg (by omega)]
  by_cases hfirst : byte.toNat = 0xE0
  · rw [if_pos hfirst]
    refine ⟨_, rfl, by decide, by decide, ?_⟩
    intro n hn
    have hbounds : n / 64 ^ 2 = 0 ∧ 0xA0 ≤ n / 64 ^ 1 % 64 + 0x80 ∧
        n / 64 ^ 1 % 64 + 0x80 ≤ 0xBF := Pending.holds_iff.mp hn
    exact encoded_three (by omega) (by omega) (by omega) (by omega)
  rw [if_neg hfirst]
  by_cases hlast : byte.toNat = 0xED
  · rw [if_pos hlast]
    refine ⟨_, rfl, by decide, by decide, ?_⟩
    intro n hn
    have hbounds : n / 64 ^ 2 = 0xD ∧ 0x80 ≤ n / 64 ^ 1 % 64 + 0x80 ∧
        n / 64 ^ 1 % 64 + 0x80 ≤ 0x9F := Pending.holds_iff.mp hn
    exact encoded_three (by omega) (by omega) (by omega) (by omega)
  rw [if_neg hlast, if_pos h']
  refine ⟨_, rfl, Nat.le_refl _, Nat.le_refl _, ?_⟩
  intro n hn
  have hvalue : n / 64 ^ 2 = byte.toNat - 0xE0 := hn.1
  exact encoded_three (by omega) (by omega) (by omega) (by omega)

/-- A first byte of four, likewise. -/
theorem after_four {byte : UInt8} (h : 0xF0 ≤ byte.toNat) (h' : byte.toNat ≤ 0xF4) :
    ∃ p : Pending, lead byte = ([], some p) ∧ p.After [byte] := by
  unfold lead
  dsimp only
  rw [if_neg (by omega), if_neg (by omega), if_neg (by omega), if_neg (by omega),
    if_neg (by omega), if_neg (by omega)]
  by_cases hfirst : byte.toNat = 0xF0
  · rw [if_pos hfirst]
    refine ⟨_, rfl, by decide, by decide, ?_⟩
    intro n hn
    have hbounds : n / 64 ^ 3 = 0 ∧ 0x90 ≤ n / 64 ^ 2 % 64 + 0x80 ∧
        n / 64 ^ 2 % 64 + 0x80 ≤ 0xBF := Pending.holds_iff.mp hn
    exact encoded_four (by omega) (by omega) (by omega)
  rw [if_neg hfirst]
  by_cases hmiddle : byte.toNat < 0xF4
  · rw [if_pos hmiddle]
    refine ⟨_, rfl, Nat.le_refl _, Nat.le_refl _, ?_⟩
    intro n hn
    have hvalue : n / 64 ^ 3 = byte.toNat - 0xF0 := hn.1
    exact encoded_four (by omega) (by omega) (by omega)
  rw [if_neg hmiddle, if_pos (by omega)]
  refine ⟨_, rfl, by decide, by decide, ?_⟩
  intro n hn
  have hbounds : n / 64 ^ 3 = 4 ∧ 0x80 ≤ n / 64 ^ 2 % 64 + 0x80 ∧
      n / 64 ^ 2 % 64 + 0x80 ≤ 0x8F := Pending.holds_iff.mp hn
  exact encoded_four (by omega) (by omega) (by omega)

/-- A byte between characters is a character, an ill-formed piece or the first of a sequence. -/
theorem lead_cases (byte : UInt8) :
    (∃ c, lead byte = ([some c], none) ∧ String.utf8EncodeChar c = [byte]) ∨
      lead byte = ([none], none) ∨ ∃ p : Pending, lead byte = ([], some p) ∧ p.After [byte] := by
  by_cases hone : byte.toNat < 0x80
  · have hnat : (Char.ofNat byte.toNat).toNat = byte.toNat := toNat_ofNat (.inl (by omega))
    have hencoded := encodeChar_one (c := Char.ofNat byte.toNat) (by omega)
    rw [hnat, UInt8.ofNat_toNat] at hencoded
    have hlead : lead byte = ([some (Char.ofNat byte.toNat)], none) := if_pos hone
    exact .inl ⟨_, hlead, hencoded⟩
  by_cases hnone : byte.toNat < 0xC2
  · have hlead : lead byte = ([none], none) := (if_neg hone).trans (if_pos hnone)
    exact .inr (.inl hlead)
  by_cases htwo : byte.toNat < 0xE0
  · exact .inr (.inr (after_two (Nat.le_of_not_lt hnone) htwo))
  by_cases hthree : byte.toNat < 0xF0
  · exact .inr (.inr (after_three (Nat.le_of_not_lt htwo) hthree))
  by_cases hfour : byte.toNat ≤ 0xF4
  · exact .inr (.inr (after_four (Nat.le_of_not_lt hthree) hfour))
  · unfold lead
    dsimp only
    rw [if_neg hone, if_neg hnone, if_neg htwo, if_neg (by omega), if_neg (by omega), if_neg hthree,
      if_neg (by omega), if_neg (by omega), if_neg (by omega)]
    exact .inr (.inl rfl)

/-- Pieces that a byte sequence is cut into: the bytes of a character are its encoding. -/
inductive Cuts : List UInt8 → List Piece → Prop
  | nil : Cuts [] []
  | char (c : Char) {rest : List UInt8} {ps : List Piece} (h : Cuts rest ps) :
      Cuts (String.utf8EncodeChar c ++ rest) (some c :: ps)
  | illFormed (piece : List UInt8) {rest : List UInt8} {ps : List Piece} (h : Cuts rest ps) :
      Cuts (piece ++ rest) (none :: ps)

/-- The bytes read of the sequence that the machine stands in, none between characters. -/
def Standing (read : List UInt8) : Option Pending → Prop
  | none => read = []
  | some p => p.After read

/-- One byte between characters, given the cuts of what comes after it. -/
theorem cuts_lead {byte : UInt8} {bs : List UInt8}
    (ih : ∀ read state, Standing read state → Cuts (read ++ bs) (pieces state bs)) :
    Cuts (byte :: bs) ((lead byte).1 ++ pieces (lead byte).2 bs) := by
  rcases lead_cases byte with ⟨c, hlead, hencoded⟩ | hlead | ⟨p, hlead, hafter⟩
  · rw [hlead]
    have hcuts := Cuts.char c (ih [] none rfl)
    rw [hencoded] at hcuts
    exact hcuts
  · rw [hlead]
    exact .illFormed [byte] (ih [] none rfl)
  · rw [hlead]
    exact ih [byte] (some p) hafter

theorem cuts_pieces (bs : List UInt8) : ∀ read state, Standing read state →
    Cuts (read ++ bs) (pieces state bs) := by
  induction bs with
  | nil =>
    intro read state hstate
    cases state with
    | none =>
      cases hstate
      exact .nil
    | some p => exact .illFormed read .nil
  | cons byte bs ih =>
    intro read state hstate
    cases state with
    | none =>
      cases hstate
      exact cuts_lead ih
    | some p =>
      have hafter : p.After read := hstate
      show Cuts _ ((p.read byte).1 ++ pieces (p.read byte).2 bs)
      rw [Pending.read]
      split
      · next hadmits =>
        have happend : read ++ byte :: bs = read ++ [byte] ++ bs := by simp
        rw [happend]
        split
        · next hlast =>
          rw [← hafter.last hadmits hlast]
          exact .char _ (ih [] none rfl)
        · next k hk => exact ih _ (some _) (hafter.next hadmits hk)
      · exact .illFormed read (cuts_lead ih)

/-- What was decoded is cut out of the bytes, and a character stands for its encoding alone. -/
theorem cuts_decode (bs : List UInt8) : Cuts bs (decode bs) := cuts_pieces bs [] none rfl

theorem Cuts.eq_encode {bs : List UInt8} {cs : List Char} (h : Cuts bs (cs.map some)) :
    bs = encode cs := by
  induction cs generalizing bs with
  | nil =>
    cases h
    rfl
  | cons c cs ih =>
    cases h with
    | char _ h => rw [ih h]; rfl

theorem Cuts.mem {bs : List UInt8} {ps : List Piece} (h : Cuts bs ps) {c : Char}
    (hc : some c ∈ ps) {byte : UInt8} (hbyte : byte ∈ String.utf8EncodeChar c) : byte ∈ bs := by
  induction h with
  | nil => cases hc
  | char c' _ ih =>
    rcases List.mem_cons.mp hc with hc | hc
    · cases hc
      exact List.mem_append_left _ hbyte
    · exact List.mem_append_right _ (ih hc)
  | illFormed piece _ ih =>
    rcases List.mem_cons.mp hc with hc | hc
    · cases hc
    · exact List.mem_append_right _ (ih hc)

theorem mapM_id_eq_some_iff {ps : List Piece} {cs : List Char} :
    ps.mapM id = some cs ↔ ps = cs.map some := by
  induction ps generalizing cs with
  | nil => cases cs <;> simp
  | cons p ps ih =>
    rw [List.mapM_cons]
    cases p with
    | none => cases cs <;> simp
    | some c =>
      cases cs with
      | nil => cases hps : ps.mapM id <;> simp
      | cons c' cs =>
        simp only [List.map_cons, List.cons.injEq, ← ih]
        cases hps : ps.mapM id <;> simp

/-- The sequences without an ill-formed piece are the encodings. -/
theorem decode?_eq_some_iff {bs : List UInt8} {cs : List Char} :
    decode? bs = some cs ↔ bs = encode cs := by
  constructor
  · intro h
    have hcuts := cuts_decode bs
    have hmap : decode bs = cs.map some := mapM_id_eq_some_iff.mp h
    rw [hmap] at hcuts
    exact hcuts.eq_encode
  · intro h
    rw [h]
    exact mapM_id_eq_some_iff.mpr (decode_encode cs)

end ManagedBoot.Utf8
