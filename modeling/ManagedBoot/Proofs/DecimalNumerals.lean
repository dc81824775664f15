import ManagedBoot.Proofs.LineReading
import Mathlib.Algebra.Group.Nat.Defs
/-!
Decimal numerals at the end of a line.

The digits of a natural number have no leading zero unless they are one. Where such digits end their
line they begin no date, no time and no float, and are read as the integer that they write, as far
as integers go (`number_numeral`).
-/
namespace ManagedBoot.Toml

/-- Digits as a number is written with. -/
structure IsNumeral (ds : List Char) : Prop where
  nonempty : ds ≠ []
  digits : ∀ c ∈ ds, c.isDigit = true
  /-- A leading zero stands alone. -/
  leading : ds.head? = some '0' → ds = ['0']

/-! ## Digits of a number -/

theorem hexDigit?_digitChar {d : Nat} (h : d < 10) : hexDigit? d.digitChar = some d := by
  match d with
  | 0 | 1 | 2 | 3 | 4 | 5 | 6 | 7 | 8 | 9 => rfl

theorem ofDigits_append (base : Nat) (ds : List Char) (c : Char) :
    ofDigits base (ds ++ [c]) = ofDigits base ds * base + (hexDigit? c).getD 0 := by
  rw [ofDigits, List.foldl_append]
  rfl

theorem ofDigits_toDigits (n : Nat) : ofDigits 10 (Nat.toDigits 10 n) = n := by
  induction n using Nat.strongRecOn with
  | ind n ih =>
    by_cases small : n < 10
    · rw [Nat.toDigits_of_lt_base small, ← List.nil_append [n.digitChar], ofDigits_append,
        hexDigit?_digitChar small]
      exact Nat.zero_add n
    · have hlast : n % 10 < 10 := Nat.mod_lt n (by decide)
      calc ofDigits 10 (Nat.toDigits 10 n)
          = ofDigits 10 (Nat.toDigits 10 (n / 10) ++ [(n % 10).digitChar]) := by
            rw [Nat.toDigits_of_base_le (by decide) (Nat.le_of_not_lt small)]
        _ = ofDigits 10 (Nat.toDigits 10 (n / 10)) * 10 + n % 10 := by
            rw [ofDigits_append, hexDigit?_digitChar hlast, Option.getD_some]
        _ = n / 10 * 10 + n % 10 := by rw [ih (n / 10) (by omega)]
        _ = n := by omega

theorem head?_toDigits {n : Nat} (h : 0 < n) : (Nat.toDigits 10 n).head? ≠ some '0' := by
  induction n using Nat.strongRecOn with
  | ind n ih =>
    by_cases small : n < 10
    · rw [Nat.toDigits_of_lt_base small]
      simpa using Nat.ne_of_gt h
    · -- The digits before the last are those of a smaller number, which is not zero.
      have hhead := ih (n / 10) (by omega) (by omega)
      rw [Nat.toDigits_of_base_le (by decide) (Nat.le_of_not_lt small)]
      have nonempty : Nat.toDigits 10 (n / 10) ≠ [] := Nat.toDigits_ne_nil
      obtain ⟨c, ds, hds⟩ := List.exists_cons_of_ne_nil nonempty
      rw [hds] at hhead ⊢
      exact hhead

theorem isNumeral_toDigits (n : Nat) : IsNumeral (Nat.toDigits 10 n) where
  nonempty := Nat.toDigits_ne_nil
  digits := fun _ hc => Nat.isDigit_of_mem_toDigits (by decide) (by decide) hc
  leading := by
    intro hzero
    rcases Nat.eq_zero_or_pos n with rfl | positive
    · rfl
    · exact absurd hzero (head?_toDigits positive)

theorem ne_of_isDigit {c d : Char} (h : c.isDigit = true) (hd : d.isDigit = false) : c ≠ d := by
  rintro rfl
  rw [h] at hd
  cases hd

/-! ## Reading digits -/

section
variable {ds rest : List Char}

theorem moreDigits_append (hds : ∀ c ∈ ds, c.isDigit = true) :
    moreDigits Char.isDigit (ds ++ '\n' :: rest) = (ds, '\n' :: rest) := by
  induction ds with
  | nil => rfl
  | cons c ds ih =>
    rw [List.forall_mem_cons] at hds
    have hgroup : c ≠ '_' := ne_of_isDigit hds.1 rfl
    rw [List.cons_append]
    unfold moreDigits
    split
    case h_1 heq => cases heq
    case h_2 heq => exact absurd (List.cons.inj heq).1 hgroup
    case h_3 heq =>
      cases heq
      rw [if_pos hds.1, ih hds.2]

theorem digits_append (hds : ∀ c ∈ ds, c.isDigit = true) (hne : ds ≠ []) :
    digits Char.isDigit (ds ++ '\n' :: rest) = some (ds, '\n' :: rest) := by
  obtain ⟨c, ds, rfl⟩ := List.exists_cons_of_ne_nil hne
  rw [List.forall_mem_cons] at hds
  rw [List.cons_append, digits, if_pos hds.1, moreDigits_append hds.2]

/-- A numeral that starts with a zero is that zero. -/
theorem IsNumeral.eq_zero (h : IsNumeral ds) {more : List Char}
    (heq : ds ++ '\n' :: rest = '0' :: more) : ds = ['0'] ∧ more = '\n' :: rest := by
  obtain ⟨c, ds, rfl⟩ := List.exists_cons_of_ne_nil h.nonempty
  cases heq
  have hzero := h.leading rfl
  cases hzero
  exact ⟨rfl, rfl⟩

theorem wholeDigits_numeral (h : IsNumeral ds) :
    wholeDigits (ds ++ '\n' :: rest) = some (ds, '\n' :: rest) := by
  unfold wholeDigits
  split
  case h_1 heq =>
    obtain ⟨rfl, rfl⟩ := h.eq_zero heq
    rfl
  case h_2 => exact digits_append h.digits h.nonempty

theorem sign_numeral (h : IsNumeral ds) :
    sign (ds ++ '\n' :: rest) = (false, ds ++ '\n' :: rest) := by
  obtain ⟨c, ds, rfl⟩ := List.exists_cons_of_ne_nil h.nonempty
  have hc := h.digits c List.mem_cons_self
  unfold sign
  split
  case h_1 heq => exact absurd (List.cons.inj heq).1 (ne_of_isDigit hc rfl)
  case h_2 heq => exact absurd (List.cons.inj heq).1 (ne_of_isDigit hc rfl)
  case h_3 => rfl

/-! ## What it is not -/

/-- Digits that a reader takes away leave digits and the end of the line. -/
theorem fixed_leaves {s : List Char} {n : Nat} : ∀ {count value : Nat} {ds : List Char},
    (∀ c ∈ ds, c.isDigit = true) → fixed count value (ds ++ '\n' :: rest) = some (n, s) →
    ∃ ds', s = ds' ++ '\n' :: rest ∧ ∀ c ∈ ds', c.isDigit = true
  | 0, _, ds, hds, h => by
    cases h
    exact ⟨ds, rfl, hds⟩
  | count + 1, value, [], _, h => by cases h
  | count + 1, value, c :: ds, hds, h => by
    rw [List.forall_mem_cons] at hds
    rw [List.cons_append, fixed, if_pos hds.1] at h
    exact fixed_leaves hds.2 h

theorem twoDigits_leaves {s : List Char} {most n : Nat} (hds : ∀ c ∈ ds, c.isDigit = true)
    (h : twoDigits most (ds ++ '\n' :: rest) = some (n, s)) :
    ∃ ds', s = ds' ++ '\n' :: rest ∧ ∀ c ∈ ds', c.isDigit = true := by
  rw [twoDigits, Option.bind_eq_bind, Option.bind_eq_some_iff] at h
  obtain ⟨⟨m, s'⟩, hfixed, h⟩ := h
  dsimp only at h
  split at h
  · cases h
    exact fixed_leaves hds hfixed
  · cases h

/-- No other character stands next. -/
theorem expect_eq_none {c : Char} (hds : ∀ c ∈ ds, c.isDigit = true) (hc : c.isDigit = false)
    (hend : c ≠ '\n') : expect c (ds ++ '\n' :: rest) = none := by
  cases ds with
  | nil => exact if_neg hend.symm
  | cons d ds => exact if_neg (ne_of_isDigit (hds d List.mem_cons_self) hc)

theorem date_eq_none (hds : ∀ c ∈ ds, c.isDigit = true) : date (ds ++ '\n' :: rest) = none := by
  rw [date, Option.bind_eq_bind, Option.bind_eq_none_iff]
  rintro ⟨year, s⟩ hyear
  obtain ⟨ds', rfl, hds'⟩ := fixed_leaves hds hyear
  dsimp only
  rw [expect_eq_none hds' rfl (by decide)]
  rfl

theorem time_eq_none (hds : ∀ c ∈ ds, c.isDigit = true) : time (ds ++ '\n' :: rest) = none := by
  rw [time, Option.bind_eq_bind, Option.bind_eq_none_iff]
  rintro ⟨hour, s⟩ hhour
  obtain ⟨ds', rfl, hds'⟩ := twoDigits_leaves hds hhour
  dsimp only
  rw [expect_eq_none hds' rfl (by decide)]
  rfl

theorem dateTime_eq_none (hds : ∀ c ∈ ds, c.isDigit = true) :
    dateTime (ds ++ '\n' :: rest) = none := by
  rw [dateTime, date_eq_none hds, time_eq_none hds]
  rfl

theorem decimalFloat_eq_none (h : IsNumeral ds) : decimalFloat (ds ++ '\n' :: rest) = none := by
  rw [decimalFloat, sign_numeral h]
  dsimp only
  rw [wholeDigits_numeral h]
  rfl

theorem namedFloat_eq_none (h : IsNumeral ds) : namedFloat (ds ++ '\n' :: rest) = none := by
  rw [namedFloat, sign_numeral h]
  obtain ⟨c, ds, rfl⟩ := List.exists_cons_of_ne_nil h.nonempty
  have hc := h.digits c List.mem_cons_self
  dsimp only [List.cons_append]
  split
  case h_1 heq => exact absurd (List.cons.inj heq).1 (ne_of_isDigit hc rfl)
  case h_2 heq => exact absurd (List.cons.inj heq).1 (ne_of_isDigit hc rfl)
  case h_3 => rfl

/-! ## What it is -/

theorem inRange_of_lt {n : Nat} (h : n < 2 ^ 63) : inRange n = true := by
  simp only [inRange, Bool.and_eq_true, decide_eq_true_eq]
  omega

theorem integer_numeral (h : IsNumeral ds) (range : ofDigits 10 ds < 2 ^ 63) :
    integer (ds ++ '\n' :: rest) = some ((ofDigits 10 ds : Int), '\n' :: rest) := by
  unfold integer
  split
  -- After a leading zero the line ends, so no letter of a base follows it.
  case h_1 heq => cases (h.eq_zero heq).2
  case h_2 heq => cases (h.eq_zero heq).2
  case h_3 heq => cases (h.eq_zero heq).2
  case h_4 =>
    rw [sign_numeral h]
    dsimp only
    rw [wholeDigits_numeral h, Option.map_some, Option.bind_eq_bind, Option.bind_some]
    exact if_pos (inRange_of_lt range)

theorem number_numeral (h : IsNumeral ds) (range : ofDigits 10 ds < 2 ^ 63) :
    number (ds ++ '\n' :: rest) = some (.integer (ofDigits 10 ds), '\n' :: rest) := by
  rw [number, dateTime_eq_none h.digits, decimalFloat_eq_none h, namedFloat_eq_none h,
    integer_numeral h range]
  rfl

end

theorem scalar_of_isDigit {c : Char} (hc : c.isDigit = true) (s : List Char) :
    scalar (c :: s) = number (c :: s) := by
  unfold scalar
  split
  case h_1 heq => exact absurd (List.cons.inj heq).1 (ne_of_isDigit hc rfl)
  case h_2 heq => exact absurd (List.cons.inj heq).1 (ne_of_isDigit hc rfl)
  case h_3 heq => exact absurd (List.cons.inj heq).1 (ne_of_isDigit hc rfl)
  case h_4 heq => exact absurd (List.cons.inj heq).1 (ne_of_isDigit hc rfl)
  case h_5 => rfl

/-- The decimal text of an integer that is not negative is read as it. -/
theorem writes_integer {n : Nat} (h : n < 2 ^ 63) : Writes (toString n).toList (.integer n) := by
  have numeral := isNumeral_toDigits n
  have hnumber (rest : List Char) :
      number (Nat.toDigits 10 n ++ '\n' :: rest) = some (.integer n, '\n' :: rest) := by
    rw [number_numeral numeral (by rwa [ofDigits_toDigits]), ofDigits_toDigits]
  show Writes n.repr.toList _
  rw [Nat.toList_repr]
  obtain ⟨c, ds, hds⟩ := List.exists_cons_of_ne_nil numeral.nonempty
  rw [hds] at numeral hnumber ⊢
  have hc := numeral.digits c List.mem_cons_self
  constructor
  · intro rest
    apply skipBlanks_of_not_blank
    have hspace : c ≠ ' ' := ne_of_isDigit hc rfl
    have htab : c ≠ '\t' := ne_of_isDigit hc rfl
    simp [isBlank, hspace, htab]
  · intro rest
    rw [List.cons_append, value_eq_scalar (ne_of_isDigit hc rfl) (ne_of_isDigit hc rfl),
      scalar_of_isDigit hc, ← List.cons_append]
    exact hnumber rest

end ManagedBoot.Toml
