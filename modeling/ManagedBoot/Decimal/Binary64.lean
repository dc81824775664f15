/-!
Binary floating point of 64 bits as exact numbers.

A finite value is a mantissa below 2 ^ 53 times a power of two. `ofDecimal` reads a decimal exactly:
the result is the nearest value, and of two equally near the one with the even mantissa.
-/
namespace ManagedBoot

inductive Binary64 where
  /-- `mantissa · 2 ^ exponent`, with its sign. -/
  | finite (negative : Bool) (mantissa : Nat) (exponent : Int)
  | infinite (negative : Bool)
  | nan
  deriving DecidableEq, Repr

namespace Binary64

/-- Exponent of the smallest values. -/
def minExponent : Int := -1074

/-- Exponent of the largest values. -/
def maxExponent : Int := 971

/-- A bound on mantissas. -/
def mantissaLimit : Nat := Nat.pow 2 53

/-- The quotient rounded to the nearest number, a tie to the even one. -/
def roundDiv (num den : Nat) : Nat :=
  let q := num / den
  let r := num % den
  if den < 2 * r || (2 * r = den && q % 2 = 1) then q + 1 else q

/-- `num / den` as multiples of `2 ^ exponent`, rounded. -/
def scaled (num den : Nat) (exponent : Int) : Nat :=
  if 0 ≤ exponent then roundDiv num (den * Nat.pow 2 exponent.toNat)
  else roundDiv (num * Nat.pow 2 (-exponent).toNat) den

/-- The value nearest to `num / den`. -/
def ofRatio (negative : Bool) (num den : Nat) : Binary64 :=
  let guess : Int := (Nat.log2 num : Int) - Nat.log2 den - 53
  let fits (e : Int) : Bool :=
    if 0 ≤ e then num < mantissaLimit * den * Nat.pow 2 e.toNat
    else num * Nat.pow 2 (-e).toNat < mantissaLimit * den
  let exponent := max minExponent (if fits guess then guess else guess + 1)
  let mantissa := scaled num den exponent
  let (mantissa, exponent) :=
    if mantissa = mantissaLimit then (mantissaLimit / 2, exponent + 1) else (mantissa, exponent)
  if maxExponent < exponent then .infinite negative else .finite negative mantissa exponent

/-- The value nearest to `digits · 10 ^ exponent`. Exponents far outside the range of finite values
are decided without the power. -/
def ofDecimal (negative : Bool) (digits : Nat) (exponent : Int) : Binary64 :=
  let width : Int := (Nat.toDigits 10 digits).length
  if digits = 0 || exponent + width < -330 then .finite negative 0 minExponent
  else if 310 < exponent + width then .infinite negative
  else if 0 ≤ exponent then ofRatio negative (digits * Nat.pow 10 exponent.toNat) 1
  else ofRatio negative digits (Nat.pow 10 (-exponent).toNat)

end Binary64
end ManagedBoot
