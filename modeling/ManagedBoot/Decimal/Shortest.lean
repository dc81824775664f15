import ManagedBoot.Decimal.Binary64
/-!
The shortest decimal text that reads back as the same number.

The numbers that round to a value form an interval; its ends belong to it if the mantissa is even.
Of the decimals with one digit, two digits and so on, the first that lie in the interval give the
digits, and of two such neighbours the nearer one (the upper one of a tie). The text is always
positional and has a point.
-/
namespace ManagedBoot.Binary64

/-- A positive number as a fraction. -/
structure Ratio where
  num : Nat
  den : Nat

/-- `n · 2 ^ exponent`. -/
def Ratio.ofBinary (n : Nat) (exponent : Int) : Ratio :=
  if 0 ≤ exponent then ⟨n * Nat.pow 2 exponent.toNat, 1⟩ else ⟨n, Nat.pow 2 (-exponent).toNat⟩

/-- `r · 10 ^ exponent`. -/
def Ratio.shift (r : Ratio) (exponent : Int) : Ratio :=
  if 0 ≤ exponent then ⟨r.num * Nat.pow 10 exponent.toNat, r.den⟩
  else ⟨r.num, r.den * Nat.pow 10 (-exponent).toNat⟩

/-- The decimal point's place: the number is below `10 ^ p` and not below `10 ^ (p - 1)`. -/
def Ratio.pointPlace (r : Ratio) : Int :=
  let guess : Int := (Nat.toDigits 10 r.num).length - (Nat.toDigits 10 r.den).length
  let scaled := r.shift (-guess)
  if scaled.num < scaled.den then guess else guess + 1

/-- Whether `digits · 10 ^ place` reads back as `mantissa · 2 ^ exponent`. -/
def readsBack (mantissa : Nat) (exponent : Int) (digits : Nat) (place : Int) : Bool :=
  let below := if mantissa = mantissaLimit / 2 && minExponent < exponent then 1 else 2
  let low := Ratio.ofBinary (4 * mantissa - below) (exponent - 2)
  let high := Ratio.ofBinary (4 * mantissa + 2) (exponent - 2)
  let d := Ratio.shift ⟨digits, 1⟩ place
  if mantissa % 2 = 0 then low.num * d.den ≤ d.num * low.den && d.num * high.den ≤ high.num * d.den
  else low.num * d.den < d.num * low.den && d.num * high.den < high.num * d.den

/-- Drops a final zero. A carry into a new digit leaves one. -/
def dropZero (digits : Nat) (place : Int) : Nat × Int :=
  if digits % 10 = 0 then (digits / 10, place + 1) else (digits, place)

/-- The digits and the place of the last one, with `count` digits, if a decimal of that length reads
back. -/
def withDigits? (mantissa : Nat) (exponent : Int) (count : Nat) : Option (Nat × Int) :=
  let value := Ratio.ofBinary mantissa exponent
  let place := value.pointPlace - count
  let scaled := value.shift (-place)
  let floor := scaled.num / scaled.den
  let remainder := scaled.num % scaled.den
  let down := readsBack mantissa exponent floor place
  let up := readsBack mantissa exponent (floor + 1) place
  if up && (!down || scaled.den ≤ 2 * remainder) then some (dropZero (floor + 1) place)
  else if down then some (floor, place)
  else none

/-- Digits and the place of the last one. Seventeen digits always suffice. -/
def shortest (mantissa : Nat) (exponent : Int) : Nat × Int :=
  ((List.range 17).findSome? fun n => withDigits? mantissa exponent (n + 1)).getD (0, 0)

/-- `digits · 10 ^ place` without an exponent. -/
def positional (digits : Nat) (place : Int) : String :=
  let ds := Nat.toDigits 10 digits
  let zeros (n : Nat) : List Char := List.replicate n '0'
  if 0 ≤ place then String.ofList (ds ++ zeros place.toNat ++ ['.', '0'])
  else
    let fraction := (-place).toNat
    let padded := zeros (fraction + 1 - ds.length) ++ ds
    let whole := padded.length - fraction
    String.ofList (padded.take whole ++ '.' :: padded.drop whole)

/-- The text of a number. -/
def text : Binary64 → String
  | .nan => "NaN"
  | .infinite negative => if negative then "-inf" else "inf"
  | .finite negative mantissa exponent =>
    (if negative then "-" else "") ++
      if mantissa = 0 then "0.0"
      else
        let (digits, place) := shortest mantissa exponent
        positional digits place

end ManagedBoot.Binary64
