import ManagedBoot.Toml.Text
import ManagedBoot.Toml.Value
/-!
Numbers, dates and times of TOML.

Digits may be grouped by single underscores. Integers have 64 bits and a sign. A decimal number that
is too large for a float is refused, unless it is negative.
-/
namespace ManagedBoot.Toml

/-- The digits that follow a digit, and the rest. -/
def moreDigits (ok : Char → Bool) : List Char → List Char × List Char
  | [] => ([], [])
  | '_' :: c :: rest =>
    if ok c then
      let (ds, rest) := moreDigits ok rest
      (c :: ds, rest)
    else ([], '_' :: c :: rest)
  | c :: rest =>
    if ok c then
      let (ds, rest) := moreDigits ok rest
      (c :: ds, rest)
    else ([], c :: rest)

/-- One or more digits. -/
def digits (ok : Char → Bool) : Reader (List Char)
  | c :: rest =>
    if ok c then
      let (ds, rest) := moreDigits ok rest
      some (c :: ds, rest)
    else none
  | [] => none

/-- The number that digits write in a base. -/
def ofDigits (base : Nat) (ds : List Char) : Nat :=
  ds.foldl (fun n c => n * base + (hexDigit? c).getD 0) 0

/-- A sign if there is one: `true` is minus. -/
def sign : List Char → Bool × List Char
  | '-' :: rest => (true, rest)
  | '+' :: rest => (false, rest)
  | s => (false, s)

/-- Decimal digits without a leading zero. -/
def wholeDigits : Reader (List Char)
  | '0' :: rest => some (['0'], rest)
  | s => digits Char.isDigit s

/-- The exponent of a float, after its letter. -/
def exponent (s : List Char) : Option (Int × List Char) :=
  match s with
  | [] => none
  | c :: rest =>
    if c = 'e' || c = 'E' then
      let (negative, rest) := sign rest
      (digits Char.isDigit rest).map fun (ds, rest) =>
        let n : Int := ofDigits 10 ds
        (if negative then -n else n, rest)
    else none

/-- The digits of a fraction, after its point. -/
def fraction : Reader (List Char)
  | '.' :: rest => digits Char.isDigit rest
  | _ => none

/-- A float with a fraction or an exponent. -/
def decimalFloat (s : List Char) : Option (Binary64 × List Char) := do
  let (negative, rest) := sign s
  let (whole, rest) ← wholeDigits rest
  let (decimals, power, rest) ←
    match fraction rest with
    | some (ds, rest) =>
      match exponent rest with
      | some (n, rest) => some (ds, n, rest)
      | none => some (ds, 0, rest)
    | none => (exponent rest).map fun (n, rest) => ([], n, rest)
  let x := Binary64.ofDecimal negative (ofDigits 10 (whole ++ decimals)) (power - decimals.length)
  if x = .infinite false then none else some (x, rest)

/-- Infinity or not a number, by name. -/
def namedFloat (s : List Char) : Option (Binary64 × List Char) :=
  let (negative, rest) := sign s
  match rest with
  | 'i' :: 'n' :: 'f' :: rest => some (.infinite negative, rest)
  | 'n' :: 'a' :: 'n' :: rest => some (.nan, rest)
  | _ => none

/-- The integers of 64 bits. -/
def inRange (n : Int) : Bool := -0x8000000000000000 ≤ n && n < 0x8000000000000000

/-- An integer in hexadecimal, octal, binary or decimal. Only the last may have a sign. -/
def integer (s : List Char) : Option (Int × List Char) := do
  let (n, rest) ←
    match s with
    | '0' :: 'x' :: rest => based 16 (fun c => (hexDigit? c).isSome) rest
    | '0' :: 'o' :: rest => based 8 (fun c => '0' ≤ c && c ≤ '7') rest
    | '0' :: 'b' :: rest => based 2 (fun c => c = '0' || c = '1') rest
    | _ =>
      let (negative, rest) := sign s
      (wholeDigits rest).map fun (ds, rest) =>
        let n : Int := ofDigits 10 ds
        (if negative then -n else n, rest)
  if inRange n then some (n, rest) else none
where
  /-- Digits in a base. -/
  based (base : Nat) (ok : Char → Bool) (s : List Char) : Option (Int × List Char) :=
    (digits ok s).map fun (ds, rest) => ((ofDigits base ds : Int), rest)

/-- Exactly `count` decimal digits. -/
def fixed : (count : Nat) → (value : Nat) → List Char → Option (Nat × List Char)
  | 0, value, s => some (value, s)
  | count + 1, value, c :: rest =>
    if c.isDigit then fixed count (value * 10 + (c.toNat - '0'.toNat)) rest else none
  | _ + 1, _, [] => none

/-- A number of two digits up to `most`. -/
def twoDigits (most : Nat) (s : List Char) : Option (Nat × List Char) := do
  let (n, rest) ← fixed 2 0 s
  if n ≤ most then some (n, rest) else none

/-- One given character. -/
def expect (c : Char) : List Char → Option (List Char)
  | d :: rest => if d = c then some rest else none
  | [] => none

def isLeapYear (year : Nat) : Bool := year % 4 = 0 && (year % 100 ≠ 0 || year % 400 = 0)

/-- Number of days of a month. -/
def daysOf (year month : Nat) : Nat :=
  if month = 2 then if isLeapYear year then 29 else 28
  else if month = 4 || month = 6 || month = 9 || month = 11 then 30
  else 31

/-- A day of the calendar. -/
def date (s : List Char) : Option (Date × List Char) := do
  let (year, rest) ← fixed 4 0 s
  let rest ← expect '-' rest
  let (month, rest) ← twoDigits 12 rest
  let rest ← expect '-' rest
  let (day, rest) ← twoDigits 31 rest
  if 1 ≤ month && 1 ≤ day && day ≤ daysOf year month then some (⟨year, month, day⟩, rest) else none

/-- A time of day. The second may be a leap second. -/
def time (s : List Char) : Option (Time × List Char) := do
  let (hour, rest) ← twoDigits 23 s
  let rest ← expect ':' rest
  let (minute, rest) ← twoDigits 59 rest
  let rest ← expect ':' rest
  let (second, rest) ← twoDigits 60 rest
  match rest with
  | '.' :: more =>
    let (ds, more) := (more.takeWhile Char.isDigit, more.dropWhile Char.isDigit)
    if ds.isEmpty then some (⟨hour, minute, second, []⟩, rest)
    else some (⟨hour, minute, second, ds⟩, more)
  | _ => some (⟨hour, minute, second, []⟩, rest)

/-- The distance from Greenwich. -/
def offset (s : List Char) : Option (Offset × List Char) :=
  match s with
  | 'Z' :: rest => some (none, rest)
  | 'z' :: rest => some (none, rest)
  | '+' :: rest => distance 1 rest
  | '-' :: rest => distance (-1) rest
  | _ => none
where
  /-- Hours and minutes in one direction. -/
  distance (direction : Int) (s : List Char) : Option (Offset × List Char) := do
    let (hour, rest) ← twoDigits 23 s
    let rest ← expect ':' rest
    let (minute, rest) ← twoDigits 59 rest
    some (some (direction * (hour * 60 + minute)), rest)

/-- What may stand between a date and a time. -/
def isTimeDelimiter (c : Char) : Bool := c = 'T' || c = 't' || c = ' '

/-- A date, a time, or both with or without an offset. -/
def dateTime (s : List Char) : Option (DateTime × List Char) :=
  match date s with
  | none => (time s).map fun (t, rest) => (.time t, rest)
  | some (d, rest) =>
    match rest with
    | c :: more =>
      if isTimeDelimiter c then
        match time more with
        | none => some (.date d, rest)
        | some (t, rest) =>
          match offset rest with
          | some (o, rest) => some (.offset d t o, rest)
          | none => some (.civil d t, rest)
      else some (.date d, rest)
    | [] => some (.date d, [])

/-- A number, a date or a time. -/
def number (s : List Char) : Option (Value × List Char) :=
  ((dateTime s).map fun (t, rest) => (.datetime t, rest)) <|>
  ((decimalFloat s).map fun (x, rest) => (.float x, rest)) <|>
  ((namedFloat s).map fun (x, rest) => (.float x, rest)) <|>
  ((integer s).map fun (n, rest) => (.integer n, rest))

end ManagedBoot.Toml
