/-!
Characters, lines and columns.

Characters are told apart by their numbers: blanks, hexadecimal digits, code points that are
characters. A line ends with a line feed, and a carriage return before it belongs to the end of the
line. A column is a text filled up to a width.
-/
namespace ManagedBoot

/-! ## Characters -/

/-- The blanks of Unicode. -/
def isSpace (c : Char) : Bool :=
  let n := c.toNat
  (9 ≤ n && n ≤ 13) || n = 0x20 || n = 0x85 || n = 0xA0 || n = 0x1680 ||
    (0x2000 ≤ n && n ≤ 0x200A) || n = 0x2028 || n = 0x2029 || n = 0x202F || n = 0x205F || n = 0x3000

/-- A text without blanks at its ends. -/
def trimSpace (s : String) : String :=
  String.ofList ((s.toList.dropWhile isSpace).reverse.dropWhile isSpace).reverse

/-- The value of a hexadecimal digit. -/
def hexDigit? (c : Char) : Option Nat :=
  if '0' ≤ c && c ≤ '9' then some (c.toNat - '0'.toNat)
  else if 'a' ≤ c && c ≤ 'f' then some (c.toNat - 'a'.toNat + 10)
  else if 'A' ≤ c && c ≤ 'F' then some (c.toNat - 'A'.toNat + 10)
  else none

/-- The character of a code point, unless it is a surrogate or out of range. -/
def scalar? (code : Nat) : Option Char :=
  if code.isValidChar then some (Char.ofNat code) else none

/-! ## Lines -/

/-- Whether a character belongs to the line that it stands on. -/
def isInLine (c : Char) : Bool := c ≠ '\n'

/-- The lines of a text without their ends. Nothing need follow the last end. -/
def linesOf (text : String) : List String :=
  let parts := text.splitOn "\n"
  let ended := parts.dropLast.map fun line =>
    if line.toList.getLast? = some '\r' then String.ofList line.toList.dropLast else line
  ended ++ parts.getLast?.toList.filter (· ≠ "")

/-! ## Columns -/

namespace Column

/-- A text with blanks after it up to a width. -/
def padRight (width : Nat) (s : String) : String := String.ofList (s.toList.rightpad width ' ')

/-- A text with blanks before it up to a width. -/
def padLeft (width : Nat) (s : String) : String := String.ofList (s.toList.leftpad width ' ')

/-- A character over and over. -/
def fill (width : Nat) (c : Char) : String := String.ofList (List.replicate width c)

end Column
end ManagedBoot
