import ManagedBoot.Text.Unprintable
/-!
Quoted text for diagnostics.

A text is written between double quotes. A quote and a backslash get a backslash, tab, line feed,
carriage return and NUL have escapes of one letter, and every other character that has no printable
form is written as its code point in lower-case hexadecimal between braces.
-/
namespace ManagedBoot.Quoted

/-- A number in lower-case hexadecimal. -/
def hex (n : Nat) : String := String.ofList (Nat.toDigits 16 n)

/-- The written form of one character. -/
def escape (c : Char) : String :=
  match c with
  | '\x00' => "\\0"
  | '\t' => "\\t"
  | '\n' => "\\n"
  | '\r' => "\\r"
  | '"' => "\\\""
  | '\\' => "\\\\"
  | _ =>
    if 0x20 ≤ c.toNat && c.toNat < 0x7F then c.toString
    else if Unprintable.contains c.toNat then "\\u\x7b" ++ hex c.toNat ++ "\x7d"
    else c.toString

/-- The quoted form of a text. -/
def quote (s : String) : String := "\"" ++ String.join (s.toList.map escape) ++ "\""

/-- The quoted form of a list of texts, in brackets. -/
def quoteList (ss : List String) : String := "[" ++ ", ".intercalate (ss.map quote) ++ "]"

end ManagedBoot.Quoted
