import ManagedBoot.Toml.Text
/-!
The written form of a string.

Of the four forms the plainest that needs no escape is taken: between double quotes, between single
quotes, and the same over several lines. A text with control characters, or with no form free of
escapes, is written between double quotes with escapes, over several lines if it has any.
-/
namespace ManagedBoot.Toml

/-- What has to be known of a text to choose its form. -/
structure Traits where
  /-- A control character other than tab and line feed. -/
  control : Bool := false
  backslash : Bool := false
  doubleQuote : Bool := false
  singleQuote : Bool := false
  lineFeed : Bool := false
  /-- Three double quotes in a row. -/
  tripleDouble : Bool := false
  /-- Three single quotes in a row. -/
  tripleSingle : Bool := false
  deriving DecidableEq, Repr

/-- A control character that has no form of its own in any string. -/
def isControl (c : Char) : Bool := (c < ' ' && c ≠ '\t' && c ≠ '\n') || c = '\x7f'

/-- Whether a character stands three times in a row. -/
def hasTriple (quote : Char) : List Char → Bool
  | a :: b :: c :: rest => (a = quote && b = quote && c = quote) || hasTriple quote (b :: c :: rest)
  | _ => false

def Traits.of (s : List Char) : Traits where
  control := s.any isControl
  backslash := s.contains '\\'
  doubleQuote := s.contains '"'
  singleQuote := s.contains '\''
  lineFeed := s.contains '\n'
  tripleDouble := hasTriple '"' s
  tripleSingle := hasTriple '\'' s

inductive StringForm where
  | basic
  | literal
  | multiBasic
  | multiLiteral
  deriving DecidableEq, Repr

/-- The form of a text. -/
def StringForm.of (t : Traits) : StringForm :=
  if !t.control && !t.backslash && !t.doubleQuote && !t.lineFeed then .basic
  else if !t.control && !t.singleQuote && !t.lineFeed then .literal
  else if !t.control && !t.backslash && !t.tripleDouble then .multiBasic
  else if !t.control && !t.tripleSingle then .multiLiteral
  else if t.lineFeed then .multiBasic
  else .basic

/-- A digit in upper-case hexadecimal. -/
def upperHexDigit (n : Nat) : Char :=
  if n < 10 then Char.ofNat ('0'.toNat + n) else Char.ofNat ('A'.toNat + (n - 10))

/-- The code point escape of a character below U+0100. -/
def codeEscape (c : Char) : List Char :=
  ['\\', 'u', '0', '0', upperHexDigit (c.toNat / 16), upperHexDigit (c.toNat % 16)]

/-- The written form of a character other than a quote or a line feed. -/
def escapeChar (c : Char) : List Char :=
  match c with
  | '\x08' => ['\\', 'b']
  | '\t' => ['\\', 't']
  | '\x0c' => ['\\', 'f']
  | '\r' => ['\\', 'r']
  | '\\' => ['\\', '\\']
  | c => if isControl c then codeEscape c else [c]

/-- The inside of a basic string. `allowed` double quotes in a row may stand without an escape, and
`run` of them stand in front; a line feed stands for itself where quotes may. -/
def escapeBasic (allowed : Nat) : (run : Nat) → List Char → List Char
  | _, [] => []
  | run, c :: rest =>
    if c = '"' then
      if run < allowed then '"' :: escapeBasic allowed (run + 1) rest
      else '\\' :: '"' :: escapeBasic allowed 0 rest
    else if c = '\n' then
      if allowed = 0 then '\\' :: 'n' :: escapeBasic allowed 0 rest
      else '\n' :: escapeBasic allowed 0 rest
    else escapeChar c ++ escapeBasic allowed 0 rest

/-- The line end after the opening delimiter of several lines. -/
def openingLine (s : List Char) : List Char := if s.contains '\n' then ['\n'] else []

/-- A text in a given form. -/
def StringForm.write (form : StringForm) (s : List Char) : List Char :=
  match form with
  | .basic => '"' :: (escapeBasic 0 0 s ++ ['"'])
  | .literal => '\'' :: (s ++ ['\''])
  | .multiBasic => ['"', '"', '"'] ++ openingLine s ++ escapeBasic 2 0 s ++ ['"', '"', '"']
  | .multiLiteral => ['\'', '\'', '\''] ++ openingLine s ++ s ++ ['\'', '\'', '\'']

/-- The written form of a text. -/
def writeString (s : List Char) : List Char := (StringForm.of (Traits.of s)).write s

end ManagedBoot.Toml
