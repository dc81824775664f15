import ManagedBoot.Text.Basic
/-!
The texts of TOML: characters, line ends, comments and the four kinds of strings.

A reader takes a value from the front of a list of characters and yields what is left. The readers
of strings start after the opening delimiter and end after the closing one.
-/
namespace ManagedBoot.Toml

/-- Takes an `α` from the front of a text, or fails. -/
abbrev Reader (α : Type) := List Char → Option (α × List Char)

/-- Space and tab. -/
def isBlank (c : Char) : Bool := c = ' ' || c = '\t'

/-- Neither a control character nor DEL. The tab is no exception here. -/
def isVisible (c : Char) : Bool := ' ' ≤ c && c ≠ '\x7f'

/-- What may stand in a comment. -/
def isCommentChar (c : Char) : Bool := c = '\t' || isVisible c

/-- What stands for itself between double quotes. -/
def isBasicChar (c : Char) : Bool := isCommentChar c && c ≠ '"' && c ≠ '\\'

/-- What stands for itself between single quotes. -/
def isLiteralChar (c : Char) : Bool := isCommentChar c && c ≠ '\''

/-- What a key without quotes consists of. -/
def isBareKeyChar (c : Char) : Bool := c.isAlphanum || c = '_' || c = '-'

def skipBlanks (s : List Char) : List Char := s.dropWhile isBlank

/-- What follows a line end: a line feed, perhaps after a carriage return. -/
def newline : List Char → Option (List Char)
  | '\n' :: rest => some rest
  | '\r' :: '\n' :: rest => some rest
  | _ => none

/-- A comment if there is one. -/
def skipComment (s : List Char) : List Char :=
  match s with
  | '#' :: rest => rest.dropWhile isCommentChar
  | _ => s

/-- What follows the end of a line, with blanks and a comment before it. -/
def lineEnd (s : List Char) : Option (List Char) :=
  match skipComment (skipBlanks s) with
  | [] => some []
  | rest => newline rest

/-- What follows blanks, line ends and comments. `inComment` tells where the text begins. -/
def skipFiller : (inComment : Bool) → List Char → List Char
  | _, [] => []
  | inComment, c :: rest =>
    if c = '\n' then skipFiller false rest
    else if c = '\r' && rest.head? = some '\n' then skipFiller false rest
    else if inComment then
      if isCommentChar c then skipFiller true rest else c :: rest
    else if isBlank c then skipFiller false rest
    else if c = '#' then skipFiller true rest
    else c :: rest

/-- Puts a character in front of what a reader of text found. -/
def cons (c : Char) (found : Option (List Char × List Char)) : Option (List Char × List Char) :=
  found.map fun (text, rest) => (c :: text, rest)

/-- The escapes of one letter. -/
def simpleEscape? : Char → Option Char
  | 'b' => some '\x08'
  | 't' => some '\t'
  | 'n' => some '\n'
  | 'f' => some '\x0c'
  | 'r' => some '\r'
  | '"' => some '"'
  | '\\' => some '\\'
  | _ => none

/-- The number of digits after the letter of a code point escape. -/
def codeWidth? : Char → Option Nat
  | 'u' => some 4
  | 'U' => some 8
  | _ => none

/-- Where a reader of escaped text stands. -/
inductive Place where
  /-- Between characters. When joining lines, blanks and line ends are dropped. -/
  | plain (joining : Bool)
  /-- After a backslash. -/
  | escaped
  /-- Inside a code point escape, with so many digits to come after the next one. -/
  | code (after value : Nat)

/-- The text of a basic string of one line. -/
def basicString : Place → Reader (List Char)
  | _, [] => none
  | .plain _, c :: rest =>
    if c = '"' then some ([], rest)
    else if c = '\\' then basicString .escaped rest
    else if isBasicChar c then cons c (basicString (.plain false) rest)
    else none
  | .escaped, c :: rest =>
    match simpleEscape? c, codeWidth? c with
    | some d, _ => cons d (basicString (.plain false) rest)
    | none, some width => basicString (.code (width - 1) 0) rest
    | none, none => none
  | .code after value, c :: rest =>
    match hexDigit? c, after with
    | none, _ => none
    | some d, n + 1 => basicString (.code n (value * 16 + d)) rest
    | some d, 0 =>
      match scalar? (value * 16 + d) with
      | some ch => cons ch (basicString (.plain false) rest)
      | none => none

/-- The end of a string of several lines: three quotes, with up to two more before them that belong
to the text. -/
def closing? (quote : Char) : Reader (List Char)
  | a :: b :: c :: rest =>
    if a = quote && b = quote && c = quote then
      match rest with
      | d :: e :: more =>
        if d = quote then if e = quote then some ([d, e], more) else some ([d], e :: more)
        else some ([], rest)
      | [d] => if d = quote then some ([d], []) else some ([], rest)
      | [] => some ([], [])
    else none
  | _ => none

/-- Whether a line ends here, after blanks. -/
def atLineEnd (s : List Char) : Bool := (newline (skipBlanks s)).isSome

/-- The text of a basic string of several lines. -/
def multiBasicString : Place → Reader (List Char)
  | _, [] => none
  | .plain joining, c :: rest =>
    if joining && (isBlank c || c = '\n') then multiBasicString (.plain true) rest
    else if c = '\r' then
      if rest.head? = some '\n' then multiBasicString (.plain joining) rest else none
    else if c = '\n' then cons c (multiBasicString (.plain false) rest)
    else if c = '"' then
      match closing? '"' (c :: rest) with
      | some found => some found
      | none => cons c (multiBasicString (.plain false) rest)
    else if c = '\\' then multiBasicString .escaped rest
    else if isBasicChar c then cons c (multiBasicString (.plain false) rest)
    else none
  | .escaped, c :: rest =>
    if atLineEnd (c :: rest) then multiBasicString (.plain true) rest
    else
      match simpleEscape? c, codeWidth? c with
      | some d, _ => cons d (multiBasicString (.plain false) rest)
      | none, some width => multiBasicString (.code (width - 1) 0) rest
      | none, none => none
  | .code after value, c :: rest =>
    match hexDigit? c, after with
    | none, _ => none
    | some d, n + 1 => multiBasicString (.code n (value * 16 + d)) rest
    | some d, 0 =>
      match scalar? (value * 16 + d) with
      | some ch => cons ch (multiBasicString (.plain false) rest)
      | none => none

/-- The text of a literal string of one line. -/
def literalString : Reader (List Char)
  | [] => none
  | c :: rest =>
    if c = '\'' then some ([], rest)
    else if isLiteralChar c then cons c (literalString rest)
    else none

/-- The text of a literal string of several lines. -/
def multiLiteralString : Reader (List Char)
  | [] => none
  | c :: rest =>
    if c = '\r' then if rest.head? = some '\n' then multiLiteralString rest else none
    else if c = '\'' then
      match closing? '\'' (c :: rest) with
      | some found => some found
      | none => cons c (multiLiteralString rest)
    else if c = '\n' || isLiteralChar c then cons c (multiLiteralString rest)
    else none

/-- Drops the line end right after an opening delimiter. -/
def skipFirstNewline (s : List Char) : List Char := (newline s).getD s

/-- A string of any kind. -/
def string (s : List Char) : Option (String × List Char) :=
  let found :=
    match s with
    | '"' :: '"' :: '"' :: rest => multiBasicString (.plain false) (skipFirstNewline rest)
    | '"' :: rest => basicString (.plain false) rest
    | '\'' :: '\'' :: '\'' :: rest => multiLiteralString (skipFirstNewline rest)
    | '\'' :: rest => literalString rest
    | _ => none
  found.map fun (text, rest) => (String.ofList text, rest)

end ManagedBoot.Toml
