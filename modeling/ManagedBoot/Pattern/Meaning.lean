import ManagedBoot.Pattern.Matcher
import ManagedBoot.Pattern.Reading
/-!
What a pattern means.

The flags in force decide what a part of a pattern matches. By default texts consist of the
characters of Unicode; but neither the other cases of a character, nor its properties, nor the
classes that are written with a letter are known beyond ASCII, so a pattern that asks for them is
refused. Without that flag texts consist of bytes, and what could match a part of a character is
refused.
-/
namespace ManagedBoot.Pattern

/-- The flags in force that decide what is matched. -/
structure Modes where
  ignoreCase : Bool := false
  multiLine : Bool := false
  dotAll : Bool := false
  unicode : Bool := true
  crlf : Bool := false
  deriving DecidableEq, Repr

namespace Modes

def change (modes : Modes) (change : FlagChange) : Modes where
  ignoreCase := change.apply .ignoreCase modes.ignoreCase
  multiLine := change.apply .multiLine modes.multiLine
  dotAll := change.apply .dotAll modes.dotAll
  unicode := change.apply .unicode modes.unicode
  crlf := change.apply .crlf modes.crlf

/-- A set in both cases if case is ignored. -/
def fold (modes : Modes) (set : CharSet) : CharSet :=
  if modes.ignoreCase then .bothCases set else set

end Modes

def refuse {α : Type} (cause : Cause) (span : Span) : Except Error α :=
  .error { cause := cause, span := span }

/-- A complement may hold a part of a character where texts consist of bytes. -/
def negate (modes : Modes) (negated : Bool) (set : CharSet) (span : Span) :
    Except Error CharSet :=
  if !negated then .ok set
  else if modes.unicode then .ok (.complement set)
  else refuse .invalidUtf8 span

/-- A set without regard to case, if case is ignored. -/
def ignoringCase (modes : Modes) (cls : CharClass) (set : CharSet) (span : Span) :
    Except Error CharSet :=
  if modes.ignoreCase && modes.unicode && !cls.isVacuous then refuse .caseUnavailable span
  else .ok (modes.fold set)

/-- A byte outside ASCII is a part of a character. -/
def Literal.isPart (l : Literal) (modes : Modes) : Bool :=
  !modes.unicode && l.isByte && 0x80 ≤ l.char.toNat

/-- A character in a class. -/
def Literal.member (l : Literal) (modes : Modes) : Except Error Char :=
  if l.isPart modes then refuse .invalidUtf8 l.span
  else if !modes.unicode && 0x80 ≤ l.char.toNat then refuse .unicodeNotAllowed l.span
  else .ok l.char

/-- The name of a property in its plain form: in lower case, without blanks, hyphens and low lines,
and without the word in front that says that a character has it. -/
def plainName (name : List Char) : List Char :=
  let body :=
    match name with
    | a :: b :: rest => if a.toLower = 'i' && b.toLower = 's' then rest else name
    | _ => name
  let kept := body.filter fun c => c.toNat < 0x80 && c ≠ ' ' && c ≠ '_' && c ≠ '-'
  let plain := kept.map Char.toLower
  if plain = ['c'] && body.length < name.length then ['i', 's', 'c'] else plain

/-- The categories whose short names are looked up as values. -/
def isCategoryName (name : List Char) : Bool :=
  let plain := String.ofList (plainName name)
  plain = "cf" || plain = "sc" || plain = "lc"

/-- The characters of a class. -/
def CharClass.charSet (modes : Modes) : CharClass → Except Error CharSet
  | .empty _ => .ok .nothing
  | .literal l => do return .single (← l.member modes)
  | .range first last => do return .range (← first.member modes) (← last.member modes)
  | .named cls negated span => do
    negate modes negated (← ignoringCase modes (.named cls negated span) cls.charSet span) span
  | .escaped cls negated span =>
    if modes.unicode then refuse .escapedClassNotFound span
    else negate modes negated cls.charSet span
  | .property name span =>
    if !modes.unicode then refuse .unicodeNotAllowed span
    else if isCategoryName name then refuse .propertyValueNotFound span
    else refuse .propertyNotFound span
  | .bracketed negated inside span => do
    let set ← inside.charSet modes
    negate modes negated (← ignoringCase modes inside set span) span
  | .union a b => do return .union (← a.charSet modes) (← b.charSet modes)
  | .combined op a b => do
    let left ← a.charSet modes
    let right ← b.charSet modes
    let right ← ignoringCase modes b right b.span
    let left ← ignoringCase modes a left a.span
    match op with
    | .intersection => return .intersection left right
    | .difference => return .difference left right
    | .symmetricDifference => return .symmetricDifference left right

/-- A character that stands for itself. -/
def Literal.charSet (l : Literal) (modes : Modes) : Except Error CharSet :=
  if l.isPart modes then refuse .invalidUtf8 l.span
  else if modes.ignoreCase && modes.unicode then refuse .caseUnavailable l.span
  else .ok (modes.fold (.single l.char))

/-- What a dot matches. -/
def dotSet (modes : Modes) (span : Span) : Except Error CharSet :=
  if !modes.unicode then refuse .invalidUtf8 span
  else if modes.dotAll then .ok (.complement .nothing)
  else if modes.crlf then .ok (.complement (.union (.single '\r') (.single '\n')))
  else .ok (.complement (.single '\n'))

def Assertion.look (modes : Modes) : Assertion → Look
  | .textStart => .textStart
  | .textEnd => .textEnd
  | .lineStart =>
    if !modes.multiLine then .textStart else if modes.crlf then .crlfStart else .lineStart
  | .lineEnd => if !modes.multiLine then .textEnd else if modes.crlf then .crlfEnd else .lineEnd
  | .word edge => .word edge modes.unicode

/-- The matcher of a part and the flags in force behind it. -/
def Node.matcher : Modes → Node → Except Error (Matcher × Modes)
  | modes, .empty _ => .ok (.empty, modes)
  | modes, .flags change _ => .ok (.empty, modes.change change)
  | modes, .literal l => do return (.one (← l.charSet modes), modes)
  | modes, .dot span => do return (.one (← dotSet modes span), modes)
  | modes, .assertion a _ => .ok (.look (a.look modes), modes)
  | modes, .charClass cls => do return (.one (← cls.charSet modes), modes)
  | modes, .repetition body least most _ => do
    let (m, modes) ← body.matcher modes
    return (m.repeated least most, modes)
  | modes, .group change body _ => do
    let (m, _) ← body.matcher (modes.change change)
    return (m, modes)
  | modes, .sequence a b => do
    let (m, modes) ← a.matcher modes
    let (n, modes) ← b.matcher modes
    return (.sequence m n, modes)
  | modes, .alternate a b => do
    let (m, modes) ← a.matcher modes
    let (n, modes) ← b.matcher modes
    return (.alternate m n, modes)

/-- The bytes that a machine may take. -/
def sizeLimit : Nat := 10485760

/-- The bytes of one state. -/
def stateSize : Nat := 32

/-- Why there is no matcher for a text. -/
inductive CompileError where
  | rejected (pattern : String) (cause : Error)
  | tooLarge
  | wordsUnavailable
  deriving DecidableEq, Repr

def CompileError.message : CompileError → String
  | .rejected pattern cause => cause.report pattern
  | .tooLarge => s!"Compiled regex exceeds size limit of {sizeLimit} bytes."
  | .wordsUnavailable => "error building NFA"

/-- The matcher of a pattern that is given as a text. -/
def compile (pattern : String) : Except CompileError Matcher := do
  let (m, _) ← (Node.read pattern >>= Node.matcher {}).mapError (.rejected pattern)
  if sizeLimit < m.states * stateSize then .error .tooLarge
  else if m.asksForWords then .error .wordsUnavailable
  else .ok m

end ManagedBoot.Pattern
