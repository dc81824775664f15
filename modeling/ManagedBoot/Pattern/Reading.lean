import ManagedBoot.Pattern.Bracket
import ManagedBoot.Text.Letter
/-!
Patterns from texts.

`read` yields the pattern of a text or the first thing that is wrong with it. A group that is left
open is blamed where it was opened, the innermost one first. That a pattern has too many levels is
found last.
-/
namespace ManagedBoot.Pattern

/-- What a parenthesis opens. -/
inductive GroupOpening where
  /-- A change of flags for the rest of the group around it. -/
  | change (flags : FlagChange)
  | group (flags : FlagChange)

/-- What may start the name of a group. -/
def isNameStart (c : Char) : Bool := c = '_' || isLetter c

/-- What a name of a group consists of. -/
def isNameChar (c : Char) : Bool :=
  c = '_' || c = '.' || c = '[' || c = ']' || isLetter c || isNumber c

/-- The name in front of a text, which may be empty. -/
def groupName : List Char → List Char
  | [] => []
  | c :: rest => if isNameStart c then c :: rest.takeWhile isNameChar else []

/-- A flag or the hyphen before flags to clear, with its place. -/
abbrev FlagItem := Option Flag × Span

/-- The change that a row of flags makes. -/
def FlagChange.ofItems (items : List FlagItem) : FlagChange where
  set := (items.takeWhile (·.1.isSome)).filterMap (·.1)
  clear := (items.dropWhile (·.1.isSome)).filterMap (·.1)

/-- Things in a row, the last one first. -/
def rowOf (rest : List Char) : List Node → Node
  | [] => .empty (.point rest)
  | last :: earlier =>
    match earlier.reverse with
    | [] => last
    | first :: more => .sequence (more.foldl .sequence first) last

/-- The branches of a choice. -/
def choiceOf (left : Option Node) (right : Node) : Node :=
  match left with
  | none => right
  | some left => .alternate left right

namespace Reading

/-- The name of a group, up to and with the angle bracket behind it. -/
def readName : Reading Unit := do
  let start ← here
  let name := groupName start
  match start.drop name.length with
  | [] => fail .nameUnfinished [] []
  | '>' :: rest =>
    if name.isEmpty then fail .nameEmpty start start
    goTo rest
    let text := String.ofList name
    let span := Span.between start ('>' :: rest)
    match (← get).names.find? (·.1 == text) with
    | some (_, first) => throw { cause := .nameDuplicate, span := span, first := some first }
    | none => modify fun c => { c with names := c.names ++ [(text, span)] }
  | stop => failAt .nameInvalid stop

/-- Adds a flag or a hyphen, which may not be there yet. -/
def addFlagItem (items : List FlagItem) (item : FlagItem) : Reading (List FlagItem) :=
  match items.find? (·.1 == item.1) with
  | none => return items ++ [item]
  | some (_, first) =>
    let cause := if item.1.isNone then Cause.flagRepeatedNegation else .flagDuplicate
    throw { cause := cause, span := item.2, first := some first }

/-- A row of flags, up to a colon or a closing parenthesis. The fuel exceeds what is left of the
pattern. -/
def flagItems : (fuel : Nat) → List FlagItem → Reading (List FlagItem)
  | 0, items => return items
  | fuel + 1, items => do
    match ← here with
    | [] => fail .flagUnfinished [] []
    | ':' :: _ => return items
    | ')' :: _ => return items
    | c :: rest =>
      let flag := Flag.ofChar? c
      if c ≠ '-' && flag.isNone then failAt .flagUnrecognized (c :: rest)
      let items ← addFlagItem items (flag, .between (c :: rest) rest)
      advance
      flagItems fuel items

/-- The flags between a question mark and a colon or a closing parenthesis. -/
def flagChange : Reading FlagChange := do
  let items ← flagItems ((← here).length + 1) []
  match items.getLast? with
  | some (none, span) => failOver .flagDanglingNegation span
  | _ => return .ofItems items

/-- What a parenthesis opens. The cursor is at the parenthesis. -/
def groupOpening : Reading GroupOpening := do
  let start ← here
  step
  let inside ← here
  match inside with
  | '?' :: '=' :: rest => fail .lookAround start rest
  | '?' :: '!' :: rest => fail .lookAround start rest
  | '?' :: '<' :: '=' :: rest => fail .lookAround start rest
  | '?' :: '<' :: '!' :: rest => fail .lookAround start rest
  | '?' :: 'P' :: '<' :: rest =>
    goTo rest
    readName
    return .group {}
  | '?' :: '<' :: rest =>
    goTo rest
    readName
    return .group {}
  | '?' :: rest =>
    if rest.isEmpty then failAt .groupUnclosed start
    goTo rest
    let change ← flagChange
    let stop ← here
    advance
    if stop.head? = some ':' then return .group change
    else if change = {} then fail .repetitionMissing inside inside
    else return .change change
  | _ => return .group {}

/-- Takes the last thing in a row, which is to be repeated. -/
def takeLast (row : List Node) : Reading (Node × List Node) := do
  match row with
  | [] => fail .repetitionMissing (← here) (← here)
  | .flags _ _ :: _ => fail .repetitionMissing (← here) (← here)
  | last :: earlier => return (last, earlier)

/-- The digits of a count and their place, with blanks around them. -/
def countDigits : Reading (List Char × Span) := do
  goTo ((← here).dropWhile isSpace)
  let start ← here
  let digits ← collect Char.isDigit
  let span := Span.between start (← here)
  let _ ← collect isSpace
  return (digits, span)

/-- The number that digits stand for. -/
def count (digits : List Char × Span) : Reading Nat := do
  let n := digits.1.foldl (fun n d => 10 * n + (d.toNat - '0'.toNat)) 0
  if digits.1.isEmpty then failOver .countEmpty digits.2
  else if n < UInt32.size then return n
  else failOver .decimalInvalid digits.2

/-- How often something may stand in a row: exactly, at least, or both bounds between braces. The
cursor is at the opening brace. -/
def bounds : Reading (Nat × Option Nat) := do
  let start ← here
  step
  orUnfinished .countUnclosed start
  let digits ← countDigits
  match ← here with
  | [] => fail .countUnclosed start []
  | ',' :: _ =>
    step
    match ← here with
    | [] => fail .countUnclosed start []
    | '}' :: _ => return (← count digits, none)
    | _ =>
      let least ← count digits
      return (least, some (← count (← countDigits)))
  | _ =>
    let n ← count digits
    return (n, some n)

/-- A question mark behind a repetition changes which match is found, but not whether there is
one. -/
def skipLazy : Reading Unit := do
  if (← here).head? = some '?' then advance

/-- A repetition with bounds. -/
def counted (row : List Node) : Reading (List Node) := do
  let start ← here
  let (last, earlier) ← takeLast row
  let (least, most) ← bounds
  let stop ← here
  if stop.head? ≠ some '}' then fail .countUnclosed start stop
  step
  skipLazy
  let rest ← here
  if most.any (· < least) then fail .countInvalid start rest
  return .repetition last least most (last.span.through (.point rest)) :: earlier

/-- A repetition with a sign. -/
def uncounted (row : List Node) (least : Nat) (most : Option Nat) : Reading (List Node) := do
  let (last, earlier) ← takeLast row
  advance
  skipLazy
  return .repetition last least most (last.span.through (.point (← here))) :: earlier

/-- One character of a pattern that opens nothing. -/
def atom : Reading Node := do
  match ← here with
  | '\\' :: _ => escape
  | c :: rest =>
    advance
    let span := Span.between (c :: rest) rest
    match c with
    | '.' => return .dot span
    | '^' => return .assertion .lineStart span
    | '$' => return .assertion .lineEnd span
    | c => return .literal { char := c, span := span }
  | [] => return .empty (.point [])

/-- Sets whether free space means nothing. -/
def setExtended (extended : Bool) : Reading Unit :=
  modify fun c => { c with extended := extended }

/-- The branches up to a closing parenthesis or the end of the pattern. `left` holds those before
the row that is being read. The fuel exceeds what is left of the pattern. -/
def expression : (fuel : Nat) → (left : Option Node) → (row : List Node) → Reading Node
  | 0, left, row => return choiceOf left (rowOf [] row)
  | fuel + 1, left, row => do
    skipFree
    let s ← here
    match s with
    | [] => return choiceOf left (rowOf s row)
    | ')' :: _ => return choiceOf left (rowOf s row)
    | '|' :: _ =>
      advance
      expression fuel (some (choiceOf left (rowOf s row))) []
    | '(' :: _ =>
      let outer := (← get).extended
      match ← groupOpening with
      | .change flags =>
        setExtended (flags.apply .extended outer)
        expression fuel left (.flags flags (.between s (← here)) :: row)
      | .group flags =>
        setExtended (flags.apply .extended outer)
        let body ← expression fuel none []
        if (← here).isEmpty then failAt .groupUnclosed s
        setExtended outer
        advance
        expression fuel left (.group flags body (.between s (← here)) :: row)
    | '[' :: _ =>
      let cls ← bracket
      expression fuel left (.charClass cls :: row)
    | '?' :: _ => expression fuel left (← uncounted row 0 (some 1))
    | '*' :: _ => expression fuel left (← uncounted row 0 none)
    | '+' :: _ => expression fuel left (← uncounted row 1 none)
    | '{' :: _ => expression fuel left (← counted row)
    | _ =>
      let node ← atom
      expression fuel left (node :: row)

/-- A pattern and nothing else. -/
def whole : Reading Node := do
  let node ← expression ((← here).length + 1) none []
  if !(← here).isEmpty then failAt .groupUnopened (← here)
  match node.tooDeep nestingLimit with
  | some span => failOver .nestedTooDeep span
  | none => return node

end Reading

/-- The pattern of a text. -/
def Node.read (pattern : String) : Except Error Node :=
  (Reading.whole.run { rest := pattern.toList }).map (·.1)

end ManagedBoot.Pattern
