import ManagedBoot.Pattern.Escape
/-!
Classes of characters between brackets.

A class may hold other classes. The operators `&&`, `--` and `~~` join what stands before them with
what stands behind, up to the next one.
-/
namespace ManagedBoot.Pattern

/-- A class of ASCII by name, after its opening bracket: whether it is negated, and what is left. -/
def asciiClass? : List Char → Option (AsciiClass × Bool × List Char)
  | ':' :: s =>
    let (negated, s) :=
      match s with
      | '^' :: rest => (true, rest)
      | s => (false, s)
    match s.dropWhile (· ≠ ':') with
    | ':' :: ']' :: rest =>
      (AsciiClass.ofName? (String.ofList (s.takeWhile (· ≠ ':')))).map fun cls =>
        (cls, negated, rest)
    | _ => none
  | _ => none

/-- An operator of classes, and what is left. -/
def setOp? : List Char → Option (SetOp × List Char)
  | '&' :: '&' :: rest => some (.intersection, rest)
  | '-' :: '-' :: rest => some (.difference, rest)
  | '~' :: '~' :: rest => some (.symmetricDifference, rest)
  | _ => none

/-- The character behind a hyphen. Blanks are skipped if free space is, and one hash sign; if
nothing else follows, it is the very next one. -/
def behindHyphen (extended : Bool) (rest : List Char) : Option Char :=
  if extended then
    match rest.dropWhile isSpace with
    | '#' :: more => (more.dropWhile isSpace).head? <|> rest.head?
    | more => more.head? <|> rest.head?
  else rest.head?

/-- What opens a class. -/
structure ClassOpening where
  negated : Bool
  /-- The hyphens and the bracket that stand for themselves because they come first. -/
  items : CharClass
  span : Span

/-- The class so far, with what an operator joins it to. -/
def joined (left : Option (SetOp × CharClass)) (items : CharClass) : CharClass :=
  match left with
  | none => items
  | some (op, a) => .combined op a items

namespace Reading

/-- The hyphens at the front of a class. The fuel is what is left of the pattern. -/
def hyphens (start : List Char) : (fuel : Nat) → CharClass → Reading CharClass
  | 0, items => return items
  | fuel + 1, items => do
    match ← here with
    | '-' :: rest =>
      step
      if (← here).isEmpty then failOver .classUnclosed (.point start)
      let hyphen : Literal := { char := '-', span := .between ('-' :: rest) rest }
      hyphens start fuel (items.push (.literal hyphen))
    | _ => return items

/-- The opening of a class, from its bracket on. -/
def classOpening : Reading ClassOpening := do
  let start ← here
  step
  orUnfinished .classUnclosed start
  let negated := (← here).head? = some '^'
  if negated then
    step
    orUnfinished .classUnclosed start
  let first ← here
  let items ← hyphens start first.length (.empty (.point first))
  match items, ← here with
  | .empty _, ']' :: rest =>
    step
    orUnfinished .classUnclosed start
    return {
      negated := negated
      items := .literal { char := ']', span := .between (']' :: rest) rest }
      span := .between start (← here) }
  | items, _ => return { negated := negated, items := items, span := .between start (← here) }

/-- A character or an escape. -/
def classAtom : Reading Node := do
  match ← here with
  | '\\' :: _ => escape
  | c :: rest =>
    advance
    return .literal { char := c, span := .between (c :: rest) rest }
  | [] => return .empty (.point [])

/-- What may stand in a class by itself. -/
def asItem : Node → Reading CharClass
  | .literal l => return .literal l
  | .charClass cls => return cls
  | node => failOver .classEscapeInvalid node.span

/-- What may be an end of a range. -/
def asBound : Node → Reading Literal
  | .literal l => return l
  | node => failOver .classRangeLiteral node.span

/-- A character, an escape or a range. `opening` is the opening of the class. -/
def classItem (opening : Span) : Reading CharClass := do
  let first ← classAtom
  skipFree
  match ← here with
  | [] => failOver .classUnclosed opening
  | '-' :: rest =>
    let next := behindHyphen (← get).extended rest
    if next = some ']' || next = some '-' then asItem first
    else
      step
      if (← here).isEmpty then failOver .classUnclosed opening
      let last ← classAtom
      let span := first.span.through last.span
      let first ← asBound first
      let last ← asBound last
      if last.char < first.char then failOver .classRangeInvalid span
      return .range first last
  | _ => asItem first

/-- The inside of a class and its closing bracket. The fuel exceeds what is left of the pattern. -/
def classRest (opening : Span) :
    (fuel : Nat) → (left : Option (SetOp × CharClass)) → (items : CharClass) → Reading CharClass
  | 0, _, _ => failOver .classUnclosed opening
  | fuel + 1, left, items => do
    skipFree
    let s ← here
    match s, setOp? s with
    | [], _ => failOver .classUnclosed opening
    | _, some (op, rest) =>
      goTo rest
      classRest opening fuel (some (op, joined left items)) (.empty (.point rest))
    | ']' :: _, none =>
      advance
      return joined left items
    | '[' :: inside, none =>
      match asciiClass? inside with
      | some (cls, negated, rest) =>
        goTo rest
        classRest opening fuel left (items.push (.named cls negated (.between s rest)))
      | none =>
        let nested ← classOpening
        let cls ← classRest nested.span fuel none nested.items
        let item := CharClass.bracketed nested.negated cls (.between s (← here))
        classRest opening fuel left (items.push item)
    | _, none =>
      let item ← classItem opening
      classRest opening fuel left (items.push item)

/-- A class from its opening bracket on. -/
def bracket : Reading CharClass := do
  let start ← here
  let opening ← classOpening
  let cls ← classRest opening.span ((← here).length + 1) none opening.items
  return .bracketed opening.negated cls (.between start (← here))

end Reading
end ManagedBoot.Pattern
