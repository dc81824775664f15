/-!
The command line of the inspection tool.

A command is named after the flags that belong to every command; those may also follow it. Options
take a value of their own or one attached to them. An option is given at most once, and quiet and
verbose flags do not stand together before the command, nor after it.

Requests for help (`-h`, `--help` and the command `help`) are left out: they are read here as what
they would be if the tool gave none, an argument or a command that it does not know.
-/
namespace ManagedBoot.CommandLine

inductive LayoutFormat where
  | text
  | toml
  deriving DecidableEq, Repr

inductive Command where
  | layout (format : LayoutFormat)
  | config (file : Option String)
  | stubs
  | callbacks
  deriving DecidableEq, Repr

inductive UsageError where
  | noCommand
  | unknownCommand (name : String)
  | unexpected (arg : String)
  | noValue (option : String)
  | badValue (option value : String)
  | repeated (option : String)
  | conflict
  deriving DecidableEq, Repr

/-- The flags of one level of the command line. -/
structure Flags where
  verbose : Nat := 0
  quiet : Nat := 0
  deriving DecidableEq, Repr

def Flags.check (f : Flags) : Except UsageError Unit :=
  if 0 < f.verbose && 0 < f.quiet then .error .conflict else .ok ()

/-- Counts a flag by its letter. -/
def Flags.add? (f : Flags) (letter : Char) : Option Flags :=
  if letter = 'v' then some { f with verbose := f.verbose + 1 }
  else if letter = 'q' then some { f with quiet := f.quiet + 1 }
  else none

/-- Counts a flag by its long name. -/
def Flags.addLong? (f : Flags) (arg : String) : Option Flags :=
  if arg = "--verbose" then f.add? 'v' else if arg = "--quiet" then f.add? 'q' else none

/-- Whether an argument starts an option, and so is no value. -/
def isOption (arg : String) : Bool := arg.startsWith "-" && arg ≠ "-"

/-- Reads a cluster of flags. -/
def readFlags (arg : String) : List Char → Flags → Except UsageError Flags
  | [], f => .ok f
  | c :: rest, f =>
    match f.add? c with
    | some f => readFlags arg rest f
    | none => .error (.unexpected arg)

/-- The option that a command takes. -/
structure OptionName where
  long : String
  short : Option Char := none
  deriving DecidableEq, Repr

/-- What follows a command, as far as it has been read. -/
structure Tail where
  flags : Flags := {}
  value : Option String := none
  deriving DecidableEq, Repr

/-- Sets the value of the option. -/
def Tail.setValue (t : Tail) (option : OptionName) (value : String) : Except UsageError Tail :=
  if t.value.isSome then .error (.repeated option.long)
  else if value.isEmpty then .error (.noValue option.long)
  else .ok { t with value := some value }

/-- A cluster of letters: flags, and perhaps the option with what is attached to it. The second
result tells that the option's value is still to come. -/
def readCluster (option : Option OptionName) (arg : String) :
    List Char → Tail → Except UsageError (Tail × Bool)
  | [], t => .ok (t, false)
  | c :: rest, t =>
    match t.flags.add? c, option with
    | some flags, _ => readCluster option arg rest { t with flags := flags }
    | none, none => .error (.unexpected arg)
    | none, some o =>
      if o.short = some c then
        match rest with
        | [] => .ok (t, true)
        | '=' :: value => (t.setValue o (String.ofList value)).map (·, false)
        | value => (t.setValue o (String.ofList value)).map (·, false)
      else .error (.unexpected arg)

/-- The value attached to a long option. -/
def attached? (o : OptionName) (arg : String) : Option String :=
  let start := (o.long ++ "=").toList
  if start.isPrefixOf arg.toList then some (String.ofList (arg.toList.drop start.length)) else none

/-- What one argument after a command is. The second result tells that the option's value is still
to come. -/
def readArgument (option : Option OptionName) (t : Tail) (arg : String) :
    Except UsageError (Tail × Bool) :=
  match t.flags.addLong? arg, option with
  | some flags, _ => .ok ({ t with flags := flags }, false)
  | none, some o =>
    if arg = o.long then .ok (t, true)
    else
      match attached? o arg with
      | some value => (t.setValue o value).map (·, false)
      | none => short
  | none, none => short
where
  /-- The argument as a cluster of letters. -/
  short : Except UsageError (Tail × Bool) :=
    if isOption arg && !arg.startsWith "--" then readCluster option arg (arg.toList.drop 1) t
    else .error (.unexpected arg)

/-- Reads what follows a command. `pending` tells that the option still waits for its value. -/
def readTail (option : Option OptionName) (pending : Bool) :
    List String → Tail → Except UsageError Tail
  | [], t => if pending then .error (.noValue (name option)) else .ok t
  | arg :: rest, t =>
    if pending then
      match option with
      | none => .error (.unexpected arg)
      | some o =>
        if isOption arg then .error (.noValue o.long)
        else do readTail option false rest (← t.setValue o arg)
    else if arg = "--" then
      match rest with
      | [] => .ok t
      | extra :: _ => .error (.unexpected extra)
    else do
      let (t, pending) ← readArgument option t arg
      readTail option pending rest t
where
  /-- The option's name in an error. -/
  name (option : Option OptionName) : String := (option.map (·.long)).getD ""

/-- Reads the rest of a command line whose command takes the given option. -/
def readCommand (option : Option OptionName) (rest : List String) :
    Except UsageError (Option String) := do
  let t ← readTail option false rest {}
  t.flags.check
  return t.value

def formatOption : OptionName := { long := "--format" }

def fileOption : OptionName := { long := "--file", short := some 'f' }

def readFormat : Option String → Except UsageError LayoutFormat
  | none => .ok .text
  | some "text" => .ok .text
  | some "toml" => .ok .toml
  | some other => .error (.badValue formatOption.long other)

/-- The command of a name, with what follows it. -/
def named (name : String) (rest : List String) : Except UsageError Command :=
  match name with
  | "layout" => do return .layout (← readFormat (← readCommand formatOption rest))
  | "config" => do return .config (← readCommand fileOption rest)
  | "stubs" => do
    let _ ← readCommand none rest
    return .stubs
  | "classlib" => do
    let _ ← readCommand none rest
    return .callbacks
  | other => .error (.unknownCommand other)

/-- Reads flags up to the command. -/
def readFrom (flags : Flags) : List String → Except UsageError Command
  | [] => .error .noCommand
  | arg :: rest =>
    match flags.addLong? arg with
    | some flags => readFrom flags rest
    | none =>
      if arg.startsWith "--" then .error (.unexpected arg)
      else if isOption arg then
        match readFlags arg (arg.toList.drop 1) flags with
        | .ok flags => readFrom flags rest
        | .error e => .error e
      else do
        flags.check
        named arg rest

/-- The command that the arguments ask for, where they do not ask for help. -/
def parse (args : List String) : Except UsageError Command := readFrom {} args

end ManagedBoot.CommandLine
