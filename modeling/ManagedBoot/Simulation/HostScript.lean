import ManagedBoot.Command.Report
import ManagedBoot.Host
import ManagedBoot.Process.Transition
/-!
A runtime for the host process that is told by environment variables what to answer.

It prints a line for each call it gets. Its initializers and its entry point call one exported
symbol, which may be a stub, the placeholder of a method that was never built, or a transition.
-/
namespace ManagedBoot.HostScript

/-- The integer at the front of a text, after blanks; zero where there is none. -/
def leadingInt (s : String) : Int :=
  let s := s.toList.dropWhile fun c => c = ' ' || ('\t' ≤ c && c ≤ '\r')
  let (negative, s) :=
    match s with
    | '-' :: rest => (true, rest)
    | '+' :: rest => (false, rest)
    | s => (false, s)
  let n : Int := (s.takeWhile Char.isDigit).foldl (fun n c => n * 10 + (c.toNat - '0'.toNat)) 0
  if negative then -n else n

/-- The number in a variable. -/
def number (environment : Environment) (name : String) (default : Int) : Int32 :=
  .ofInt (((environment name).map leadingInt).getD default)

/-- Prints a line. -/
def print (line : String) : Run Unit Unit := Run.write .stdout (Utf8.bytes (line ++ "\n"))

/-- A transition that prints a line on entry and on leaving. -/
def bridge : Bridge Unit where
  enter _ frame _ := ⟨frame, (), [.text .stdout (Utf8.bytes "ReversePInvoke\n")]⟩
  leave _ frame _ := ⟨frame, (), [.text .stdout (Utf8.bytes "ReversePInvokeReturn\n")]⟩

/-- A string object for the text of a variable, or null. -/
def managedString (environment : Environment) (name : String) : Option Layout.Object :=
  (environment name).bind fun text => (Layout.Object.string 0 text).toOption

/-- Calls the symbol that a variable names. -/
def callSymbol (environment : Environment) (name : String) : Run Unit Unit :=
  match environment name with
  | none => return ()
  | some symbol =>
    if symbol = "pinvoke" then bridge.bare (print "inside")
    else if symbol = CommandLine.placeholderSymbol then
      Run.raise (.ofStrings (managedString environment "RT_METHOD")
        (managedString environment "RT_REASON"))
    else
      match DiagnosticStub.ofSymbol? symbol with
      | some stub => Run.raise stub.fault
      | none => return ()

def library (environment : Environment) : RuntimeLibrary Unit where
  palInit := do
    print "PalInit"
    return number environment "RT_PAL" 1 != 0
  dllMain handle reason reserved := do
    print s!"RtuDllMain {flag (handle == 0)} {reason} {flag (reserved == 0)}"
    return number environment "RT_ATTACH" 1
  enableStackReporting := do
    print "StackReporting"
    return number environment "RT_SCAN" 1
  initializeModules addresses count := do
    let sum := addresses.foldl (· + ·.toNat) 0
    print s!"InitializeModules {count.toInt} {sum}"
    callSymbol environment "RT_INIT"
where
  /-- A truth value as a digit. -/
  flag (b : Bool) : Nat := if b then 1 else 0

/-- Prints the arguments behind the program's name and calls a symbol. -/
def entry (environment : Environment) : Entry Unit := fun args => do
  let closed := if args.argv[args.size]? = some none then 1 else 0
  print s!"Main {args.argc.toInt} {closed}"
  for arg in (args.argv.take args.size).drop 1 do
    Run.write .stdout
      (Utf8.bytes "arg " ++ (arg.map ArgVector.upToNul).getD [] ++ Utf8.bytes "\n")
  callSymbol environment "RT_MAIN"
  return number environment "RT_CODE" 0

/-- The slots of three units, known by the numbers one to three, between their bookends. -/
def slots : List UInt64 := [0, 1, 2, 3, 0]

/-- Where the slots stand. -/
def slotBase : UInt64 := 0x10000

def image (environment : Environment) : Host.LinkedImage Unit where
  library := library environment
  entry := entry environment
  memory := .ofSlots slotBase slots
  leading := slotBase
  trailing := slotBase + slotSize * 4

/-- The host process with this runtime, run with arguments behind its own name. -/
def run (environment : Environment) (files : FileReader) (name : String)
    (args : List (List UInt8)) (clock : String) : Host.Finished :=
  Host.run (image environment) () environment files
    (.ofArguments (Utf8.bytes name :: args)) clock

end ManagedBoot.HostScript
