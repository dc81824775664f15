import ManagedBoot.Config.Basic
import ManagedBoot.Layout.Contract
import ManagedBoot.Toml.StringForm
/-!
Configurations and layout contracts as TOML texts.

A configuration is written as its two sections with every setting. A contract is written as one line
for each number, unless a number is too large for an integer of TOML.
-/
namespace ManagedBoot

/-- The text of a boolean. -/
def boolText (b : Bool) : String := if b then "true" else "false"

/-- The text of a configuration. -/
def BootConfig.toToml (c : BootConfig) : String :=
  "[logging]\nfilter = " ++ String.ofList (Toml.writeString c.logging.filter.toList) ++
    "\ntimestamps = " ++ boolText c.logging.timestamps ++
    "\n\n[diagnostics]\nstream = " ++
    String.ofList (Toml.writeString c.diagnostics.stream.name.toList) ++ "\n"

namespace Layout

/-- A number of a contract is too large for an integer of TOML. -/
inductive WriteError where
  | outOfRange
  deriving DecidableEq, Repr

def WriteError.message : WriteError → String
  | .outOfRange => "out-of-range value for u64 type"

/-- One line for each number. -/
def Contract.lines (c : Contract) : List String :=
  Field.all.map fun field => field.name ++ " = " ++ toString (c.get field) ++ "\n"

/-- The text of a contract. -/
def Contract.toToml (c : Contract) : Except WriteError String :=
  if Field.all.all fun field => (c.get field).toNat < 0x8000000000000000 then .ok (String.join c.lines)
  else .error .outOfRange

end Layout
end ManagedBoot
