import ManagedBoot.Text.Utf8
/-!
The argument vector of a process in its native shape.

A vector is a count and an array of entries. An entry is the bytes at a pointer, which end at the
first NUL, or null. Only the first `argc` entries are ever read, none when the count is negative.
-/
namespace ManagedBoot

structure ArgVector where
  argc : Int32
  argv : List (Option (List UInt8))
  deriving DecidableEq, Repr

namespace ArgVector

/-- Bytes up to the first NUL. -/
def upToNul (bytes : List UInt8) : List UInt8 := bytes.takeWhile (· != 0)

/-- The vector of the given arguments: each ends at its first NUL, and null follows the last. -/
def ofArguments (args : List (List UInt8)) : ArgVector where
  argc := if args.length < 0x80000000 then .ofNat args.length else Int32.maxValue
  argv := args.map (fun arg => some (upToNul arg ++ [0])) ++ [none]

/-- A vector somebody else made, unchanged. -/
def ofRaw (argc : Int32) (argv : List (Option (List UInt8))) : ArgVector := ⟨argc, argv⟩

/-- Number of entries that may be read. -/
def size (v : ArgVector) : Nat := v.argc.toInt.toNat

def isEmpty (v : ArgVector) : Bool := v.size == 0

/-- The text of an entry. Null reads as the empty text. -/
def decodeEntry : Option (List UInt8) → String
  | none => ""
  | some bytes => Utf8.toStringLossy (upToNul bytes)

/-- The texts of the entries. -/
def toStrings (v : ArgVector) : List String := (v.argv.take v.size).map decodeEntry

end ArgVector
end ManagedBoot
