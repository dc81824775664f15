/-!
UTF-8 over lists of bytes.

Encoding is `encode`. Decoding is a machine that remembers which bytes may come next: `decode`
cuts a byte sequence into scalar values and ill-formed pieces, each piece as long as possible, so
that a sequence cut short is one piece and a byte that can start nothing is one by itself.
`decode?` accepts exactly the sequences without an ill-formed piece, and `decodeLossy` puts
U+FFFD in the place of each.
-/
namespace ManagedBoot.Utf8

/-- The character that stands for what could not be decoded. -/
def replacement : Char := Char.ofNat 0xFFFD

/-- The bytes of a text. -/
def encode (cs : List Char) : List UInt8 :=
  cs.flatMap String.utf8EncodeChar

/-- The bytes of a string. -/
def bytes (s : String) : List UInt8 := encode s.toList

/-- The bounds of one byte. -/
structure Bounds where
  low : UInt8
  high : UInt8

/-- The bounds of a byte that only continues a sequence. -/
def Bounds.tail : Bounds := ⟨0x80, 0xBF⟩

def Bounds.admits (b : Bounds) (byte : UInt8) : Bool := b.low ≤ byte && byte ≤ b.high

/-- A sequence that has begun: the bits read so far, the bounds of the next byte and how many
bytes follow that one. -/
structure Pending where
  value : Nat
  next : Bounds
  after : Nat

/-- A decoded piece: a scalar value, or `none` for an ill-formed piece. -/
abbrev Piece := Option Char

/-- What one byte does between characters. -/
def lead (byte : UInt8) : List Piece × Option Pending :=
  let v := byte.toNat
  if v < 0x80 then ([some (Char.ofNat v)], none)
  else if v < 0xC2 then ([none], none)
  else if v < 0xE0 then ([], some ⟨v - 0xC0, .tail, 0⟩)
  else if v = 0xE0 then ([], some ⟨0, ⟨0xA0, 0xBF⟩, 1⟩)
  else if v = 0xED then ([], some ⟨0xD, ⟨0x80, 0x9F⟩, 1⟩)
  else if v < 0xF0 then ([], some ⟨v - 0xE0, .tail, 1⟩)
  else if v = 0xF0 then ([], some ⟨0, ⟨0x90, 0xBF⟩, 2⟩)
  else if v < 0xF4 then ([], some ⟨v - 0xF0, .tail, 2⟩)
  else if v = 0xF4 then ([], some ⟨4, ⟨0x80, 0x8F⟩, 2⟩)
  else ([none], none)

/-- What one byte does inside a sequence. A byte out of bounds ends the sequence as an ill-formed
piece and is then read as if it stood between characters. -/
def Pending.read (p : Pending) (byte : UInt8) : List Piece × Option Pending :=
  if p.next.admits byte then
    let value := p.value * 64 + byte.toNat % 64
    match p.after with
    | 0 => ([some (Char.ofNat value)], none)
    | n + 1 => ([], some ⟨value, .tail, n⟩)
  else
    let (pieces, state) := lead byte
    (none :: pieces, state)

/-- The pieces of a byte sequence that is read from a given state. -/
def pieces : Option Pending → List UInt8 → List Piece
  | none, [] => []
  | some _, [] => [none]
  | none, byte :: rest => (lead byte).1 ++ pieces (lead byte).2 rest
  | some p, byte :: rest => (p.read byte).1 ++ pieces (p.read byte).2 rest

/-- The pieces of a byte sequence. -/
def decode (bs : List UInt8) : List Piece := pieces none bs

/-- The text of a well-formed sequence. -/
def decode? (bs : List UInt8) : Option (List Char) := (decode bs).mapM id

/-- The text with U+FFFD for each ill-formed piece. -/
def decodeLossy (bs : List UInt8) : List Char := (decode bs).map (·.getD replacement)

/-- The string of a well-formed sequence. -/
def toString? (bs : List UInt8) : Option String := (decode? bs).map String.ofList

/-- The string with U+FFFD for each ill-formed piece. -/
def toStringLossy (bs : List UInt8) : String := String.ofList (decodeLossy bs)

end ManagedBoot.Utf8
