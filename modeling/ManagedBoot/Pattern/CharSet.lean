/-!
Sets of characters.

A set is kept as it was put together, and `contains` decides membership. The classes of ASCII that
have a name are sets of ranges.
-/
namespace ManagedBoot.Pattern

inductive CharSet where
  | nothing
  | range (first last : Char)
  | union (a b : CharSet)
  | intersection (a b : CharSet)
  | difference (a b : CharSet)
  | symmetricDifference (a b : CharSet)
  | complement (a : CharSet)
  /-- With every letter of ASCII in both cases. -/
  | bothCases (a : CharSet)
  deriving DecidableEq, Repr

/-- A letter of ASCII in the other case. Every other character is left alone. -/
def otherCase (c : Char) : Char := if c.isUpper then c.toLower else c.toUpper

namespace CharSet

def single (c : Char) : CharSet := range c c

def contains : CharSet → Char → Bool
  | nothing, _ => false
  | range first last, c => first ≤ c && c ≤ last
  | union a b, c => a.contains c || b.contains c
  | intersection a b, c => a.contains c && b.contains c
  | difference a b, c => a.contains c && !b.contains c
  | symmetricDifference a b, c => a.contains c != b.contains c
  | complement a, c => !a.contains c
  | bothCases a, c => a.contains c || a.contains (otherCase c)

def ofRanges (ranges : List (Char × Char)) : CharSet :=
  ranges.foldl (fun set (first, last) => union set (range first last)) nothing

/-- Whether it is plain that only characters of ASCII are in a set. -/
def isAscii : CharSet → Bool
  | nothing => true
  | range _ last => last.toNat < 0x80
  | union a b => a.isAscii && b.isAscii
  | intersection a b => a.isAscii || b.isAscii
  | difference a _ => a.isAscii
  | symmetricDifference a b => a.isAscii && b.isAscii
  | complement _ => false
  | bothCases a => a.isAscii

end CharSet

/-- The classes of ASCII that have a name. -/
inductive AsciiClass where
  | alnum
  | alpha
  | ascii
  | blank
  | cntrl
  | digit
  | graph
  | lower
  | print
  | punct
  | space
  | upper
  | word
  | xdigit
  deriving DecidableEq, Repr

namespace AsciiClass

def all : List AsciiClass :=
  [alnum, alpha, ascii, blank, cntrl, digit, graph, lower, print, punct, space, upper, word, xdigit]

def name : AsciiClass → String
  | alnum => "alnum"
  | alpha => "alpha"
  | ascii => "ascii"
  | blank => "blank"
  | cntrl => "cntrl"
  | digit => "digit"
  | graph => "graph"
  | lower => "lower"
  | print => "print"
  | punct => "punct"
  | space => "space"
  | upper => "upper"
  | word => "word"
  | xdigit => "xdigit"

def ofName? (name : String) : Option AsciiClass := all.find? (·.name == name)

def ranges : AsciiClass → List (Char × Char)
  | alnum => [('0', '9'), ('A', 'Z'), ('a', 'z')]
  | alpha => [('A', 'Z'), ('a', 'z')]
  | ascii => [('\x00', '\x7f')]
  | blank => [('\t', '\t'), (' ', ' ')]
  | cntrl => [('\x00', '\x1f'), ('\x7f', '\x7f')]
  | digit => [('0', '9')]
  | graph => [('!', '~')]
  | lower => [('a', 'z')]
  | print => [(' ', '~')]
  | punct => [('!', '/'), (':', '@'), ('[', '`'), ('{', '~')]
  | space => [('\t', '\r'), (' ', ' ')]
  | upper => [('A', 'Z')]
  | word => [('0', '9'), ('A', 'Z'), ('_', '_'), ('a', 'z')]
  | xdigit => [('0', '9'), ('A', 'F'), ('a', 'f')]

def charSet (cls : AsciiClass) : CharSet := .ofRanges cls.ranges

end AsciiClass
end ManagedBoot.Pattern
