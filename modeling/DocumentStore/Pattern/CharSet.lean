import DocumentStore.Character.Fold
import DocumentStore.Character.Range

/-!
# Sets of characters

A set of characters is a list of ranges of code points in ascending order that neither overlap
nor touch, so that equal sets are equal lists. All operations go through `ofRanges`, which brings
ranges of any kind into this form, and `complement`.
-/
namespace DocumentStore.Pattern

/-- A set of characters as ranges, each with its first and its last code point. -/
structure CharSet where
  ranges : List (Nat × Nat)
  deriving DecidableEq, Repr

namespace CharSet

/-! ## Ranges -/

/-- Joins ranges that overlap or touch. They are in ascending order, and so is the result. -/
def join : List (Nat × Nat) → List (Nat × Nat)
  | [] => []
  | [r] => [r]
  | (a, b) :: (c, d) :: rest =>
    if c ≤ b + 1 then join ((a, max b d) :: rest) else (a, b) :: join ((c, d) :: rest)
termination_by ranges => ranges.length

def ofRanges (ranges : List (Nat × Nat)) : CharSet :=
  ⟨join ((ranges.filter fun r => r.1 ≤ r.2).mergeSort fun r s => r.1 ≤ s.1)⟩

def empty : CharSet := ⟨[]⟩

def single (c : Char) : CharSet := ⟨[(c.toNat, c.toNat)]⟩

/-- The characters from one to another. -/
def range (first last : Char) : CharSet := ofRanges [(first.toNat, last.toNat)]

def ofChars (ranges : List (Char × Char)) : CharSet :=
  ofRanges (ranges.map fun r => (r.1.toNat, r.2.toNat))

def ascii : CharSet := ofChars [('\x00', '\x7f')]

def lowerAscii : CharSet := ofChars [('a', 'z')]

def upperAscii : CharSet := ofChars [('A', 'Z')]

def digitAscii : CharSet := ofChars [('0', '9')]

def spaceAscii : CharSet := ofChars [('\t', '\r'), (' ', ' ')]

def wordAscii : CharSet := ofChars [('0', '9'), ('A', 'Z'), ('_', '_'), ('a', 'z')]

def contains (s : CharSet) (c : Char) : Bool :=
  s.ranges.any fun r => r.1 ≤ c.toNat && c.toNat ≤ r.2

def char? (s : CharSet) : Option Char :=
  match s.ranges with
  | [(first, last)] => if first = last then some (Char.ofNat first) else none
  | _ => none

def isAscii (s : CharSet) : Bool := s.ranges.all fun r => r.2 < 128

/-! ## Operations -/

def union (s t : CharSet) : CharSet := ofRanges (s.ranges ++ t.ranges)

/-- The code points that stand for no character. -/
def surrogates : CharSet := ⟨[(0xd800, 0xdfff)]⟩

/-- The code points from `low` on that lie between ascending ranges. -/
def gaps (low : Nat) : List (Nat × Nat) → List (Nat × Nat)
  | [] => if low ≤ 0x10ffff then [(low, 0x10ffff)] else []
  | (first, last) :: rest =>
    if low < first then (low, first - 1) :: gaps (last + 1) rest else gaps (last + 1) rest

def complement (s : CharSet) : CharSet := ⟨gaps 0 (s.union surrogates).ranges⟩

def any : CharSet := empty.complement

def intersection (s t : CharSet) : CharSet := (s.complement.union t.complement).complement

/-- The characters of the first set that are not in the second. -/
def difference (s t : CharSet) : CharSet := (s.complement.union t).complement

def symmetricDifference (s t : CharSet) : CharSet := (s.difference t).union (t.difference s)

/-! ## Case -/

/-- A set with the characters that differ only in case from one of it. -/
def folded (s : CharSet) : CharSet :=
  let table := s.ranges.toArray
  let touched := Character.foldPairs.filter fun p =>
    Character.inRanges table p.1 || Character.inRanges table p.2
  let targets := ofRanges (touched.map fun p => (p.2, p.2))
  let table := targets.ranges.toArray
  let sources := Character.foldPairs.filter fun p => Character.inRanges table p.2
  ofRanges (s.ranges ++ targets.ranges ++ sources.map fun p => (p.1, p.1))

/-- A set with the ASCII letters that differ only in case from one of it. -/
def foldedAscii (s : CharSet) : CharSet :=
  let lowered := (s.intersection upperAscii).ranges.map fun r => (r.1 + 32, r.2 + 32)
  let raised := (s.intersection lowerAscii).ranges.map fun r => (r.1 - 32, r.2 - 32)
  ofRanges (s.ranges ++ lowered ++ raised)

/-! ## Named sets -/

/-- The set that a name between `[:` and `:]` denotes. -/
def ofName? (name : String) : Option CharSet :=
  match name with
  | "alnum" => some (ofChars [('0', '9'), ('A', 'Z'), ('a', 'z')])
  | "alpha" => some (ofChars [('A', 'Z'), ('a', 'z')])
  | "ascii" => some ascii
  | "blank" => some (ofChars [('\t', '\t'), (' ', ' ')])
  | "cntrl" => some (ofChars [('\x00', '\x1f'), ('\x7f', '\x7f')])
  | "digit" => some digitAscii
  | "graph" => some (ofChars [('!', '~')])
  | "lower" => some lowerAscii
  | "print" => some (ofChars [(' ', '~')])
  | "punct" => some (ofChars [('!', '/'), (':', '@'), ('[', '\x60'), ('\x7b', '~')])
  | "space" => some spaceAscii
  | "upper" => some upperAscii
  | "word" => some wordAscii
  | "xdigit" => some (ofChars [('0', '9'), ('A', 'F'), ('a', 'f')])
  | _ => none

end CharSet

end DocumentStore.Pattern
