import DocumentStore.Pattern.CharSet

/-!
# Encoded sets

A character is encoded in one to four bytes: the first tells how many follow, and each of those
carries six bits. The encodings of the characters of a set are those of a list of sequences of
byte ranges, which are disjoint and in ascending order.
-/
namespace DocumentStore.Pattern

abbrev ByteRange := Nat × Nat

namespace ByteRange

/-- The sequences for the numbers from `low` to `high` in a first byte and `count` bytes that
follow. The digits of the first byte begin at `lead`. Where the first digits differ, the ends are
split off unless they are full. -/
def sequences (lead : Nat) : (count : Nat) → (low high : Nat) → List (List ByteRange)
  | 0, low, high => [[(lead + low, lead + high)]]
  | count + 1, low, high =>
    let unit := Nat.pow 64 (count + 1)
    let first := low / unit
    let last := high / unit
    let under (digit low high : Nat) : List (List ByteRange) :=
      (sequences 0x80 count low high).map ((lead + digit, lead + digit) :: ·)
    if first = last then under first (low % unit) (high % unit)
    else
      let startsFull := low % unit == 0
      let endsFull := high % unit == unit - 1
      let before := if startsFull then [] else under first (low % unit) (unit - 1)
      let after := if endsFull then [] else under last 0 (high % unit)
      let first := if startsFull then first else first + 1
      let last := if endsFull then last else last - 1
      let middle := if first ≤ last then
          [(lead + first, lead + last) :: List.replicate (count + 1) (0x80, 0xbf)]
        else []
      before ++ middle ++ after

/-- The lengths of encodings: the byte where the first one begins, the number of those that
follow, and the range of the code points. -/
def lengths : List (Nat × Nat × Nat × Nat) :=
  [(0, 0, 0, 0x7f), (0xc0, 1, 0x80, 0x7ff), (0xe0, 2, 0x800, 0xffff), (0xf0, 3, 0x10000, 0x10ffff)]

/-- The sequences for a range of code points. -/
def ofRange (r : Nat × Nat) : List (List ByteRange) :=
  lengths.flatMap fun (lead, count, low, high) =>
    if max r.1 low ≤ min r.2 high then sequences lead count (max r.1 low) (min r.2 high) else []

end ByteRange

def CharSet.encodings (s : CharSet) : List (List ByteRange) := s.ranges.flatMap ByteRange.ofRange

end DocumentStore.Pattern
