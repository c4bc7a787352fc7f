/-!
# Ranges of code points

A class of characters is a table of ranges in ascending order, searched by halving. Large classes
are written in runs, which are shorter, and those as texts, which spare a constant for every number.
-/
namespace DocumentStore.Character

/-! ## Search -/

/-- Searches the part of a table from `low` to below `high`, with at most `fuel` halvings. -/
def inRangesFrom (table : Array (Nat × Nat)) (n low high : Nat) : Nat → Bool
  | 0 => false
  | fuel + 1 =>
    if high ≤ low then false
    else
      let middle := (low + high) / 2
      match table[middle]? with
      | none => false
      | some (first, last) =>
        if n < first then inRangesFrom table n low middle fuel
        else if last < n then inRangesFrom table n (middle + 1) high fuel
        else true

/-- Whether a code point lies in one of the ranges of an ascending table. -/
def inRanges (table : Array (Nat × Nat)) (n : Nat) : Bool :=
  inRangesFrom table n 0 table.size table.size

/-! ## Runs -/

/-- How many code points, from the first one on, are not of a class, and how many after those are,
in turn, as a text. -/
abbrev Runs := String

/-- The ranges of runs, given as numbers, that begin at a code point. -/
def Runs.rangesFrom (start : Nat) : List Nat → List (Nat × Nat)
  | outside :: inside :: rest =>
    (start + outside, start + outside + inside - 1) ::
      rangesFrom (start + outside + inside) rest
  | _ => []

def Runs.ranges (runs : Runs) : List (Nat × Nat) :=
  rangesFrom 0 ((runs.splitToList (·.isWhitespace)).filterMap String.toNat?)

end DocumentStore.Character
