/-!
# Numerals

Numbers written in decimal digits, with an optional sign. Only the ten ASCII digits count.
-/
namespace DocumentStore.Numeral

/-- The number of a text that is nothing but digits, at least one of them. -/
def natural? (text : List Char) : Option Nat :=
  if text.isEmpty || !text.all Char.isDigit then none
  else some (text.foldl (fun n c => n * 10 + (c.toNat - 48)) 0)

/-- Splits off a sign. The flag tells whether it is a minus. -/
def splitSign : List Char → Bool × List Char
  | '-' :: rest => (true, rest)
  | '+' :: rest => (false, rest)
  | text => (false, text)

/-- The integer of digits behind at most one sign. -/
def integer? (text : List Char) : Option Int := do
  let (negative, digits) := splitSign text
  let n ← natural? digits
  return if negative then -(n : Int) else n

/-- Reads exactly `width` digits at the beginning of a text. -/
def take? (width : Nat) (text : List Char) : Option (Nat × List Char) :=
  if (text.take width).length = width then do
    return (← natural? (text.take width), text.drop width)
  else none

/-- A natural number in at least `width` digits. -/
def padded (width n : Nat) : String :=
  let digits := (toString n).toList
  String.ofList (List.replicate (width - digits.length) '0' ++ digits)

/-- Letters without their case. -/
def lowered (text : List Char) : List Char := text.map Char.toLower

end DocumentStore.Numeral
