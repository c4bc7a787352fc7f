import DocumentStore.Double
import DocumentStore.Numeral

/-!
# Doubles nearest to a decimal

A decimal text is read as the double nearest to the number that it denotes, a tie going to the
even significand. The quotient of two naturals is scaled by a power of two so that its integral
part has the fifty-three bits of a significand, and is rounded once.
-/
namespace DocumentStore.Double

/-- The power of two by which a positive quotient is divided. Below the normal numbers it stays
the same. -/
def powerFor (n d : Nat) : Int :=
  let power : Int := (n.log2 : Int) - d.log2 - 53
  let wide := d * Nat.pow 2 (power + 53).toNat ≤ n * Nat.pow 2 (-(power + 53)).toNat
  let power := if wide then power + 1 else power
  if power < -1074 then -1074 else power

/-- The magnitude bits of the double nearest to a quotient of naturals. A significand that
rounds up to the next power of two carries into the exponent by itself. -/
def magnitudeOfQuotient (n d : Nat) : Nat :=
  if n = 0 then 0
  else
    let power := powerFor n d
    let significand :=
      roundQuotient (n * Nat.pow 2 (-power).toNat) (d * Nat.pow 2 power.toNat)
    min ((power + 1074).toNat * 0x10000000000000 + significand) infinityMagnitude

/-- The magnitude bits of the double nearest to `digits * 10 ^ exponent`, where `count` is the
number of the digits. Far out the power of ten is not computed. -/
def magnitudeOfDecimal (digits count : Nat) (exponent : Int) : Nat :=
  if digits = 0 || count + exponent < -400 then 0
  else if 400 < exponent then infinityMagnitude
  else magnitudeOfQuotient (digits * Nat.pow 10 exponent.toNat) (Nat.pow 10 (-exponent).toNat)

/-- The double with a sign and a magnitude. -/
def signed (negative : Bool) (magnitude : Nat) : Double :=
  ⟨.ofNat (magnitude + if negative then 0x8000000000000000 else 0)⟩

/-- Not a number. -/
def nan : Double := ⟨0x7ff8000000000000⟩

def readExponent : List Char → Option Int
  | [] => some 0
  | c :: rest => if c == 'e' || c == 'E' then Numeral.integer? rest else none

/-- Reads digits with at most one point among them and perhaps an exponent. -/
def readDecimal (text : List Char) : Option Nat := do
  let whole := text.takeWhile Char.isDigit
  let rest := text.dropWhile Char.isDigit
  let (fraction, rest) := match rest with
    | '.' :: rest => (rest.takeWhile Char.isDigit, rest.dropWhile Char.isDigit)
    | rest => ([], rest)
  let digits ← Numeral.natural? (whole ++ fraction)
  let exponent ← readExponent rest
  return magnitudeOfDecimal digits (whole ++ fraction).length (exponent - fraction.length)

/-- Reads a double. -/
def ofText? (text : List Char) : Option Double := do
  let (negative, text) := Numeral.splitSign text
  match String.ofList (Numeral.lowered text) with
  | "nan" => return nan
  | "inf" | "infinity" => return signed negative infinityMagnitude
  | _ => return signed negative (← readDecimal text)

end DocumentStore.Double
