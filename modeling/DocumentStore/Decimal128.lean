import DocumentStore.Numeral

/-!
# Decimal numbers of 128 bits

A decimal number is a sign, a coefficient of at most thirty-four digits and a power of ten, or
infinite, or not a number. It is stored in sixteen bytes, the least significant first: below the
sign stand fourteen bits of the exponent and the bits of the coefficient.
-/
namespace DocumentStore

/-- What sixteen bytes stand for. -/
inductive Decimal128 where
  | finite (negative : Bool) (coefficient : Nat) (exponent : Int)
  | infinite (negative : Bool)
  | notANumber (negative signalling : Bool)
  deriving DecidableEq, Repr

namespace Decimal128

def leastExponent : Int := -6176

def greatestExponent : Int := 6111

/-- The number of digits of the largest coefficient. -/
def precision : Nat := 34

/-! ## Bytes -/

/-- The number of a list of bytes, the least significant first. -/
def numberOf (bytes : List UInt8) : Nat := bytes.reverse.foldl (fun n b => n * 256 + b.toNat) 0

/-- The lowest bytes of a number, the least significant first. -/
def bytesOf (n : Nat) : Nat → List UInt8
  | 0 => []
  | width + 1 => .ofNat (n % 256) :: bytesOf (n / 256) width

/-- Reads the bytes of a decimal number. A coefficient of more than thirty-four digits is zero;
the sign and the payload of what is not a number are not looked at. -/
def ofBytes (bytes : List UInt8) : Decimal128 :=
  let n := numberOf bytes
  let negative : Bool := Nat.pow 2 127 ≤ n
  let combination := n / Nat.pow 2 122 % 32
  if combination = 31 then .notANumber false false
  else if combination = 30 then .infinite negative
  else
    let large := 24 ≤ combination
    let biased : Nat := n / Nat.pow 2 (if large then 111 else 113) % Nat.pow 2 14
    let coefficient := if large then 0 else n % Nat.pow 2 113
    let coefficient := if Nat.pow 10 precision ≤ coefficient then 0 else coefficient
    .finite negative coefficient (biased + leastExponent)

def bytes (d : Decimal128) : List UInt8 :=
  let sign (negative : Bool) : Nat := if negative then Nat.pow 2 127 else 0
  match d with
  | .finite negative coefficient exponent =>
    bytesOf (sign negative + (exponent - leastExponent).toNat * Nat.pow 2 113 + coefficient) 16
  | .infinite negative => bytesOf (sign negative + 30 * Nat.pow 2 122) 16
  | .notANumber negative signalling =>
    bytesOf (sign negative + (if signalling then 63 else 62) * Nat.pow 2 121) 16

/-! ## Writing -/

/-- Plain notation for small exponents, scientific otherwise. -/
def text : Decimal128 → String
  | .notANumber _ _ => "NaN"
  | .infinite negative => (if negative then "-" else "") ++ "Infinity"
  | .finite negative coefficient exponent =>
    let sign := if negative then "-" else ""
    let digits := (toString coefficient).toList
    let adjusted := exponent + (digits.length - 1 : Nat)
    if exponent ≤ 0 && -6 ≤ adjusted then
      if exponent = 0 then sign ++ String.ofList digits
      else
        let places := (-exponent).toNat
        let padded := List.replicate (places + 1 - digits.length) '0' ++ digits
        sign ++ String.ofList
          (padded.take (padded.length - places) ++ '.' :: padded.drop (padded.length - places))
    else
      let mantissa := match digits with
        | first :: second :: rest => first :: '.' :: second :: rest
        | digits => digits
      sign ++ String.ofList mantissa ++ "E" ++ (if 0 ≤ adjusted then "+" else "")
        ++ toString adjusted

/-! ## Reading -/

/-- Digits and a power of ten. -/
structure Scaled where
  digits : List Char
  exponent : Int

namespace Scaled

/-- Whether the number is zero. -/
def isZero (s : Scaled) : Bool := s.digits == ['0']

/-- Keeps a number of the leading digits. What is cut off must be zeros. -/
def shorten (s : Scaled) (kept : Nat) : Option Scaled :=
  if (s.digits.drop kept).all (· == '0') then
    some ⟨s.digits.take kept, s.exponent + (s.digits.length - kept : Nat)⟩
  else none

/-- Brings the digits to the precision. -/
def fitDigits (s : Scaled) : Option Scaled :=
  if precision < s.digits.length then s.shorten precision else some s

/-- Brings an exponent that is too small to the least one. -/
def raise (s : Scaled) : Option Scaled :=
  if leastExponent ≤ s.exponent then some s
  else if s.isZero then some { s with exponent := leastExponent }
  else
    let excess := (leastExponent - s.exponent).toNat
    if s.digits.length < excess then none else s.shorten (s.digits.length - excess)

/-- Brings an exponent that is too large to the greatest one. -/
def lower (s : Scaled) : Option Scaled :=
  if s.exponent ≤ greatestExponent then some s
  else if s.isZero then some { s with exponent := greatestExponent }
  else
    let excess := s.exponent - greatestExponent
    if (precision : Int) < s.digits.length + excess then none
    else some ⟨s.digits ++ List.replicate excess.toNat '0', greatestExponent⟩

/-- The number that the digits denote. A plus sign may stand before them. -/
def coefficient? (s : Scaled) : Option Nat :=
  match s.digits with
  | '+' :: digits => Numeral.natural? digits
  | digits => Numeral.natural? digits

end Scaled

/-- Splits a text before the first of some characters, which is dropped. -/
def splitAt? (marks : List Char) (text : List Char) : List Char × Option (List Char) :=
  (text.takeWhile (!marks.contains ·),
    match text.dropWhile (!marks.contains ·) with
    | [] => none
    | _ :: rest => some rest)

/-- An exponent of thirty-two bits. -/
def boundedExponent (n : Int) : Option Int :=
  if -0x80000000 ≤ n && n < 0x80000000 then some n else none

/-- Reads digits with at most one point among them and perhaps an exponent. -/
def readScaled (text : List Char) : Option Scaled := do
  let (mantissa, exponent?) := splitAt? ['e', 'E'] text
  let exponent ← match exponent? with
    | some digits => do boundedExponent (← Numeral.integer? digits)
    | none => some 0
  let (whole, fraction?) := splitAt? ['.'] mantissa
  let fraction := fraction?.getD []
  let exponent ← boundedExponent (exponent - fraction.length)
  let digits := (whole ++ fraction).dropWhile (· == '0')
  return ⟨if digits.isEmpty then ['0'] else digits, exponent⟩

/-- Reads a decimal number. It must be one exactly: digits beyond the precision are an error
unless they are zeros. -/
def ofText? (text : List Char) : Option Decimal128 := do
  let (negative, text) := Numeral.splitSign text
  match String.ofList (Numeral.lowered text) with
  | "nan" => return .notANumber negative false
  | "snan" => return .notANumber negative true
  | "infinity" | "inf" => return .infinite negative
  | _ =>
    let scaled ← (← (← (← readScaled text).fitDigits).raise).lower
    return .finite negative (← scaled.coefficient?) scaled.exponent

end Decimal128

end DocumentStore
