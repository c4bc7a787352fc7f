/-!
# Doubles

A double is its sixty-four bits. Comparison goes through an integer key, so that the order
of doubles is the order of integers with NaN left out; conversion from integers is exact
arithmetic on naturals. Only sums and quotients use the machine's floating-point unit.
-/
namespace DocumentStore

/-- A binary floating-point number of sixty-four bits. -/
structure Double where
  bits : UInt64
  deriving DecidableEq, Repr

namespace Double

/-! ## Classes of doubles -/

/-- The bits without the sign. -/
def magnitude (x : Double) : Nat := x.bits.toNat % 0x8000000000000000

/-- Whether the sign bit is set, as it is for `-0.0`. -/
def isNegative (x : Double) : Bool := 0x8000000000000000 ≤ x.bits.toNat

/-- The magnitude of the infinities. Larger magnitudes are NaN. -/
def infinityMagnitude : Nat := 0x7ff0000000000000

def isNaN (x : Double) : Bool := infinityMagnitude < x.magnitude

def isFinite (x : Double) : Bool := x.magnitude < infinityMagnitude

/-- Both zeros. -/
def isZero (x : Double) : Bool := x.magnitude == 0

/-! ## Order -/

/-- The rank of a double among all doubles that are numbers. Both zeros have rank zero. -/
def key (x : Double) : Int :=
  if x.isNegative then -(x.magnitude : Int) else x.magnitude

/-- Numeric order. NaN has no order to anything, itself included. -/
def compare? (x y : Double) : Option Ordering :=
  if x.isNaN || y.isNaN then none else some (compare x.key y.key)

/-- Numeric equality: the zeros are equal, NaN equals nothing. -/
def equals (x y : Double) : Bool :=
  !x.isNaN && !y.isNaN && x.key == y.key

/-! ## Integers -/

/-- `n / d`, rounded to the nearest integer, a tie to the even one. -/
def roundQuotient (n d : Nat) : Nat :=
  let quotient := n / d
  let twice := 2 * (n % d)
  if d < twice || (twice == d && quotient % 2 == 1) then quotient + 1 else quotient

/-- The magnitude bits of the double nearest to a natural number below `2 ^ 1023`. A
significand that rounds up to the next power of two carries into the exponent by itself. -/
def magnitudeOfNat (n : Nat) : Nat :=
  if n = 0 then 0 else
    let exponent := n.log2
    let significand :=
      if exponent ≤ 52 then n * Nat.pow 2 (52 - exponent)
      else roundQuotient n (Nat.pow 2 (exponent - 52))
    (exponent + 1022) * 0x10000000000000 + significand

/-- The double nearest to an integer, a tie to the one with an even significand. -/
def ofInt (n : Int) : Double :=
  ⟨.ofNat (magnitudeOfNat n.natAbs + if n < 0 then 0x8000000000000000 else 0)⟩

/-- The significand and the power of two of a finite magnitude. -/
def decode (x : Double) : Nat × Int :=
  let exponent : Nat := x.magnitude / 0x10000000000000
  let fraction : Nat := x.magnitude % 0x10000000000000
  if exponent = 0 then (fraction, -1074) else (0x10000000000000 + fraction, (exponent : Int) - 1075)

/-- The integer a finite double stands for, if it has no fractional part. -/
def toInt? (x : Double) : Option Int :=
  if x.isFinite then
    let (significand, power) := x.decode
    let scale : Nat := Nat.pow 2 (-power).toNat
    if significand % scale = 0 then
      let n : Nat := significand / scale * Nat.pow 2 power.toNat
      some (if x.isNegative then -(n : Int) else n)
    else none
  else none

/-! ## Arithmetic -/

def toFloat (x : Double) : Float := .ofBits x.bits

def ofFloat (x : Float) : Double := ⟨x.toBits⟩

/-- The sum, rounded to the nearest double. -/
def add (x y : Double) : Double := ofFloat (x.toFloat + y.toFloat)

/-- The quotient, rounded to the nearest double. -/
def divide (x y : Double) : Double := ofFloat (x.toFloat / y.toFloat)

end Double

end DocumentStore
