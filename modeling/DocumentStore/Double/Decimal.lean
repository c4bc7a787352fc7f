import DocumentStore.Double

/-!
# Decimal text of doubles

A double is written with the fewest digits that read back to it, the nearest such digits
when several do, always positionally and never with an exponent. The digits are found by
exact arithmetic: a decimal reads back to a double when it lies between the midpoints to
the two neighbouring doubles.
-/
namespace DocumentStore.Double

/-- The number `digits * 10 ^ exponent`. -/
structure Decimal where
  digits : Nat
  exponent : Int
  deriving DecidableEq, Repr

/-- Compares `a * 10 ^ i` with `n * 2 ^ j`. -/
def compareScaled (a : Nat) (i : Int) (n : Nat) (j : Int) : Ordering :=
  compare (a * Nat.pow 10 i.toNat * Nat.pow 2 (-j).toNat)
    (n * Nat.pow 2 j.toNat * Nat.pow 10 (-i).toNat)

/-- Whether a decimal lies among the reals that round to a finite magnitude. Below a power
of two the neighbour is half as far away. The ends belong to an even significand. -/
def readsBack (x : Double) (d : Decimal) : Bool :=
  let (m, q) := x.decode
  let narrow := x.magnitude % 0x10000000000000 == 0 && 1 < x.magnitude / 0x10000000000000
  let low := if narrow then 4 * m - 1 else 4 * m - 2
  let high := 4 * m + 2
  let closed := m % 2 == 0
  let below := compareScaled d.digits d.exponent low (q - 2)
  let above := compareScaled d.digits d.exponent high (q - 2)
  (below == .gt || (closed && below == .eq)) && (above == .lt || (closed && above == .eq))

/-- The least `k` of the candidates counted up from `k` with `m * 2 ^ q < 10 ^ k`. -/
def leastScale (m : Nat) (q : Int) (k : Int) : Nat → Int
  | 0 => k
  | fuel + 1 => if compareScaled 1 k m q == .gt then k else leastScale m q (k + 1) fuel

/-- The least `k` with `m * 2 ^ q < 10 ^ k`, for the significands and powers of a double. -/
def scale (m : Nat) (q : Int) : Int :=
  let bits : Int := m.log2 + q
  leastScale m q (bits * 30102 / 100000 - 2) 6

/-- The two neighbours of a positive magnitude on the grid of `n` digits, nearest first. An
exact tie goes to the larger one. -/
def neighbours (x : Double) (n : Nat) : Decimal × Decimal :=
  let (m, q) := x.decode
  let e := scale m q - n
  let numerator := m * Nat.pow 2 q.toNat * Nat.pow 10 (-e).toNat
  let denominator := Nat.pow 2 (-q).toNat * Nat.pow 10 e.toNat
  let low := numerator / denominator
  if 2 * numerator < (2 * low + 1) * denominator then (⟨low, e⟩, ⟨low + 1, e⟩)
  else (⟨low + 1, e⟩, ⟨low, e⟩)

/-- The shortest decimal of at most `n + k` digits that reads back, tried from `n` up. -/
def shortestFrom (x : Double) (n : Nat) : Nat → Decimal
  | 0 =>
    let (m, q) := x.decode
    ⟨m * Nat.pow 2 q.toNat * Nat.pow 5 (-q).toNat, -((-q).toNat : Int)⟩
  | k + 1 =>
    let (near, far) := x.neighbours n
    if x.readsBack near then near
    else if x.readsBack far then far
    else shortestFrom x (n + 1) k

/-- The shortest decimal that reads back to a positive magnitude. -/
def shortest (x : Double) : Decimal := shortestFrom x 1 17

/-- Positional text of a decimal, without a point when it is an integer. -/
def Decimal.text (d : Decimal) : String :=
  let digits := (toString d.digits).toList
  if 0 ≤ d.exponent then
    String.ofList (digits ++ List.replicate d.exponent.toNat '0')
  else
    let places := (-d.exponent).toNat
    let padded := List.replicate (places + 1 - digits.length) '0' ++ digits
    let whole := padded.take (padded.length - places)
    let fraction := padded.drop (padded.length - places)
    let kept := (fraction.reverse.dropWhile (· == '0')).reverse
    if kept.isEmpty then String.ofList whole else String.ofList (whole ++ '.' :: kept)

def text (x : Double) : String :=
  if x.isNaN then "NaN"
  else
    let sign := if x.isNegative then "-" else ""
    if x.magnitude == infinityMagnitude then sign ++ "inf"
    else if x.isZero then sign ++ "0"
    else sign ++ x.shortest.text

end DocumentStore.Double
