import DocumentStore.Double

/-!
# Integers as doubles

Every integer of sixty-four bits is compared as a double that is a number. Up to 2⁵³ different
integers are different doubles; beyond that several integers share one.
-/
namespace DocumentStore.Double

variable {m n : Nat}

/-! ## Magnitudes -/

/-- A quotient is rounded up by one at most. -/
theorem roundQuotient_le (n d : Nat) : roundQuotient n d ≤ n / d + 1 := by
  unfold roundQuotient
  simp only
  split
  · exact Nat.le_refl _
  · exact Nat.le_succ _

/-- The significand of a small integer has fifty-three bits. -/
theorem significand_bounds (hn : n ≠ 0) (hlog : n.log2 ≤ 52) :
    0x10000000000000 ≤ n * Nat.pow 2 (52 - n.log2) ∧
      n * Nat.pow 2 (52 - n.log2) < 0x20000000000000 := by
  have hsplit (k : Nat) : Nat.pow 2 (n.log2 + k) = Nat.pow 2 n.log2 * Nat.pow 2 k :=
    Nat.pow_add 2 n.log2 k
  have hpositive : 0 < Nat.pow 2 (52 - n.log2) := Nat.pow_pos (by decide)
  have hfull : Nat.pow 2 n.log2 * Nat.pow 2 (52 - n.log2) = 0x10000000000000 := by
    rw [← hsplit, Nat.add_sub_cancel' hlog]
  have hlow : Nat.pow 2 n.log2 ≤ n := Nat.log2_self_le hn
  have hhigh : n < Nat.pow 2 n.log2 * 2 := Nat.lt_log2_self
  constructor
  · exact hfull ▸ Nat.mul_le_mul_right _ hlow
  · have hless := Nat.mul_lt_mul_of_pos_right hhigh hpositive
    rw [Nat.mul_right_comm, hfull] at hless
    exact hless

theorem magnitudeOfNat_of_small (hn : n ≠ 0) (hlog : n.log2 ≤ 52) :
    magnitudeOfNat n = (n.log2 + 1022) * 0x10000000000000 + n * Nat.pow 2 (52 - n.log2) := by
  simp [magnitudeOfNat, hn, hlog]

theorem log2_le_of_lt (hn : n < 0x20000000000000) : n.log2 ≤ 52 := by
  by_cases hzero : n = 0
  · rw [hzero]
    decide
  · exact Nat.le_of_lt_succ ((Nat.log2_lt hzero).mpr hn)

theorem magnitudeOfNat_pos (hn : n ≠ 0) : 0 < magnitudeOfNat n := by
  simp only [magnitudeOfNat, hn, if_false]
  omega

/-- An integer of sixty-four bits is far from infinity. -/
theorem magnitudeOfNat_le (hn : n ≤ 0x8000000000000000) :
    magnitudeOfNat n ≤ 0x43f0000000000000 := by
  by_cases hzero : n = 0
  · rw [hzero]
    decide
  by_cases hlog : n.log2 ≤ 52
  · have hbounds := (significand_bounds hzero hlog).2
    rw [magnitudeOfNat_of_small hzero hlog]
    omega
  · have hexponent : n.log2 ≤ 63 := by
      have hlt : n < Nat.pow 2 64 := Nat.lt_of_le_of_lt hn (by decide)
      exact Nat.le_of_lt_succ ((Nat.log2_lt hzero).mpr hlt)
    -- what is cut off leaves fifty-three bits, which may be rounded up
    have hquotient : n / Nat.pow 2 (n.log2 - 52) < 0x20000000000000 := by
      have hsplit : Nat.pow 2 (n.log2 + 1)
          = 0x20000000000000 * Nat.pow 2 (n.log2 - 52) := by
        have hsum : n.log2 + 1 = 53 + (n.log2 - 52) := by omega
        rw [hsum]
        exact Nat.pow_add 2 53 _
      refine Nat.div_lt_of_lt_mul ?_
      rw [Nat.mul_comm, ← hsplit]
      exact Nat.lt_log2_self
    have hrounded := roundQuotient_le n (Nat.pow 2 (n.log2 - 52))
    simp only [magnitudeOfNat, hzero, hlog, if_false]
    omega

/-- Up to 2⁵³ larger integers have larger magnitudes. -/
theorem magnitudeOfNat_lt (h : m < n) (hn : n ≤ 0x20000000000000) :
    magnitudeOfNat m < magnitudeOfNat n := by
  have hm : m < 0x20000000000000 := Nat.lt_of_lt_of_le h hn
  have hnzero : n ≠ 0 := Nat.ne_of_gt (Nat.lt_of_le_of_lt (Nat.zero_le m) h)
  have hmlog := log2_le_of_lt hm
  have hmbounds (hzero : m ≠ 0) := significand_bounds hzero hmlog
  obtain hn | hn := Nat.lt_or_eq_of_le hn
  · have hnlog := log2_le_of_lt hn
    have hnbounds := significand_bounds hnzero hnlog
    rw [magnitudeOfNat_of_small hnzero hnlog]
    by_cases hzero : m = 0
    · have hnone : magnitudeOfNat 0 = 0 := rfl
      rw [hzero, hnone]
      omega
    · rw [magnitudeOfNat_of_small hzero hmlog]
      have hle : m.log2 ≤ n.log2 := (Nat.le_log2 hnzero).mpr <|
        Nat.le_trans (Nat.log2_self_le hzero) (Nat.le_of_lt h)
      obtain heq | hlt := Nat.eq_or_lt_of_le hle
      -- with the same exponent the significands decide
      · rw [heq]
        have hpositive : 0 < Nat.pow 2 (52 - n.log2) := Nat.pow_pos (by decide)
        have hless := Nat.mul_lt_mul_of_pos_right h hpositive
        omega
      · have hmbounds := hmbounds hzero
        omega
  · have hlast : magnitudeOfNat n = 0x4340000000000000 := by
      rw [hn]
      decide
    rw [hlast]
    by_cases hzero : m = 0
    · rw [hzero]
      decide
    · have hmbounds := hmbounds hzero
      rw [magnitudeOfNat_of_small hzero hmlog]
      omega

/-- Only the zeros have rank zero. -/
theorem isZero_iff (x : Double) : x.isZero = true ↔ x.key = 0 := by
  unfold isZero key
  split <;> simp

/-! ## Integers -/

theorem magnitude_ofInt {i : Int} (hi : i.natAbs ≤ 0x8000000000000000) :
    (ofInt i).magnitude = magnitudeOfNat i.natAbs := by
  have hle := magnitudeOfNat_le hi
  unfold magnitude ofInt
  rw [UInt64.toNat_ofNat']
  split <;> omega

theorem isNegative_ofInt {i : Int} (hi : i.natAbs ≤ 0x8000000000000000) :
    (ofInt i).isNegative = decide (i < 0) := by
  have hle := magnitudeOfNat_le hi
  unfold isNegative ofInt
  rw [UInt64.toNat_ofNat']
  split <;> simp <;> omega

theorem isNaN_ofInt {i : Int} (hi : i.natAbs ≤ 0x8000000000000000) :
    (ofInt i).isNaN = false := by
  have hle := magnitudeOfNat_le hi
  unfold isNaN infinityMagnitude
  rw [magnitude_ofInt hi]
  simp
  omega

/-- Integers are equal as doubles if their doubles have the same rank. -/
theorem equals_ofInt {i j : Int} (hi : i.natAbs ≤ 0x8000000000000000)
    (hj : j.natAbs ≤ 0x8000000000000000) :
    (ofInt i).equals (ofInt j) = ((ofInt i).key == (ofInt j).key) := by
  unfold equals
  rw [isNaN_ofInt hi, isNaN_ofInt hj]
  rfl

/-- The rank of an integer is its magnitude with its sign. -/
theorem key_ofInt {i : Int} (hi : i.natAbs ≤ 0x8000000000000000) :
    (ofInt i).key = if i < 0 then -(magnitudeOfNat i.natAbs : Int)
      else magnitudeOfNat i.natAbs := by
  unfold key
  rw [magnitude_ofInt hi, isNegative_ofInt hi]
  simp

theorem key_ofInt_pos {i : Int} (hi : i.natAbs ≤ 0x8000000000000000) :
    0 < (ofInt i).key ↔ 0 < i := by
  rw [key_ofInt hi]
  by_cases hzero : i = 0
  · rw [hzero]
    decide
  · have hmore := magnitudeOfNat_pos (Int.natAbs_ne_zero.mpr hzero)
    split <;> omega

/-- Up to 2⁵³ larger integers have larger ranks. -/
theorem key_ofInt_lt {i j : Int} (hi : i.natAbs ≤ 0x20000000000000)
    (hj : j.natAbs ≤ 0x20000000000000) (h : i < j) : (ofInt i).key < (ofInt j).key := by
  have hwide {i : Int} (hi : i.natAbs ≤ 0x20000000000000) : i.natAbs ≤ 0x8000000000000000 :=
    Nat.le_trans hi (by decide)
  rw [key_ofInt (hwide hi), key_ofInt (hwide hj)]
  by_cases hineg : i < 0
  · have hmore := magnitudeOfNat_pos (n := i.natAbs) (by omega)
    by_cases hjneg : j < 0
    · have hless := magnitudeOfNat_lt (m := j.natAbs) (n := i.natAbs) (by omega) hi
      rw [if_pos hineg, if_pos hjneg]
      omega
    · rw [if_pos hineg, if_neg hjneg]
      omega
  · have hless := magnitudeOfNat_lt (m := i.natAbs) (n := j.natAbs) (by omega) hj
    rw [if_neg hineg, if_neg (by omega)]
    omega

/-- Up to 2⁵³ different integers have different ranks. -/
theorem key_ofInt_injective {i j : Int} (hi : i.natAbs ≤ 0x20000000000000)
    (hj : j.natAbs ≤ 0x20000000000000) (h : (ofInt i).key = (ofInt j).key) : i = j := by
  obtain hlt | heq | hlt := Int.lt_trichotomy i j
  · exact absurd h (Int.ne_of_lt (key_ofInt_lt hi hj hlt))
  · exact heq
  · exact absurd h (Int.ne_of_gt (key_ofInt_lt hj hi hlt))

end DocumentStore.Double
