import DocumentStore.Proofs.Key
import DocumentStore.Value.Number
import Mathlib.Order.Compare

/-!
# The order of values in sorts

Values are sorted by class and then by value. With NaN left out this is a total preorder: it is the
order of what the values are compared by, one part of which says something for each class.
-/
namespace DocumentStore.Value

variable {a b : Value} {x y : Double}

/-! ## Numbers -/

/-- Whether a value is the double that is not a number. -/
def isNaN : Value → Bool
  | .double x => x.isNaN
  | _ => false

theorem isNaN_of_number? (h : a.number? = some x) : x.isNaN = a.isNaN := by
  cases a with
  | int32 n =>
    obtain rfl : .ofInt n.toInt = x := Option.some.inj h
    have hlow := n.le_toInt
    have hhigh := n.toInt_lt
    exact Double.isNaN_ofInt (by omega)
  | int64 n =>
    obtain rfl : .ofInt n.toInt = x := Option.some.inj h
    exact Double.isNaN_ofInt (Key.natAbs_toInt_le n)
  | double z =>
    obtain rfl : z = x := Option.some.inj h
    rfl
  | _ => cases h

theorem compare?_of_number? (ha : a.number? = some x) (hb : b.number? = some y) :
    a.compare? b = x.compare? y := by
  cases a <;> cases ha <;> cases b <;> cases hb <;> rfl

theorem rank_of_number? (h : a.number? = some x) : a.rank = 2 := by
  cases a <;> cases h <;> rfl

theorem number?_ofInt {i : Int} (hi : i.natAbs ≤ 0x20000000000000) :
    (Value.ofInt i).number? = some (.ofInt i) := by
  unfold Value.ofInt
  split
  · next hfits =>
    simp only [fitsInt32, Bool.and_eq_true, decide_eq_true_eq, Int32.toInt_minValue,
      Int32.toInt_maxValue] at hfits
    rw [number?, Int32.toInt_ofInt_of_le hfits.1 (by omega)]
  · rw [number?, Int64.toInt_ofInt_of_le (by omega) (by omega)]

/-- Up to 2⁵³ numbers are sorted as they are. -/
theorem sortCompare_ofInt {m n : Nat} (hm : m ≤ 0x20000000000000) (hn : n ≤ 0x20000000000000) :
    (Value.ofInt m).sortCompare (Value.ofInt n) = compare m n := by
  have hx := number?_ofInt (i := m) hm
  have hy := number?_ofInt (i := n) hn
  have hnan {n : Nat} (hn : n ≤ 0x20000000000000) : (Double.ofInt n).isNaN = false :=
    Double.isNaN_ofInt (Nat.le_trans hn (by decide))
  have hkeys : compare (Double.ofInt m).key (Double.ofInt n).key = compare m n := by
    obtain hlt | rfl | hlt := Nat.lt_trichotomy m n
    · rw [Nat.compare_eq_lt.mpr hlt, Int.compare_eq_lt]
      exact Double.key_ofInt_lt hm hn (Int.ofNat_lt.mpr hlt)
    · rw [Std.ReflOrd.compare_self, Std.ReflOrd.compare_self]
    · rw [Nat.compare_eq_gt.mpr hlt, Int.compare_eq_gt]
      exact Double.key_ofInt_lt hn hm (Int.ofNat_lt.mpr hlt)
  rw [sortCompare, rank_of_number? hx, rank_of_number? hy, compare?_of_number? hx hy,
    Double.compare?, hnan hm, hnan hn, ← hkeys]
  rfl

/-- NaN is in order with nothing. -/
theorem compare?_of_isNaN (h : a.isNaN = true ∨ b.isNaN = true) : a.compare? b = none := by
  obtain h | h := h
  · cases a with
    | double x =>
      have hx : x.isNaN = true := h
      cases b <;> simp [compare?, number?, Double.compare?, hx]
    | _ => cases h
  · cases b with
    | double y =>
      have hy : y.isNaN = true := h
      cases a <;> simp [compare?, number?, Double.compare?, hy]
    | _ => cases h

/-! ## What values are compared by -/

theorem compare_natCast (m n : Nat) : compare (m : Int) (n : Int) = compare m n := by
  simp only [compare, compareOfLessAndEq, Int.ofNat_lt, Int.ofNat_inj]

/-- The number that a value is compared by within its class. -/
def weight : Value → Int
  | .boolean flag => flag.toInt
  | .dateTime millis => millis.toInt
  | .objectId id => id.number.toNat
  | value => (number? value).elim 0 Double.key

/-- The text that a value is compared by within its class. -/
def letters : Value → String
  | .string text => text
  | _ => ""

/-- The bytes that a value is compared by within its class. -/
def octets : Value → List UInt8
  | .binary _ bytes => bytes
  | _ => []

/-- The order of the values of a class. -/
def settleWithin : Value → Value → Ordering :=
  compareLex (compareOn weight) (compareLex (compareOn letters) (compareOn octets))

/-- The order of what values are compared by. -/
def settle : Value → Value → Ordering := compareLex (compareOn rank) settleWithin

instance : Std.TransCmp settleWithin := inferInstanceAs (Std.TransCmp (compareLex _ _))

instance : Std.TransCmp settle := inferInstanceAs (Std.TransCmp (compareLex _ _))

/-- Values that are not told apart by text or bytes go by their numbers. -/
theorem settleWithin_of_weight (hletters : a.letters = b.letters) (hoctets : a.octets = b.octets) :
    a.settleWithin b = compare a.weight b.weight := by
  simp only [settleWithin, compareLex, compareOn, hletters, hoctets, Std.ReflOrd.compare_self,
    Ordering.then_eq]

theorem compare?_eq_settleWithin (hrank : a.rank = b.rank) (ha : a.isNaN = false)
    (hb : b.isNaN = false) : (a.compare? b).getD .eq = a.settleWithin b := by
  have hnumber {x y : Double} (hx : a.number? = some x) (hy : b.number? = some y) :
      (a.compare? b).getD .eq = compare x.key y.key := by
    rw [← isNaN_of_number? hx] at ha
    rw [← isNaN_of_number? hy] at hb
    rw [compare?_of_number? hx hy, Double.compare?, ha, hb]
    rfl
  have hplain (hletters : a.letters = b.letters) (hoctets : a.octets = b.octets)
      (h : (a.compare? b).getD .eq = compare a.weight b.weight) :
      (a.compare? b).getD .eq = a.settleWithin b :=
    h.trans (settleWithin_of_weight hletters hoctets).symm
  cases a with
  | int32 | int64 | double =>
    cases b with
    | int32 | int64 | double => exact hplain rfl rfl (hnumber rfl rfl)
    | _ => cases hrank
  | boolean first =>
    cases b with
    | boolean second => cases first <;> cases second <;> rfl
    | _ => cases hrank
  | dateTime =>
    cases b with
    | dateTime => exact hplain rfl rfl rfl
    | _ => cases hrank
  | objectId =>
    cases b with
    | objectId => exact hplain rfl rfl (compare_natCast _ _).symm
    | _ => cases hrank
  | string =>
    cases b with
    | string =>
      simp [settleWithin, compareLex, compareOn, weight, letters, octets, number?, compare?]
    | _ => cases hrank
  | binary =>
    cases b with
    | binary =>
      simp [settleWithin, compareLex, compareOn, weight, letters, octets, number?, compare?]
    | _ => cases hrank
  | _ =>
    -- the classes that are left have no order
    cases b <;> first | cases hrank; done | exact hplain rfl rfl rfl

/-- Where no NaN is compared, a sort goes by this order. -/
theorem sortCompare_eq_settle (ha : a.isNaN = false) (hb : b.isNaN = false) :
    a.sortCompare b = a.settle b := by
  by_cases hrank : a.rank = b.rank
  · rw [sortCompare, compare?_eq_settleWithin hrank ha hb]
    rfl
  · have hne : compare a.rank b.rank ≠ .eq := fun h => hrank (Nat.compare_eq_eq.mp h)
    simp only [sortCompare, settle, compareLex, compareOn]
    cases hcmp : compare a.rank b.rank with
    | eq => exact absurd hcmp hne
    | lt | gt => rfl

/-- A sort compares in both directions alike, NaN included. -/
theorem sortCompare_swap (a b : Value) : b.sortCompare a = (a.sortCompare b).swap := by
  by_cases h : a.isNaN = true ∨ b.isNaN = true
  · rw [sortCompare, sortCompare, compare?_of_isNaN h, compare?_of_isNaN h.symm]
    simp only [Option.getD_none, Ordering.then_eq]
    exact Std.OrientedOrd.eq_swap
  · obtain ⟨ha, hb⟩ := not_or.mp h
    rw [Bool.not_eq_true] at ha hb
    rw [sortCompare_eq_settle ha hb, sortCompare_eq_settle hb ha]
    exact Std.OrientedCmp.eq_swap

end DocumentStore.Value
