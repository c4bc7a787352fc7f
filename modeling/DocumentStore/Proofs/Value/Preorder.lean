import DocumentStore.Double.Nearest
import DocumentStore.Proofs.Value.Order

/-!
# The order of sorts as a preorder

A sort compares every value with itself as equal and any two values in both directions alike. NaN is
told apart from other values by its class only, so it ties with every number though numbers do not
tie with each other. Away from that the order is transitive, and values that tie compare alike to
every third one.
-/
namespace DocumentStore.Value

variable {a b c : Value}

/-! ## Classes -/

/-- What is compared with NaN is compared by class. -/
theorem sortCompare_of_isNaN (h : a.isNaN = true ∨ b.isNaN = true) :
    a.sortCompare b = compare a.rank b.rank := by
  rw [sortCompare, compare?_of_isNaN h, Option.getD_none, Ordering.then_eq]

theorem rank_le_of_sortCompare (h : a.sortCompare b ≠ .gt) : a.rank ≤ b.rank := by
  refine Nat.compare_ne_gt.mp fun hrank => h ?_
  rw [sortCompare, hrank]
  rfl

theorem rank_eq_of_sortCompare (h : a.sortCompare b = .eq) : a.rank = b.rank :=
  Nat.compare_eq_eq.mp (Ordering.then_eq_eq.mp h).1

/-! ## The laws of a preorder -/

theorem sortCompare_self (a : Value) : a.sortCompare a = .eq := by
  have hswap := sortCompare_swap a a
  cases h : a.sortCompare a with
  | eq => rfl
  | lt | gt =>
    rw [h] at hswap
    cases hswap

/-- The order is transitive over every value but NaN. -/
theorem sortCompare_trans (hb : b.isNaN = false) (hab : a.sortCompare b ≠ .gt)
    (hbc : b.sortCompare c ≠ .gt) : a.sortCompare c ≠ .gt := by
  by_cases hnan : a.isNaN = true ∨ c.isNaN = true
  · rw [sortCompare_of_isNaN hnan, Nat.compare_ne_gt]
    exact Nat.le_trans (rank_le_of_sortCompare hab) (rank_le_of_sortCompare hbc)
  · obtain ⟨ha, hc⟩ := not_or.mp hnan
    rw [Bool.not_eq_true] at ha hc
    rw [sortCompare_eq_settle ha hb] at hab
    rw [sortCompare_eq_settle hb hc] at hbc
    rw [sortCompare_eq_settle ha hc]
    have hle := Std.TransCmp.isLE_trans (Ordering.isLE_iff_ne_gt.mpr hab)
      (Ordering.isLE_iff_ne_gt.mpr hbc)
    exact Ordering.isLE_iff_ne_gt.mp hle

/-- Values that tie compare alike, unless one of them alone is NaN. -/
theorem sortCompare_congr (hnan : a.isNaN = b.isNaN) (hab : a.sortCompare b = .eq) :
    a.sortCompare c = b.sortCompare c := by
  by_cases hc : a.isNaN = true ∨ c.isNaN = true
  · rw [sortCompare_of_isNaN hc, sortCompare_of_isNaN (hnan ▸ hc), rank_eq_of_sortCompare hab]
  · obtain ⟨ha, hc⟩ := not_or.mp hc
    rw [Bool.not_eq_true] at ha hc
    have hb : b.isNaN = false := hnan ▸ ha
    rw [sortCompare_eq_settle ha hb] at hab
    rw [sortCompare_eq_settle ha hc, sortCompare_eq_settle hb hc]
    exact Std.TransCmp.congr_left hab

/-- The order of sorts is a total preorder with NaN left out. It is reflexive and the same in both
directions for all values. It is transitive over every value but NaN, and values that tie compare
alike to every third value unless one of them alone is NaN. -/
theorem sortCompare_preorder (a b c : Value) :
    a.sortCompare a = .eq ∧ b.sortCompare a = (a.sortCompare b).swap ∧
      (b.isNaN = false → a.sortCompare b ≠ .gt → b.sortCompare c ≠ .gt →
        a.sortCompare c ≠ .gt) ∧
      (a.isNaN = b.isNaN → a.sortCompare b = .eq → a.sortCompare c = b.sortCompare c) :=
  ⟨sortCompare_self a, sortCompare_swap a b, sortCompare_trans, sortCompare_congr⟩

/-- Integers of both widths tie with a double between them and go before a text, and one of them
goes before NaN if it goes before the other. -/
theorem sortCompare_preorder_mixed :
    let narrow : Value := .int32 1
    let wide : Value := .int64 1
    let double : Value := .double (.ofInt 1)
    let nan : Value := .double .nan
    wide.isNaN = false ∧ narrow.sortCompare wide = .eq ∧ narrow.sortCompare (.string "1") ≠ .gt ∧
      narrow.sortCompare nan ≠ .gt ∧
      narrow.sortCompare (.int32 2) = double.sortCompare (.int32 2) := by
  intro narrow wide double nan
  obtain ⟨-, -, htext, -⟩ := sortCompare_preorder narrow wide (.string "1")
  obtain ⟨-, -, hnan, -⟩ := sortCompare_preorder narrow wide nan
  obtain ⟨-, -, -, htie⟩ := sortCompare_preorder narrow double (.int32 2)
  have hsame : narrow.sortCompare wide = .eq := by decide
  have hle : narrow.sortCompare wide ≠ .gt := by decide
  exact ⟨rfl, hsame, htext rfl hle (by decide), hnan rfl hle (by decide), htie rfl (by decide)⟩

/-- NaN ties with two and with one, which do not tie. -/
theorem sortCompare_not_transitive :
    let nan : Value := .double .nan
    (Value.int32 2).sortCompare nan = .eq ∧ nan.sortCompare (.int32 1) = .eq ∧
      (Value.int32 2).sortCompare (.int32 1) = .gt := by
  decide

end DocumentStore.Value
