import DocumentStore.Config
import Mathlib.Algebra.Group.Nat.Defs
import Mathlib.Order.MinMax

/-!
# The backoff of retries

A wait is computed in numbers of limited width: the number of doublings, the factor and the product
each stop at the largest number of theirs. The cap hides all three limits. As soon as one of them
is reached the exact wait is above every cap, unless there is no backoff at all, and then there is
nothing to multiply.
-/
namespace DocumentStore.RetryPolicy

variable {backoff factor cap : Nat}

/-! ## Products under a cap -/

/-- A product that stops at the width of the cap is the exact product under the cap. -/
theorem min_min_maxWord (hcap : cap ≤ maxWord) :
    min (min (backoff * factor) maxWord) cap = min (backoff * factor) cap := by
  rw [min_assoc, min_eq_right hcap]

/-- A factor above the cap brings every backoff there but none. -/
theorem min_mul_of_le (hbackoff : backoff ≠ 0) (hfactor : cap ≤ factor) :
    min (backoff * factor) cap = cap :=
  min_eq_right (hfactor.trans (Nat.le_mul_of_pos_left factor (Nat.pos_of_ne_zero hbackoff)))

/-- Two factors above the cap make no difference under it. -/
theorem min_mul_congr {factor' : Nat} (hfactor : cap ≤ factor) (hfactor' : cap ≤ factor') :
    min (backoff * factor) cap = min (backoff * factor') cap := by
  by_cases hbackoff : backoff = 0
  · rw [hbackoff, Nat.zero_mul, Nat.zero_mul]
  · rw [min_mul_of_le hbackoff hfactor, min_mul_of_le hbackoff hfactor']

/-! ## Waits -/

variable (policy : RetryPolicy)

theorem backoffCap_le_maxWord : policy.backoffCap.toNat ≤ maxWord :=
  Nat.le_of_lt_succ policy.backoffCap.toNat_lt

/-- No wait shows where the numbers stop that it was computed with. -/
theorem waitBefore_succ (retry : Nat) : policy.waitBefore (retry + 1)
    = min (policy.backoff.toNat * 2 ^ retry) policy.backoffCap.toNat := by
  have hcap := policy.backoffCap_le_maxWord
  simp only [waitBefore, Nat.add_sub_cancel]
  rw [min_min_maxWord hcap]
  by_cases hretry : retry < 64
  · have hdoublings : min retry 0xffffffff = retry := by omega
    rw [hdoublings, if_pos hretry]
    rfl
  · -- the factor has stopped, and would be above the cap if it had not
    have hdoublings : ¬ min retry 0xffffffff < 64 := by omega
    have hpower : maxWord ≤ 2 ^ retry := calc
      maxWord ≤ 2 ^ 64 := by decide
      _ ≤ 2 ^ retry := Nat.pow_le_pow_right Nat.two_pos (Nat.le_of_not_lt hretry)
    rw [if_neg hdoublings]
    exact min_mul_congr hcap (hcap.trans hpower)

/-- The wait before a retry is the backoff, doubled for every retry before it, or the cap if that is
less, as exact numbers and however often it was retried. So it is a number of sixty-four bits, which
the cap bounds, and it never gets less from one retry to the next. -/
theorem waitBefore_exact :
    (∀ retry, policy.waitBefore (retry + 1)
      = min (policy.backoff.toNat * 2 ^ retry) policy.backoffCap.toNat) ∧
    (∀ retry, ∃ wait ≤ policy.backoffCap, policy.waitBefore retry = wait.toNat) ∧
    Monotone policy.waitBefore := by
  have hle (retry : Nat) : policy.waitBefore retry ≤ policy.backoffCap.toNat := min_le_right _ _
  refine ⟨policy.waitBefore_succ, fun retry => ?_, monotone_nat_of_le_succ fun retry => ?_⟩
  · have hlt := Nat.lt_of_le_of_lt (hle retry) policy.backoffCap.toNat_lt
    refine ⟨.ofNat (policy.waitBefore retry), ?_, (UInt64.toNat_ofNat_of_lt' hlt).symm⟩
    rw [UInt64.le_iff_toNat_le, UInt64.toNat_ofNat_of_lt' hlt]
    exact hle retry
  · cases retry with
    | zero => exact Nat.le_refl _
    | succ retry =>
      rw [waitBefore_succ, waitBefore_succ, Nat.pow_succ, ← Nat.mul_assoc]
      exact min_le_min_right _ (Nat.le_mul_of_pos_right _ Nat.two_pos)

/-- Under a cap that is the largest number of all, the last doubling that fits and the next one. -/
example :
    let policy : RetryPolicy := { backoff := 1, backoffCap := 0xffffffffffffffff }
    policy.waitBefore 64 = 2 ^ 63 ∧ policy.waitBefore 65 = 2 ^ 64 - 1 := by decide

end DocumentStore.RetryPolicy
