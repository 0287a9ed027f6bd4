import ClusterPolicy.Number.Double
import Mathlib.Algebra.Order.Field.Rat
import Mathlib.Algebra.Order.GroupWithZero.Basic
import Mathlib.Tactic.Positivity

namespace ClusterPolicy.Number.Double

/-- The absolute value of a finite number. -/
def absolute (x : Double) : ℚ := x.significand * 2 ^ x.exponent

theorem exceeds_iff {x : Double} {bound : Nat} : x.exceeds bound = true ↔ (bound : ℚ) < x.absolute := by
  simp only [exceeds, absolute, decide_eq_true_eq, Nat.pow_eq]
  rw [← Nat.cast_lt (α := ℚ)]
  obtain ⟨n, positive | negative⟩ := x.exponent.eq_nat_or_neg
  · simp [positive]
  · have power : (0 : ℚ) < 2 ^ n := by positivity
    simp [negative, ← div_eq_mul_inv, lt_div_iff₀ power]

end ClusterPolicy.Number.Double
