import ClusterPolicy.Number.Long
import Mathlib.Algebra.Ring.Int.Defs

namespace ClusterPolicy.Number

theorem long?_eq (n : Int) :
    long? n = if -2 ^ 63 ≤ n ∧ n < 2 ^ 63 then some (.ofInt n) else none := by
  have bounds : Int64.minValue.toInt ≤ n ∧ n ≤ Int64.maxValue.toInt ↔ -2 ^ 63 ≤ n ∧ n < 2 ^ 63 := by
    rw [Int64.toInt_minValue, Int64.toInt_maxValue]
    omega
  by_cases fits : -2 ^ 63 ≤ n ∧ n < 2 ^ 63
  · rw [long?, if_pos (bounds.mpr fits), if_pos fits]
  · rw [long?, if_neg (mt bounds.mp fits), if_neg fits]

theorem long?_toInt (n : Int64) : long? n.toInt = some n := by
  rw [long?, if_pos ⟨n.minValue_le_toInt, n.toInt_le⟩, Int64.ofInt_toInt]

theorem toInt_neg {n : Int64} (h : n ≠ Int64.minValue) : (-n).toInt = -n.toInt := by
  have least := n.le_toInt
  have greatest := n.toInt_lt
  have other : n.toInt ≠ -2 ^ 63 := by
    intro same
    exact h (Int64.toInt_inj.mp (same.trans Int64.toInt_minValue.symm))
  rw [Int64.toInt_neg, Int.bmod_eq_of_le] <;> omega

theorem long?_natAbs {n : Int64} (h : 0 ≤ n) : long? n.toInt.natAbs = some n := by
  have positive : 0 ≤ n.toInt := by simpa [Int64.le_iff_toInt_le] using h
  rw [Int.natAbs_of_nonneg positive, long?_toInt]

theorem long?_neg_natAbs {n : Int64} (h : n < 0) : long? (-n.toInt.natAbs) = some n := by
  have negative : n.toInt < 0 := by simpa [Int64.lt_iff_toInt_lt] using h
  rw [show -(n.toInt.natAbs : Int) = n.toInt by omega, long?_toInt]

theorem long?_neg {n : Int64} (h : 0 ≤ n) : long? (-n.toInt.natAbs) = some (-n) := by
  have positive : 0 ≤ n.toInt := by simpa [Int64.le_iff_toInt_le] using h
  have upper := n.toInt_lt
  have low : Int64.minValue.toInt ≤ -n.toInt := by
    rw [Int64.toInt_minValue]
    omega
  have high : -n.toInt ≤ Int64.maxValue.toInt := by
    rw [Int64.toInt_maxValue]
    omega
  rw [Int.natAbs_of_nonneg positive, long?, if_pos ⟨low, high⟩, Int64.ofInt_neg,
    Int64.ofInt_toInt]

end ClusterPolicy.Number
