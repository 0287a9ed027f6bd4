/-! Integers of 64 bits. -/

namespace ClusterPolicy.Number

/-- The integer in 64 bits, if it fits. -/
def long? (n : Int) : Option Int64 :=
  if Int64.minValue.toInt ≤ n ∧ n ≤ Int64.maxValue.toInt then some (.ofInt n) else none

theorem toInt_of_long? {n : Int} {v : Int64} (h : long? n = some v) : v.toInt = n := by
  unfold long? at h
  split at h
  · rename_i bounds
    simp only [Int64.toInt_minValue, Int64.toInt_maxValue] at bounds
    cases h
    exact Int64.toInt_ofInt_of_le (by omega) (by omega)
  · cases h

end ClusterPolicy.Number
