import ClusterPolicy.Text.Digits
import Mathlib.Algebra.Ring.Nat

namespace ClusterPolicy.Text

theorem digit_range {c : Char} (h : isDigit 10 c = true) : 48 ≤ c.toNat ∧ c.toNat ≤ 57 := by
  simp only [isDigit, digitValue?, Char.le_def, UInt32.le_iff_toNat_le, Char.toNat_val,
    Option.isSome_filter] at h
  split at h
  · assumption
  · split at h
    · rename_i lower
      have := lower.1
      simp at h this
      omega
    · split at h
      · rename_i upper
        have := upper.1
        simp at h this
        omega
      · simp at h

theorem isDigit_of_range {c : Char} (h : 48 ≤ c.toNat ∧ c.toNat ≤ 57) : isDigit 10 c = true := by
  have range : '0' ≤ c ∧ c ≤ '9' :=
    ⟨UInt32.le_iff_toNat_le.mpr h.1, UInt32.le_iff_toNat_le.mpr h.2⟩
  have small : c.toNat - 48 < 10 := by omega
  simp [isDigit, digitValue?, range, small]

theorem isDigit_mono {radix radix' : Nat} {c : Char} (le : radix ≤ radix') (h : isDigit radix c = true) :
    isDigit radix' c = true := by
  simp only [isDigit, digitValue?, Option.isSome_filter, Option.any_eq_true_iff_get, decide_eq_true_eq] at h ⊢
  obtain ⟨isSome, small⟩ := h
  exact ⟨isSome, Nat.lt_of_lt_of_le small le⟩

theorem digitValue?_digitChar {radix d : Nat} (h : d < radix) (hr : radix ≤ 16) :
    digitValue? radix d.digitChar = some d := by
  have value : ∀ e < 16, digitValue? 16 (Nat.digitChar e) = some e := by decide
  have hd := value d (by omega)
  simp only [digitValue?, Option.filter_eq_some_iff, decide_eq_true_eq] at hd ⊢
  exact ⟨hd.1, h⟩

theorem isDigit_digitChar {radix d : Nat} (h : d < radix) (hr : radix ≤ 16) :
    isDigit radix d.digitChar = true := by
  simp [isDigit, digitValue?_digitChar h hr]

theorem ofDigits_append (radix high : Nat) (xs ys : List Char) :
    ofDigits radix high (xs ++ ys) = (ofDigits radix high xs).bind fun n => ofDigits radix n ys := by
  induction xs generalizing high with
  | nil => rfl
  | cons c xs ih =>
    simp only [List.cons_append, ofDigits]
    cases digitValue? radix c with
    | none => rfl
    | some d => exact ih _

theorem ofDigits_toDigits {radix : Nat} (h : 1 < radix) (hr : radix ≤ 16) (n : Nat) :
    ofDigits radix 0 (Nat.toDigits radix n) = some n := by
  induction n using Nat.strongRecOn with
  | ind n ih =>
    rw [Nat.toDigits_eq_if h]
    split
    · rename_i small
      simp [ofDigits, digitValue?_digitChar small hr]
    · rename_i large
      have smaller : n / radix < n := Nat.div_lt_self (by omega) h
      have last := digitValue?_digitChar (Nat.mod_lt n (by omega : 0 < radix)) hr
      have whole : n / radix * radix + n % radix = n := by
        rw [Nat.mul_comm]; exact Nat.div_add_mod n radix
      simp [ofDigits_append, ih _ smaller, ofDigits, last, whole]

theorem natural?_toDigits {radix : Nat} (h : 1 < radix) (hr : radix ≤ 16) (n : Nat) :
    natural? radix (Nat.toDigits radix n) = some n := by
  simp [natural?, ofDigits_toDigits h hr]

theorem isDigit_of_mem_toDigits {radix n : Nat} {c : Char} (h : 1 < radix) (hr : radix ≤ 16)
    (hc : c ∈ Nat.toDigits radix n) : isDigit radix c = true := by
  induction n using Nat.strongRecOn with
  | ind n ih =>
    rw [Nat.toDigits_eq_if h] at hc
    split at hc
    · rename_i small
      rw [List.mem_singleton.mp hc]
      exact isDigit_digitChar small hr
    · rcases List.mem_append.mp hc with high | last
      · exact ih _ (Nat.div_lt_self (by omega) h) high
      · rw [List.mem_singleton.mp last]
        exact isDigit_digitChar (Nat.mod_lt n (by omega)) hr

theorem isDigit_of_ofDigits {radix high n : Nat} {digits : List Char} {c : Char}
    (h : ofDigits radix high digits = some n) (hc : c ∈ digits) : isDigit radix c = true := by
  induction digits generalizing high with
  | nil => cases hc
  | cons d digits ih =>
    obtain ⟨value, isValue, behind⟩ := Option.bind_eq_some_iff.mp h
    rcases List.mem_cons.mp hc with rfl | later
    · rw [isDigit, isValue]
      rfl
    · exact ih behind later

theorem isDigit_of_natural? {radix n : Nat} {digits : List Char} {c : Char}
    (h : natural? radix digits = some n) (hc : c ∈ digits) : isDigit radix c = true := by
  unfold natural? at h
  split at h
  · cases h
  · exact isDigit_of_ofDigits h hc

theorem exists_ofDigits {radix : Nat} {digits : List Char} (h : ∀ c ∈ digits, isDigit radix c = true)
    (high : Nat) : ∃ n, ofDigits radix high digits = some n := by
  induction digits generalizing high with
  | nil => exact ⟨high, rfl⟩
  | cons c digits ih =>
    obtain ⟨first, others⟩ := List.forall_mem_cons.mp h
    obtain ⟨d, isValue⟩ := Option.isSome_iff_exists.mp first
    obtain ⟨n, behind⟩ := ih others (high * radix + d)
    exact ⟨n, by rw [ofDigits, isValue, Option.bind_some, behind]⟩

theorem exists_natural? {radix : Nat} {digits : List Char} (nonempty : digits ≠ [])
    (h : ∀ c ∈ digits, isDigit radix c = true) : ∃ n, natural? radix digits = some n := by
  obtain ⟨n, value⟩ := exists_ofDigits h 0
  exact ⟨n, by rw [natural?, if_neg (mt List.isEmpty_iff.mp nonempty), value]⟩

theorem ne_nil_of_natural? {radix n : Nat} {digits : List Char} (h : natural? radix digits = some n) :
    digits ≠ [] := by
  rintro rfl
  cases h

theorem ofDigits_lt {radix high n : Nat} {digits : List Char} (h : ofDigits radix high digits = some n) :
    n < (high + 1) * radix ^ digits.length := by
  induction digits generalizing high with
  | nil =>
    cases h
    simp
  | cons c digits ih =>
    obtain ⟨d, value, behind⟩ := Option.bind_eq_some_iff.mp h
    have small : d < radix := by simpa using (Option.filter_eq_some_iff.mp value).2
    have next : high * radix + d + 1 ≤ (high + 1) * radix := by
      rw [Nat.succ_mul]
      omega
    calc n < (high * radix + d + 1) * radix ^ digits.length := ih behind
      _ ≤ (high + 1) * radix * radix ^ digits.length := Nat.mul_le_mul_right _ next
      _ = (high + 1) * radix ^ (digits.length + 1) := by rw [Nat.pow_succ, Nat.mul_assoc, Nat.mul_comm radix]

theorem natural?_lt {radix n : Nat} {digits : List Char} (h : natural? radix digits = some n) :
    n < radix ^ digits.length := by
  unfold natural? at h
  split at h
  · cases h
  · simpa using ofDigits_lt h

end ClusterPolicy.Text
