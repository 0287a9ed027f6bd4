import ClusterPolicy.Text.LetterCase

/-! What has a star for its lower case: a star alone. -/

namespace ClusterPolicy.Text

/-- Whether a code lies where a run may lead to. -/
def CaseRun.covers (run : CaseRun) (code : Nat) : Bool :=
  run.first + run.shift ≤ code && code ≤ run.last + run.shift

theorem toNat_of_scalar? {code : Nat} {c : Char} (h : scalar? code = some c) : c.toNat = code := by
  unfold scalar? at h
  by_cases valid : code.isValidChar
  · rw [dif_pos valid] at h
    cases h
    rfl
  · rw [dif_neg valid] at h
    cases h

/-- A character that no run leads to comes from itself. -/
theorem eq_of_mapped {runs : List CaseRun} {c d : Char} (positive : 0 < d.toNat)
    (free : runs.all (fun run => !run.covers d.toNat) = true) (h : mapped runs c = d) : c = d := by
  unfold mapped at h
  simp only at h
  cases found : runs.find? fun r =>
      r.first ≤ c.toNat && c.toNat ≤ r.last && (c.toNat - r.first) % r.step == 0 with
  | none => simpa [found] using h
  | some run =>
    -- The run that maps `c` would lead to `d`, which none of them does.
    have inside := List.find?_some found
    have covered := List.all_eq_true.mp free run (List.mem_of_find?_eq_some found)
    simp only [Bool.and_eq_true, decide_eq_true_eq] at inside
    simp only [CaseRun.covers, Bool.not_eq_true', Bool.and_eq_false_iff, decide_eq_false_iff_not] at covered
    simp only [found, Option.map_some, Option.bind_some] at h
    cases image : scalar? (c.toNat + run.shift).toNat with
    | none => simpa [image] using h
    | some e =>
      have code := toNat_of_scalar? image
      simp only [image, Option.getD_some] at h
      subst h
      omega

theorem eq_nil_of_lowerAfter {before s : List Char} (h : lowerAfter before s = []) : s = [] := by
  cases s with
  | nil => rfl
  | cons c rest =>
    simp only [lowerAfter, List.append_eq_nil_iff] at h
    obtain ⟨none, -⟩ := h
    split at none
    · split at none <;> cases none
    · split at none <;> cases none

theorem eq_star_of_lowerAfter {before s : List Char} (h : lowerAfter before s = ['*']) : s = ['*'] := by
  cases s with
  | nil => cases h
  | cons c rest =>
    simp only [lowerAfter] at h
    split at h
    · split at h
      · exact absurd (List.cons.inj h).1 (by decide)
      · exact absurd (List.cons.inj h).1 (by decide)
    · split at h
      · exact absurd (List.cons.inj h).1 (by decide)
      · obtain ⟨first, others⟩ := List.cons.inj h
        have free : lowerRuns.all (fun run => !run.covers '*'.toNat) = true := by decide
        rw [eq_of_mapped (by decide) free first, eq_nil_of_lowerAfter others]

/-- A text in lower case is a star just if it was one before. -/
theorem lowercase_eq_star {s : String} : lowercase s = "*" ↔ s = "*" := by
  constructor
  · intro h
    have texts := congrArg String.toList h
    rw [lowercase, String.toList_ofList] at texts
    exact String.toList_injective (eq_star_of_lowerAfter texts)
  · rintro rfl
    decide

end ClusterPolicy.Text
