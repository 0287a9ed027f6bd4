import ClusterPolicy.Cedar.Evaluation
import ClusterPolicy.Condition
import Mathlib.Data.List.Infix

namespace ClusterPolicy

namespace Cedar.PatternElem

variable {pattern : List PatternElem} {s text : List Char}

/-- A wildcard leaves out some first characters. -/
theorem anySuffix_iff {f : List Char → Bool} :
    anySuffix f s = true ↔ ∃ rest, rest <:+ s ∧ f rest = true := by
  induction s with
  | nil => simp [anySuffix]
  | cons c s ih =>
    rw [anySuffix, Bool.or_eq_true, ih]
    constructor
    · rintro (whole | ⟨rest, suffix, accepted⟩)
      · exact ⟨c :: s, List.suffix_refl _, whole⟩
      · exact ⟨rest, suffix.trans (List.suffix_cons c s), accepted⟩
    · rintro ⟨rest, suffix, accepted⟩
      rcases List.suffix_cons_iff.mp suffix with rfl | suffix
      · exact .inl accepted
      · exact .inr ⟨rest, suffix, accepted⟩

/-- Characters stand for themselves, a star too. -/
theorem accepts_chars : accepts (text.map .char ++ pattern) s = true ↔
    ∃ rest, text ++ rest = s ∧ accepts pattern rest = true := by
  induction text generalizing s with
  | nil => simp
  | cons c text ih =>
    cases s with
    | nil => simp [accepts]
    | cons d s =>
      rw [List.map_cons, List.cons_append, accepts, Bool.and_eq_true, decide_eq_true_iff, ih]
      constructor
      · rintro ⟨rfl, rest, rfl, accepted⟩
        exact ⟨rest, rfl, accepted⟩
      · rintro ⟨rest, same, accepted⟩
        obtain ⟨rfl, rfl⟩ := List.cons.inj same
        exact ⟨rfl, rest, rfl, accepted⟩

theorem accepts_wildcard : accepts [.wildcard] s = true := by
  rw [accepts, anySuffix_iff]
  exact ⟨[], List.nil_suffix, rfl⟩

end Cedar.PatternElem

namespace Pattern

open Cedar.PatternElem (accepts accepts_chars accepts_wildcard anySuffix_iff)

variable {text : String} {s : List Char}

/-- A pattern made of a text asks for it at the start. -/
theorem accepts_startingWith : accepts (startingWith text).elems s = true ↔ text.toList <+: s := by
  have elems : (startingWith text).elems = text.toList.map .char ++ [.wildcard] := by
    simp [startingWith, elems]
  rw [elems, accepts_chars]
  constructor
  · rintro ⟨rest, rfl, -⟩
    exact List.prefix_append _ _
  · rintro ⟨rest, rfl⟩
    exact ⟨rest, rfl, accepts_wildcard⟩

/-- A pattern made of a text asks for it at the end. -/
theorem accepts_endingWith : accepts (endingWith text).elems s = true ↔ text.toList <:+ s := by
  have elems : (endingWith text).elems = .wildcard :: (text.toList.map .char ++ []) := by
    simp [endingWith, elems]
  rw [elems, accepts, anySuffix_iff]
  constructor
  · rintro ⟨rest, suffix, accepted⟩
    obtain ⟨last, rfl, none⟩ := accepts_chars.mp accepted
    rw [accepts, List.isEmpty_iff] at none
    simpa [none] using suffix
  · intro suffix
    exact ⟨text.toList, suffix, accepts_chars.mpr ⟨[], by simp, rfl⟩⟩

/-- A pattern made of a text asks for it anywhere. -/
theorem accepts_containing : accepts (containing text).elems s = true ↔ text.toList <:+: s := by
  have elems : (containing text).elems = .wildcard :: (text.toList.map .char ++ [.wildcard]) := by
    simp [containing, elems]
  rw [elems, accepts, anySuffix_iff, List.infix_iff_prefix_suffix]
  constructor
  · rintro ⟨rest, suffix, accepted⟩
    obtain ⟨more, rfl, -⟩ := accepts_chars.mp accepted
    exact ⟨_, List.prefix_append _ _, suffix⟩
  · rintro ⟨rest, ⟨more, rfl⟩, suffix⟩
    exact ⟨_, suffix, accepts_chars.mpr ⟨more, rfl, accepts_wildcard⟩⟩

end Pattern

end ClusterPolicy
