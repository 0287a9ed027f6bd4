import ClusterPolicy.Cedar.Token

namespace ClusterPolicy.Cedar

theorem segments_ne_nil (s : List Char) : segments s ≠ [] := by
  cases s with
  | nil => simp [segments]
  | cons c rest =>
    unfold segments
    split
    · simp
    · simp
    · split <;> simp

/-- A name is its segments with `::` between them. -/
theorem intercalate_segments (s : List Char) : [':', ':'].intercalate (segments s) = s := by
  fun_induction segments s with
  | case1 => rfl
  | case2 rest ih => rw [List.intercalate_cons_of_ne_nil (segments_ne_nil rest), ih]; rfl
  | case3 c rest _ none _ => exact absurd none (segments_ne_nil rest)
  | case4 c rest _ s more found ih =>
    rw [found] at ih
    cases more with
    | nil => simpa using ih
    | cons t more => simpa [List.intercalate_cons_cons] using ih

theorem segments_of_notMem {s : List Char} (plain : ':' ∉ s) : segments s = [s] := by
  induction s with
  | nil => rfl
  | cons c s ih =>
    simp only [List.mem_cons, not_or] at plain
    obtain ⟨first, others⟩ := plain
    rw [segments]
    · rw [ih others]
    · rintro rest rfl
      exact absurd rfl first

theorem segments_append {s : List Char} (plain : ':' ∉ s) (rest : List Char) :
    segments (s ++ ':' :: ':' :: rest) = s :: segments rest := by
  induction s with
  | nil => rfl
  | cons c s ih =>
    simp only [List.mem_cons, not_or] at plain
    obtain ⟨first, others⟩ := plain
    rw [List.cons_append, segments]
    · rw [ih others]
    · rintro rest rfl
      exact absurd rfl first

/-- Parts without a colon are the first segments of what they start. -/
theorem segments_intercalate {parts : List (List Char)} (nonempty : parts ≠ [])
    (plain : ∀ s ∈ parts, ':' ∉ s) (rest : List Char) :
    segments ([':', ':'].intercalate parts ++ ':' :: ':' :: rest) = parts ++ segments rest := by
  induction parts with
  | nil => exact absurd rfl nonempty
  | cons s parts ih =>
    obtain ⟨first, others⟩ := List.forall_mem_cons.mp plain
    cases parts with
    | nil => simpa using segments_append first rest
    | cons t parts =>
      have behind := ih (List.cons_ne_nil t parts) others
      rw [List.intercalate_cons_cons, List.append_assoc, List.append_assoc, List.cons_append,
        List.cons_append, List.nil_append, segments_append first, behind]
      rfl

/-- A name part has no colon. -/
theorem colon_notMem_of_isNameSegment {s : List Char} (h : isNameSegment s = true) : ':' ∉ s := by
  intro mem
  simp only [isNameSegment, Bool.and_eq_true] at h
  obtain ⟨ident, -⟩ := h
  cases s with
  | nil => cases mem
  | cons c s =>
    simp only [isIdent, Bool.and_eq_true, List.all_eq_true] at ident
    rcases List.mem_cons.mp mem with rfl | mem
    · exact absurd ident.1 (by decide)
    · exact absurd (ident.2 _ mem) (by decide)

/-- The identifiers behind the first. -/
def Token.behindPath (segments : List (List Char)) : List Token :=
  segments.flatMap fun s => [.symbol .path, .ident s]

theorem intersperse_cons {α : Type} (sep x : α) (xs : List α) :
    (x :: xs).intersperse sep = x :: xs.flatMap fun y => [sep, y] := by
  induction xs generalizing x with
  | nil => rfl
  | cons y ys ih => simp [ih]

/-- The tokens of a name are its first segment and the others, each behind a `::`. -/
theorem Token.ofName_eq (name : String) : ∃ first more, segments name.toList = first :: more ∧
    ofName name = .ident first :: behindPath more := by
  cases h : segments name.toList with
  | nil => exact absurd h (segments_ne_nil _)
  | cons first more =>
    refine ⟨first, more, rfl, ?_⟩
    simp [ofName, h, intersperse_cons, behindPath, List.flatMap_map]

end ClusterPolicy.Cedar
