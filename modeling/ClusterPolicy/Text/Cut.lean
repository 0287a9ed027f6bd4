namespace ClusterPolicy.Text

/-- What stands before and after the first `sep`. -/
def cut? (sep : Char) : List Char → Option (List Char × List Char)
  | [] => none
  | c :: rest =>
    if c = sep then some ([], rest) else (cut? sep rest).map fun (before, after) => (c :: before, after)

theorem eq_of_cut? {sep : Char} {s before after : List Char} (h : cut? sep s = some (before, after)) :
    s = before ++ sep :: after ∧ sep ∉ before := by
  induction s generalizing before with
  | nil => simp [cut?] at h
  | cons c rest ih =>
    unfold cut? at h
    split at h
    · rename_i same
      simp only [Option.some.injEq, Prod.mk.injEq] at h
      obtain ⟨rfl, rfl⟩ := h
      simp [same]
    · rename_i different
      obtain ⟨⟨b, a⟩, found, h⟩ := Option.map_eq_some_iff.mp h
      simp only [Prod.mk.injEq] at h
      obtain ⟨rfl, rfl⟩ := h
      obtain ⟨rfl, absent⟩ := ih found
      exact ⟨rfl, by simp [Ne.symm different, absent]⟩

theorem cut?_eq_none_iff {sep : Char} {s : List Char} : cut? sep s = none ↔ sep ∉ s := by
  induction s with
  | nil => simp [cut?]
  | cons c rest ih =>
    unfold cut?
    split
    · rename_i same; simp [same]
    · rename_i different; simp [ih, Ne.symm different]

theorem cut?_append {sep : Char} {before : List Char} (absent : sep ∉ before) (after : List Char) :
    cut? sep (before ++ sep :: after) = some (before, after) := by
  induction before with
  | nil => simp [cut?]
  | cons c before ih =>
    simp only [List.mem_cons, not_or] at absent
    obtain ⟨different, absent⟩ := absent
    simp [cut?, Ne.symm different, ih absent]

/-- Only one of the ways to cut at a separator has it in front alone. -/
theorem append_cons_inj {sep : Char} {a b c d : List Char} (hb : sep ∉ b) (hd : sep ∉ d)
    (h : a ++ sep :: b = c ++ sep :: d) : a = c ∧ b = d := by
  have front : cut? sep (b.reverse ++ sep :: a.reverse) = cut? sep (d.reverse ++ sep :: c.reverse) := by
    simpa using congrArg (fun s => cut? sep s.reverse) h
  rw [cut?_append (by simpa using hb), cut?_append (by simpa using hd)] at front
  simpa [and_comm] using front

end ClusterPolicy.Text
