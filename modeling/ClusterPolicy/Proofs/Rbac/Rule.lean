import ClusterPolicy.Rbac.Rule

namespace ClusterPolicy.Rbac

/-- Taking in what is new, one by one, takes in everything. -/
theorem mem_foldl_new {α : Type} [BEq α] [LawfulBEq α] {item : α} (items seen : List α) :
    item ∈ items.foldl (fun seen item => if seen.contains item then seen else seen ++ [item]) seen ↔
      item ∈ seen ∨ item ∈ items := by
  induction items generalizing seen with
  | nil => simp
  | cons first items ih =>
    rw [List.foldl_cons, ih, List.mem_cons]
    split
    · rename_i known
      have known : first ∈ seen := by simpa using known
      constructor
      · exact Or.imp_right .inr
      · rintro (h | rfl | h)
        · exact .inl h
        · exact .inl known
        · exact .inr h
    · rw [List.mem_append, List.mem_singleton, or_assoc]

section
variable {items : List String} {item : String}

/-- Leaving out repetitions keeps the entries. -/
@[simp] theorem mem_distinct : item ∈ distinct items ↔ item ∈ items :=
  (mem_foldl_new items []).trans (by simp)

theorem nodup_distinct (items : List String) : (distinct items).Nodup := by
  refine List.foldlRecOn items _ List.nodup_nil ?_
  intro seen nodup item _
  split
  · exact nodup
  · rename_i new
    have fresh : item ∉ seen := by simpa using new
    refine List.nodup_append.mpr ⟨nodup, by simp, ?_⟩
    rintro a known b last rfl
    exact fresh (List.mem_singleton.mp last ▸ known)

@[simp] theorem distinct_eq_nil : distinct items = [] ↔ items = [] := by
  simp [List.eq_nil_iff_forall_not_mem]

theorem reduceWildcard_of_mem (h : "*" ∈ items) : reduceWildcard items = ["*"] := by
  simp [reduceWildcard, h]

theorem reduceWildcard_of_notMem (h : "*" ∉ items) : reduceWildcard items = distinct items := by
  simp [reduceWildcard, h]

@[simp] theorem reduceWildcard_eq_nil : reduceWildcard items = [] ↔ items = [] := by
  by_cases h : "*" ∈ items
  · simp [reduceWildcard_of_mem h, List.ne_nil_of_mem h]
  · simp [reduceWildcard_of_notMem h]

/-- A reduced list is a wildcard just if the list has one in it. -/
@[simp] theorem isWildcard_reduceWildcard : isWildcard (reduceWildcard items) = true ↔ "*" ∈ items := by
  by_cases h : "*" ∈ items
  · simp [isWildcard, reduceWildcard_of_mem h, h]
  · simp only [isWildcard, reduceWildcard_of_notMem h, beq_iff_eq, h, iff_false]
    intro alone
    exact h (mem_distinct.mp (alone ▸ List.mem_singleton.mpr rfl))

end

end ClusterPolicy.Rbac
