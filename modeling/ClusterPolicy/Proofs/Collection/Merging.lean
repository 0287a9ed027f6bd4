import ClusterPolicy.Proofs.Collection

namespace ClusterPolicy.PolicyCollection

/-- No id is taken in both. -/
def Apart (c d : PolicyCollection) : Prop :=
  ∀ id, c.policies.contains id = true → d.policies.contains id = false

/-- A collection that holds what its parts hold, which share no id. -/
structure IsUnion (whole : PolicyCollection) (parts : List PolicyCollection) : Prop where
  apart : parts.Pairwise Apart
  policies : ∀ p, p ∈ whole.policies.values ↔ ∃ part ∈ parts, p ∈ part.policies.values

theorem contains_iff_mem_keys {c : PolicyCollection} {id : String} :
    c.policies.contains id = true ↔ id ∈ c.policies.keys := by
  rw [keys_eq_ids, List.mem_map, SortedMap.contains, Option.isSome_iff_exists]
  simp only [find?_eq_some]

section
variable {c other : PolicyCollection} {others : List PolicyCollection}

theorem find?_merge_of_apart (apart : c.Apart other) : ∃ d, c.merge other = .ok d ∧ d.name = c.name ∧
    ∀ id, d.policies.find? id = (c.policies.find? id).or (other.policies.find? id) := by
  have free : other.policies.keys.find? c.policies.contains = none := by
    rw [List.find?_eq_none]
    intro id mem taken
    have absent := apart id taken
    rw [contains_iff_mem_keys.mpr mem] at absent
    cases absent
  have merged : ∃ d, c.merge other = .ok d ∧ d.name = c.name ∧
      d.policies = c.policies.insertAll other.policies.entries := by
    unfold merge
    rw [free]
    exact ⟨_, rfl, rfl, rfl⟩
  obtain ⟨d, isMerged, name, policies⟩ := merged
  refine ⟨d, isMerged, name, fun id => ?_⟩
  have found : d.policies.find? id = (other.policies.find? id).or (c.policies.find? id) := by
    rw [policies]
    exact SortedMap.find?_insertAll _ (SortedMap.nodup_keys other.policies.increasing) _
  cases here : c.policies.find? id with
  | none => rw [found, here, Option.or_none, Option.none_or]
  | some p =>
    have absent := apart id (by simp [SortedMap.contains, here])
    have free : other.policies.find? id = none := by simpa [SortedMap.contains] using absent
    rw [found, here, free, Option.none_or, Option.some_or]

/-- Collections that share no id are merged, and hold what either holds. -/
theorem merge_of_apart (apart : c.Apart other) : ∃ d, c.merge other = .ok d ∧ d.name = c.name ∧
    ∀ p, p ∈ d.policies.values ↔ p ∈ c.policies.values ∨ p ∈ other.policies.values := by
  obtain ⟨d, isMerged, name, found⟩ := find?_merge_of_apart apart
  refine ⟨d, isMerged, name, fun p => ?_⟩
  rw [mem_values_iff, mem_values_iff, mem_values_iff, found, Option.or_eq_some_iff]
  constructor
  · rintro (inC | ⟨-, inOther⟩)
    · exact .inl inC
    · exact .inr inOther
  · rintro (inC | inOther)
    · exact .inl inC
    · cases here : c.policies.find? p.id with
      | none => exact .inr ⟨rfl, inOther⟩
      | some q =>
        have absent := apart p.id (by simp [SortedMap.contains, here])
        simp [SortedMap.contains, inOther] at absent

/-- The first of the other's ids that is taken is the reason to refuse. -/
theorem merge_of_not_apart (shared : ¬c.Apart other) : ∃ id,
    c.merge other = .error (.duplicatePolicyId c.name id) ∧
    c.policies.contains id = true ∧ other.policies.contains id = true ∧
    ∀ id', c.policies.contains id' = true → other.policies.contains id' = true → id ≤ id' := by
  cases found : other.policies.keys.find? c.policies.contains with
  | none =>
    refine absurd (fun id taken => ?_) shared
    rw [Bool.eq_false_iff]
    intro there
    exact List.find?_eq_none.mp found id (contains_iff_mem_keys.mp there) taken
  | some id =>
    obtain ⟨taken, before, behind, split, free⟩ := List.find?_eq_some_iff_append.mp found
    refine ⟨id, by simp [merge, found], taken, contains_iff_mem_keys.mpr (by simp [split]), ?_⟩
    intro id' taken' there
    have order : other.policies.keys.Pairwise (· < ·) := List.pairwise_map.mpr other.policies.increasing
    have mem := contains_iff_mem_keys.mp there
    rw [split] at order mem
    rcases List.mem_append.mp mem with earlier | later
    · have isFree := free id' earlier
      simp [taken'] at isFree
    · rcases List.mem_cons.mp later with rfl | later
      · exact String.le_refl _
      · exact Std.le_of_lt (List.rel_of_pairwise_cons (List.pairwise_append.mp order).2.1 later)

theorem merge_eq_ok_iff : (∃ d, c.merge other = .ok d) ↔ c.Apart other := by
  constructor
  · rintro ⟨d, merged⟩
    by_contra shared
    obtain ⟨id, refused, -⟩ := merge_of_not_apart shared
    rw [refused] at merged
    cases merged
  · intro apart
    obtain ⟨d, merged, -⟩ := merge_of_apart apart
    exact ⟨d, merged⟩

/-- Those that share no id are taken in one by one. -/
theorem mergeAll_of_apart (apart : (c :: others).Pairwise Apart) :
    ∃ d, c.mergeAll others = .ok d ∧ d.name = c.name ∧ d.IsUnion (c :: others) := by
  induction others generalizing c with
  | nil => exact ⟨c, rfl, rfl, apart, by simp⟩
  | cons other others ih =>
    obtain ⟨fromC, rest⟩ := List.pairwise_cons.mp apart
    obtain ⟨fromOther, later⟩ := List.pairwise_cons.mp rest
    obtain ⟨d, merged, name, policies⟩ := merge_of_apart (fromC other List.mem_cons_self)
    have next : (d :: others).Pairwise Apart := by
      refine List.pairwise_cons.mpr ⟨fun part mem id taken => ?_, later⟩
      obtain ⟨p, found⟩ := Option.isSome_iff_exists.mp taken
      obtain ⟨held, rfl⟩ := find?_eq_some.mp found
      rcases (policies p).mp held with inC | inOther
      · exact fromC part (List.mem_cons_of_mem _ mem) _ (contains_of_mem inC)
      · exact fromOther part mem _ (contains_of_mem inOther)
    obtain ⟨whole, mergedAll, sameName, union⟩ := ih next
    refine ⟨whole, ?_, sameName.trans name, apart, fun p => ?_⟩
    · rw [mergeAll, List.foldlM_cons, merged]
      exact mergedAll
    · rw [union.policies]
      simp only [List.exists_mem_cons_iff, policies, or_assoc]

theorem Apart.symm (apart : c.Apart other) : other.Apart c := by
  intro id there
  rw [Bool.eq_false_iff]
  intro here
  rw [apart id here] at there
  cases there

/-- It does not matter in which order they are taken in. -/
theorem mergeAll_perm {others' : List PolicyCollection} (same : others.Perm others')
    (apart : (c :: others).Pairwise Apart) :
    ∃ d, c.mergeAll others = .ok d ∧ c.mergeAll others' = .ok d := by
  have apart' : (c :: others').Pairwise Apart := (same.cons c).pairwise apart Apart.symm
  obtain ⟨d, merged, name, union⟩ := mergeAll_of_apart apart
  obtain ⟨d', merged', name', union'⟩ := mergeAll_of_apart apart'
  have equal : d = d' := by
    refine ext_values (name.trans name'.symm) fun p => ?_
    rw [union.policies, union'.policies]
    exact exists_congr fun part => and_congr_left' (same.cons c).mem_iff
  exact ⟨d, merged, equal ▸ merged'⟩

end

end ClusterPolicy.PolicyCollection
