import ClusterPolicy.Proofs.Cedar.Json
import ClusterPolicy.Proofs.Store

namespace ClusterPolicy.PolicyCollection

/-- The engine takes the collection: under its ids, and under no others, stands what its policies stand
for, which is what their text is read as, one by one or all together. -/
structure IsTaken (c : PolicyCollection) (set : Cedar.PolicySet) : Prop where
  converted : c.toPolicySet = .ok set
  keys : set.keys = c.policies.keys
  size : set.size = c.policies.size
  each : ∀ p ∈ c.policies.values, ∃ q, p.toCedar? = some q ∧ q.id = p.id ∧ set.find? p.id = some q ∧
    ∀ source, parsePolicySet source p.text = .ok (.ofList [(p.id, q)])
  text : ∀ source, parsePolicySet source c.text = .ok set

/-- A policy's own text is that of the collection of it alone. -/
theorem parsePolicySet_policy {p : CompiledPolicy} (h : p.IsProper) (source : String) :
    parsePolicySet source p.text = .ok (.ofList [(p.id, p.asCedar)]) := by
  let alone : PolicyCollection := ⟨"", ⟨[(p.id, p)], List.pairwise_singleton _ _⟩, by simp⟩
  have proper : alone.IsProper := by
    intro q mem
    obtain rfl := List.mem_singleton.mp mem
    exact h
  have text : alone.text = p.text := by
    simp [alone, PolicyCollection.text, SortedMap.values]
  rw [← text]
  exact parsePolicySet_of_isProper proper source

/-- A collection of policies that can be written is taken as it is, and its text is read as what is
taken. -/
theorem exists_isTaken {c : PolicyCollection} (h : c.IsProper) : ∃ set, c.IsTaken set := by
  refine ⟨c.asCedar, toPolicySet_of_isProper h, c.keys_asCedar, ?_, ?_, parsePolicySet_of_isProper h⟩
  · rw [SortedMap.size, entries_asCedar, List.length_map, SortedMap.values, List.length_map]
    rfl
  · intro p hp
    exact ⟨p.asCedar, CompiledPolicy.toCedar?_of_isProper (h p hp), rfl, find?_asCedar hp,
      parsePolicySet_policy (h p hp)⟩

/-! ## The JSON form -/

/-- What is taken is also what the JSON form is read as. -/
theorem encodes_asCedar {c : PolicyCollection} (h : c.IsProper) : c.asCedar.Encodes := by
  intro e mem
  rw [entries_asCedar] at mem
  obtain ⟨p, hp, rfl⟩ := List.mem_map.mp mem
  exact ⟨rfl, CompiledPolicy.encodes_asCedar (h p hp)⟩

theorem toJson_of_isProper {c : PolicyCollection} (h : c.IsProper) :
    c.toJson = .ok c.asCedar.toJson := by
  rw [toJson, toPolicySet_of_isProper h]
  rfl

/-! ## Policies that cannot be written -/

theorem mapM_toCedar_eq_error {policies : List CompiledPolicy} {e : Error}
    (h : policies.mapM toCedar = .error e) :
    ∃ p, policies.find? (fun p => p.toCedar?.isNone) = some p ∧ e = .policyConversion p.id := by
  induction policies with
  | nil => cases h
  | cons p policies ih =>
    rw [List.mapM_cons] at h
    cases first : p.toCedar? with
    | none =>
      simp only [toCedar, first] at h
      cases h
      exact ⟨p, by simp [first], rfl⟩
    | some q =>
      cases others : policies.mapM toCedar with
      | ok qs => simp only [toCedar, first, others] at h; cases h
      | error e' =>
        simp only [toCedar, first, others] at h
        cases h
        obtain ⟨r, found, same⟩ := ih others
        exact ⟨r, by simpa [first] using found, same⟩

theorem toPolicySet_eq_error {c : PolicyCollection} {e : Error} (h : c.toPolicySet = .error e) :
    ∃ p ∈ c.policies.values, p.toCedar? = none ∧ e = .policyConversion p.id ∧
      ∀ q ∈ c.policies.values, q.toCedar? = none → p.id ≤ q.id := by
  have converted : c.policies.values.mapM toCedar = .error e := by
    unfold toPolicySet at h
    cases converted : c.policies.values.mapM toCedar with
    | ok qs => rw [converted] at h; cases h
    | error e' => rw [converted] at h; cases h; rfl
  obtain ⟨p, found, same⟩ := mapM_toCedar_eq_error converted
  obtain ⟨fails, before, behind, split, written⟩ := List.find?_eq_some_iff_append.mp found
  have order := c.increasing_ids
  rw [split] at order ⊢
  refine ⟨p, by simp, by simpa using fails, same, fun q mem unwritten => ?_⟩
  rcases List.mem_append.mp mem with earlier | later
  · have isSome := written q earlier
    simp [unwritten] at isSome
  · rcases List.mem_cons.mp later with rfl | later
    · exact String.le_refl _
    · have behindP := List.rel_of_pairwise_cons (List.pairwise_append.mp order).2.1 later
      exact Std.le_of_lt behindP

/-- The first policy, in the order of the ids, that cannot be written is the error. -/
theorem toPolicySet_eq_error_iff {c : PolicyCollection} {e : Error} : c.toPolicySet = .error e ↔
    ∃ p ∈ c.policies.values, p.toCedar? = none ∧ e = .policyConversion p.id ∧
      ∀ q ∈ c.policies.values, q.toCedar? = none → p.id ≤ q.id := by
  refine ⟨toPolicySet_eq_error, ?_⟩
  rintro ⟨p, hp, unwritten, rfl, least⟩
  cases converted : c.toPolicySet with
  | ok set =>
    have mem := List.mem_map_of_mem (f := CompiledPolicy.toCedar?) hp
    rw [values_of_toPolicySet converted, unwritten] at mem
    simp at mem
  | error e =>
    obtain ⟨q, hq, unwritten', rfl, least'⟩ := toPolicySet_eq_error converted
    rw [String.le_antisymm (least q hq unwritten') (least' p hp unwritten)]

end ClusterPolicy.PolicyCollection
