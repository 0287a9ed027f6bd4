import ClusterPolicy.Proofs.Store
import ClusterPolicy.Tier

namespace ClusterPolicy

open Cedar (Entities Request)

section
variable {store : Store} {request : Request} {entities : Entities}

theorem evaluate_singleton :
    evaluate [store] request entities = .ofStore store 0 request entities := by
  simp [evaluate, evaluateFrom]

theorem applying_ne_nil {set : Cedar.PolicySet} {effect : Cedar.Effect} :
    set.applying effect request entities ≠ [] ↔
      ∃ q ∈ set.values, q.effect = effect ∧ q.applies request entities = true := by
  simp [Cedar.PolicySet.applying, List.filter_eq_nil_iff]

/-- A store allows if a permit applies and no forbid does. -/
theorem verdict_eq_allow_iff : (evaluate [store] request entities).verdict = .allow ↔
    (∀ q ∈ store.snapshot.policies.values, q.effect = .forbid → q.applies request entities = false) ∧
    ∃ q ∈ store.snapshot.policies.values, q.effect = .permit ∧ q.applies request entities = true := by
  have forbids : (∀ q ∈ store.snapshot.policies.values, q.effect = .forbid →
      q.applies request entities = false) ↔
      store.snapshot.policies.applying .forbid request entities = [] := by
    rw [← not_iff_not, ← ne_eq, applying_ne_nil]
    simp
  rw [forbids, ← applying_ne_nil, evaluate_singleton, TieredResponse.ofStore,
    Cedar.PolicySet.authorize]
  generalize store.snapshot.policies.applying .forbid request entities = forbids
  generalize store.snapshot.policies.applying .permit request entities = permits
  cases forbids with
  | cons id ids => simp [TieredResponse.verdict]
  | nil => cases permits <;> simp [TieredResponse.verdict]

/-- Of a proper collection that holds no forbid, a policy that applies is enough. -/
theorem allow_iff_of_permits {c : PolicyCollection} (h : Store.ofCollection c = .ok store)
    (proper : c.IsProper) (permits : ∀ p ∈ c.policies.values, p.effect = .permit) :
    (evaluate [store] request entities).verdict = .allow ↔
      ∃ p ∈ c.policies.values, p.Applies request entities := by
  rw [verdict_eq_allow_iff]
  constructor
  · rintro ⟨-, q, hq, -, applies⟩
    obtain ⟨p, hp, rfl⟩ := (Store.mem_values_of_isProper h proper).mp hq
    exact ⟨p, hp, (CompiledPolicy.applies_iff (proper p hp)).mp applies⟩
  · rintro ⟨p, hp, applies⟩
    constructor
    · intro q hq isForbid
      obtain ⟨r, hr, rfl⟩ := (Store.mem_values_of_isProper h proper).mp hq
      cases (permits r hr).symm.trans isForbid
    · exact ⟨p.asCedar, (Store.mem_values_of_isProper h proper).mpr ⟨p, hp, rfl⟩, permits p hp,
        (CompiledPolicy.applies_iff (proper p hp)).mpr applies⟩

end

end ClusterPolicy
