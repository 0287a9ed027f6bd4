import ClusterPolicy.Proofs.Collection
import ClusterPolicy.Proofs.CompiledPolicy.Application
import ClusterPolicy.Store

namespace ClusterPolicy

namespace PolicyCollection

theorem map_toCedar?_of_mapM {policies : List CompiledPolicy} {converted : List Cedar.Policy}
    (h : policies.mapM toCedar = .ok converted) :
    policies.map CompiledPolicy.toCedar? = converted.map some := by
  induction policies generalizing converted with
  | nil => cases h; rfl
  | cons p policies ih =>
    rw [List.mapM_cons] at h
    cases hp : p.toCedar? with
    | none => simp only [toCedar, hp] at h; cases h
    | some q =>
      cases others : policies.mapM toCedar with
      | error e => simp only [toCedar, hp, others] at h; cases h
      | ok qs =>
        simp only [toCedar, hp, others] at h
        cases h
        simp [hp, ih others]

theorem ids_of_map_toCedar? {policies : List CompiledPolicy} {converted : List Cedar.Policy}
    (h : policies.map CompiledPolicy.toCedar? = converted.map some) :
    converted.map Cedar.Policy.id = policies.map CompiledPolicy.id := by
  induction policies generalizing converted with
  | nil => simp_all
  | cons p policies ih =>
    cases converted with
    | nil => simp at h
    | cons q converted =>
      obtain ⟨first, others⟩ := List.cons.inj h
      simp [ih others, CompiledPolicy.id_of_toCedar? first]

/-- The engine's policies are those that the collection's policies stand for, in the same order. -/
theorem values_of_toPolicySet {c : PolicyCollection} {set : Cedar.PolicySet}
    (h : c.toPolicySet = .ok set) :
    c.policies.values.map CompiledPolicy.toCedar? = set.values.map some := by
  unfold toPolicySet at h
  cases converted : c.policies.values.mapM toCedar with
  | error e => rw [converted] at h; cases h
  | ok qs =>
    rw [converted] at h
    cases h
    have each := map_toCedar?_of_mapM converted
    have increasing : (qs.map fun q => (q.id, q)).Pairwise (fun a b => a.1 < b.1) := by
      have ordered := List.pairwise_map.mpr c.increasing_ids
      rw [← ids_of_map_toCedar? each, List.pairwise_map] at ordered
      exact List.pairwise_map.mpr ordered
    have values : (SortedMap.ofList (qs.map fun q => (q.id, q))).values = qs := by
      rw [SortedMap.values, SortedMap.entries_ofList increasing, List.map_map]
      exact List.map_id' qs
    rw [each]
    exact congrArg (List.map some) values.symm

end PolicyCollection

namespace Store

theorem ofCollection_of {c : PolicyCollection} {f : CompiledPolicy → Cedar.Policy}
    (h : ∀ p ∈ c.policies.values, p.toCedar? = some (f p)) :
    ofCollection c =
      .ok (ofPolicySet c.name (.ofList (c.policies.values.map fun p => ((f p).id, f p)))) := by
  rw [ofCollection, PolicyCollection.toPolicySet_of h]
  rfl

theorem ofCollection_asCedar {c : PolicyCollection} (h : c.IsProper) :
    ofCollection c = .ok (ofPolicySet c.name c.asCedar) :=
  ofCollection_of fun p hp => CompiledPolicy.toCedar?_of_isProper (h p hp)

/-- A store can be made of policies that can be written. -/
theorem ofCollection_of_isProper {c : PolicyCollection} (h : c.IsProper) :
    ∃ store, ofCollection c = .ok store := ⟨_, ofCollection_asCedar h⟩

section
variable {c : PolicyCollection} {store : Store} (h : ofCollection c = .ok store)
include h

theorem values_of_ofCollection :
    c.policies.values.map CompiledPolicy.toCedar? = store.snapshot.policies.values.map some := by
  unfold ofCollection at h
  cases converted : c.toPolicySet with
  | error e => rw [converted] at h; cases h
  | ok set =>
    rw [converted] at h
    cases h
    exact PolicyCollection.values_of_toPolicySet converted

/-- A store made of a collection holds what its policies stand for. -/
theorem mem_values_of_ofCollection {q : Cedar.Policy} :
    q ∈ store.snapshot.policies.values ↔ ∃ p ∈ c.policies.values, p.toCedar? = some q := by
  rw [← List.mem_map, values_of_ofCollection h]
  simp

theorem mem_values_of_isProper (proper : c.IsProper) {q : Cedar.Policy} :
    q ∈ store.snapshot.policies.values ↔ ∃ p ∈ c.policies.values, p.asCedar = q := by
  rw [mem_values_of_ofCollection h]
  refine exists_congr fun p => and_congr_right fun hp => ?_
  rw [CompiledPolicy.toCedar?_of_isProper (proper p hp), Option.some_inj]

end

end Store

end ClusterPolicy
