import ClusterPolicy.Cedar.Authorization
import ClusterPolicy.Proofs.CompiledPolicy.Reading
import ClusterPolicy.Proofs.Condition.Evaluation

namespace ClusterPolicy

namespace Cedar.Policy

variable {p : Policy} {request : Request} {entities : Entities}

theorem applies_iff_satisfied :
    p.applies request entities = true ↔ p.satisfied request entities = .ok true := by
  unfold applies
  cases p.satisfied request entities <;> simp

theorem fails_iff_satisfied :
    p.fails request entities = true ↔ ∃ error, p.satisfied request entities = .error error := by
  unfold fails
  cases p.satisfied request entities <;> simp

end Cedar.Policy

namespace CompiledPolicy

open Cedar (Clause Entities Request)

structure Applies (p : CompiledPolicy) (request : Request) (entities : Entities) : Prop where
  principal : p.principal.holds entities request.principal = true
  action : p.action.holds entities request.action = true
  resource : p.resource.holds entities request.resource = true
  condition : p.condition.Holds request entities

section
variable {p : CompiledPolicy} {request : Request} {entities : Entities}

/-- The clauses of a condition ask what the condition asks. -/
theorem allHold_clauses {c : Condition} {clauses : List Clause} (h : clauses? c = some clauses) :
    ∃ t, c.test? = some t ∧
      ∀ request entities, Clause.allHold request entities clauses = t request entities := by
  unfold clauses? at h
  split at h
  · cases h
    exact ⟨_, rfl, fun _ _ => rfl⟩
  · obtain ⟨e, he, ⟨⟩⟩ := Option.bind_eq_some_iff.mp h
    refine ⟨e.test, by simp [Condition.test?, he], fun request entities => ?_⟩
    simp only [Clause.allHold, Cedar.Expr.test]
    rcases e.evaluate request entities with _ | v
    · rfl
    · cases v with
      | bool b => cases b <;> rfl
      | _ => rfl

/-- A policy applies where the engine's policy that it stands for does. -/
theorem applies_iff (h : p.IsProper) :
    p.asCedar.applies request entities = true ↔ p.Applies request entities := by
  obtain ⟨t, ht, asked⟩ := allHold_clauses (clauses?_of_isProper h)
  have holds : p.condition.Holds request entities ↔ t request entities = .ok true := by
    refine ⟨?_, fun isTrue => ⟨t, ht, isTrue⟩⟩
    rintro ⟨u, hu, isTrue⟩
    cases ht.symm.trans hu
    exact isTrue
  have whole : p.asCedar.applies request entities = true ↔
      p.asCedar.scopesHold request entities = true ∧ t request entities = .ok true := by
    rw [Cedar.Policy.applies_iff_satisfied, Cedar.Policy.satisfied, asked]
    cases p.asCedar.scopesHold request entities <;> simp
  rw [whole, ← holds, Cedar.Policy.scopesHold, Bool.and_eq_true, Bool.and_eq_true]
  constructor
  · rintro ⟨⟨⟨hp, ha⟩, hr⟩, hc⟩
    exact ⟨hp, ha, hr, hc⟩
  · rintro ⟨hp, ha, hr, hc⟩
    exact ⟨⟨⟨hp, ha⟩, hr⟩, hc⟩

end

end CompiledPolicy

end ClusterPolicy
