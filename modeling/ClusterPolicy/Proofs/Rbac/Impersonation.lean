import ClusterPolicy.Proofs.CompiledPolicy.Statement
import ClusterPolicy.Proofs.Rbac.Match
import ClusterPolicy.Rbac.Impersonation

namespace ClusterPolicy.Rbac

namespace Target

theorem isName_entityType (target : Target) : Cedar.isName target.entityType = true := by
  cases target <;> decide

theorem isWritable_uidsCondition (names : List String) : (uidsCondition names).IsWritable := by
  unfold uidsCondition
  split
  · exact .inl rfl
  · refine .inr ?_
    simp only [Condition.member, Condition.isProper, Condition.resource, Bool.true_and,
      Condition.itemsAreProper_iff]
    exact List.forall_mem_map.mpr fun _ _ => isName_entityType uids

theorem isWritable_condition (resources names : List String) (target : Target) :
    (target.condition resources names).IsWritable := by
  cases target with
  | users | groups => exact isWritable_equalsAny rfl names
  | uids => exact isWritable_uidsCondition names
  | extras => exact .both (isWritable_equalsAny rfl _) (isWritable_presentAndAny "value" names)

theorem isWritable_is (target : Target) :
    (Condition.is .resource target.entityType).IsWritable :=
  .inr (by simp [Condition.isProper, Condition.resource, isName_entityType])

theorem isWritable_typedCondition (resources names : List String) (target : Target) :
    (target.typedCondition resources names).IsWritable := by
  unfold typedCondition
  split
  · have name : Cedar.isName EntityType.principalUid = true := isName_entityType uids
    exact .inr (by simp [Condition.equal, Condition.isProper, Condition.resource, name])
  · apply Condition.IsWritable.all
    intro c hc
    rcases List.mem_cons.mp hc with rfl | hc
    · exact target.isWritable_is
    · exact List.mem_singleton.mp hc ▸ target.isWritable_condition resources names

end Target

namespace Impersonation

theorem isWritable_ofAnyKind (names : List String) : (ofAnyKind names).condition.IsWritable := by
  unfold ofAnyKind
  simp only
  split
  · exact .inl rfl
  · exact .anyOf fun t _ => t.isWritable_is.both (t.isWritable_condition ["*"] names)

/-- Its target can be written too. -/
theorem isWritable_of {resources names : List String} {target : Impersonation}
    (h : Impersonation.of resources names = .ok target) :
    target.condition.IsWritable ∧ CompiledPolicy.scopeIsValid target.resource = true := by
  unfold Impersonation.of at h
  split at h
  · cases h
    exact ⟨isWritable_ofAnyKind names, rfl⟩
  · split at h
    · cases h
    · split at h
      · cases h
        exact ⟨.inl rfl, Target.isName_entityType .uids⟩
      · split at h
        · cases h
          exact ⟨Target.isWritable_condition resources names _, Target.isName_entityType _⟩
        · cases h
          exact ⟨.any (by simpa using Target.isWritable_typedCondition resources names _), rfl⟩
    · cases h
      exact ⟨.anyOf fun kind _ => kind.isWritable_typedCondition resources names, rfl⟩

end Impersonation

end ClusterPolicy.Rbac
