import ClusterPolicy.Cedar.Authorization
import ClusterPolicy.Proofs.Rbac.Impersonation

namespace ClusterPolicy.Rbac

open Cedar (Entities Request Value)
open Condition (both)

namespace Target

/-- The resources of a rule that stand for a kind of target. -/
def IsNamed : Target → String → Prop
  | users, r => r = "users"
  | groups, r => r = "groups"
  | uids, r => r = "uids"
  | extras, r => "userextras".toList <+: r.toList

instance (t : Target) (r : String) : Decidable (t.IsNamed r) :=
  match t with
  | users => inferInstanceAs (Decidable (r = "users"))
  | groups => inferInstanceAs (Decidable (r = "groups"))
  | uids => inferInstanceAs (Decidable (r = "uids"))
  | extras => inferInstanceAs (Decidable ("userextras".toList <+: r.toList))

theorem ofResource?_eq_some {t : Target} {r : String} : ofResource? r = some t ↔ t.IsNamed r := by
  unfold ofResource?
  split
  · cases t <;> decide
  · cases t <;> decide
  · cases t <;> decide
  · rename_i notUsers notGroups notUids
    rw [Option.ite_none_right_eq_some, Option.some.injEq, List.isPrefixOf_iff_prefix]
    cases t with
    | users => exact iff_of_false (fun h => nomatch h.2) notUsers
    | groups => exact iff_of_false (fun h => nomatch h.2) notGroups
    | uids => exact iff_of_false (fun h => nomatch h.2) notUids
    | extras => exact and_iff_left rfl

/-- A kind of target is among the resources if one of them names it. -/
theorem mem_among {t : Target} {resources : List String} :
    t ∈ among resources ↔ ∃ r ∈ resources, t.IsNamed r := by
  rw [among, mem_foldl_new]
  simp [ofResource?_eq_some]

theorem entityType_injective {t u : Target} (h : t.entityType = u.entityType) : t = u := by
  revert h
  cases t <;> cases u <;> decide

/-! ## Answers -/

theorem typedCondition_pinned (resources : List String) (name : String) :
    uids.typedCondition resources [name] =
      .equal .resource (.entity ⟨EntityType.principalUid, name⟩) := rfl

theorem typedCondition_eq {resources names : List String} {t : Target}
    (free : ¬(t = uids ∧ ∃ name, names = [name])) : t.typedCondition resources names =
      both (.is .resource t.entityType) (t.condition resources names) := by
  unfold typedCondition
  split
  · rename_i name
    exact absurd ⟨rfl, name, rfl⟩ free
  · simp [Condition.all]

theorem isProper_is (t : Target) : (Condition.is .resource t.entityType).isProper = true := by
  simp [Condition.isProper, Condition.resource, isName_entityType]

theorem isProper_guarded (resources names : List String) (t : Target) :
    (both (.is .resource t.entityType) (t.condition resources names)).isProper = true := by
  rcases t.isWritable_condition resources names with none | proper
  · rw [none, Condition.both_empty]
    exact t.isProper_is
  · exact Condition.isProper_both t.isProper_is proper

theorem isProper_typedCondition (resources names : List String) (t : Target) :
    (t.typedCondition resources names).isProper = true := by
  by_cases pinned : t = uids ∧ ∃ name, names = [name]
  · obtain ⟨rfl, name, rfl⟩ := pinned
    have type : Cedar.isName EntityType.principalUid = true := isName_entityType uids
    simp [typedCondition_pinned, Condition.equal, Condition.isProper, Condition.resource, type]
  · rw [typedCondition_eq pinned]
    exact t.isProper_guarded resources names

section
variable (request : Request) (graph : Entities) (t : Target)

theorem decides_isType : (Condition.is .resource t.entityType).Decides request graph
    (request.resource.type == t.entityType) :=
  (Condition.yields_var .resource).is t.isName_entityType

theorem decides_isUid (name : String) :
    (Condition.equal .resource (.entity ⟨t.entityType, name⟩)).Decides request graph
      (request.resource == ⟨t.entityType, name⟩) := by
  have uid : (Condition.entity ⟨t.entityType, name⟩).Yields request graph
      (.entity ⟨t.entityType, name⟩) :=
    ⟨.entity ⟨t.entityType, name⟩, by simp [Condition.toExpr?, isName_entityType], rfl⟩
  have asked : (Condition.equal .resource (.entity ⟨t.entityType, name⟩)).Decides request graph _ :=
    (Condition.yields_var .resource).equal uid
  rwa [Request.value, Value.same] at asked

end

section
variable {request : Request} {graph : Entities} {kind : Target}
  (type : request.resource.type = kind.entityType)
include type

theorem decides_is (t : Target) :
    (Condition.is .resource t.entityType).Decides request graph (decide (t = kind)) := by
  have asked := decides_isType request graph t
  have same : (request.resource.type == t.entityType) = decide (t = kind) := by
    rw [type, Bool.eq_iff_iff, beq_iff_eq, decide_eq_true_iff]
    constructor
    · exact fun h => (entityType_injective h).symm
    · rintro rfl
      rfl
  rwa [same] at asked

/-- A condition that is asked after the type has no say on targets of another type. -/
theorem decides_guarded {c : Condition} {b : Bool} {t : Target} (writable : c.IsWritable)
    (own : t = kind → c.Decides request graph b) :
    (both (.is .resource t.entityType) c).Decides request graph (decide (t = kind) && b) :=
  (decides_is type t).guards writable fun isKind => own (of_decide_eq_true isKind)

theorem decides_pinned (t : Target) (name : String) :
    (Condition.equal .resource (.entity ⟨t.entityType, name⟩)).Decides request graph
      (decide (t = kind) && request.resource.id == name) := by
  have asked := decides_isUid request graph t name
  have same : (request.resource == ⟨t.entityType, name⟩) =
      (decide (t = kind) && request.resource.id == name) := by
    rw [Bool.eq_iff_iff, Bool.and_eq_true, decide_eq_true_iff, beq_iff_eq, beq_iff_eq]
    constructor
    · intro same
      rw [same] at type
      exact ⟨entityType_injective type, by rw [same]⟩
    · rintro ⟨rfl, rfl⟩
      rw [← type]
  rwa [same] at asked

variable {resources names : List String} {b : Bool}
  (own : (kind.condition resources names).Decides request graph b)
  (pinned : ∀ name, kind = uids → names = [name] → b = (request.resource.id == name))
include own pinned

/-- Beside other kinds, a condition counts for its own kind alone. -/
theorem decides_typedCondition (t : Target) :
    (t.typedCondition resources names).Decides request graph (decide (t = kind) && b) := by
  by_cases isPinned : t = uids ∧ ∃ name, names = [name]
  · obtain ⟨rfl, name, rfl⟩ := isPinned
    have asked := @decides_pinned request graph kind type uids name
    by_cases isKind : uids = kind
    · rwa [← pinned name isKind.symm rfl] at asked
    · rw [decide_eq_false isKind, Bool.false_and] at asked ⊢
      exact asked
  · rw [typedCondition_eq isPinned]
    apply decides_guarded type (t.isWritable_condition resources names)
    rintro rfl
    exact own

theorem holds_any_typedCondition {targets : List Target} (nonempty : targets ≠ []) :
    (Condition.any (targets.map (typedCondition resources names))).Holds request graph ↔
      kind ∈ targets ∧ b = true := by
  have answered := Condition.Decides.any (fun t _ => t.isProper_typedCondition resources names)
    (fun t _ => decides_typedCondition type own pinned t) nonempty
  rw [answered.holds_iff, List.any_eq_true]
  constructor
  · rintro ⟨t, mem, asked⟩
    obtain ⟨isKind, holds⟩ := Bool.and_eq_true_iff.mp asked
    exact ⟨of_decide_eq_true isKind ▸ mem, holds⟩
  · rintro ⟨mem, rfl⟩
    exact ⟨kind, mem, by simp⟩

end

end Target

namespace Impersonation

/-- The target of a request is one that an impersonation is for. -/
def Selects (request : Request) (graph : Entities) (target : Impersonation) : Prop :=
  target.resource.holds graph request.resource = true ∧ target.condition.Holds request graph

section
variable {request : Request} {graph : Entities} {kind : Target}
  (type : request.resource.type = kind.entityType)
include type

theorem selects_pinned (t : Target) (name : String) :
    (⟨.equal ⟨t.entityType, name⟩, .empty⟩ : Impersonation).Selects request graph ↔
      t = kind ∧ request.resource.id = name := by
  rw [Selects, and_iff_left Condition.decides_empty, Cedar.Scope.holds, beq_iff_eq]
  constructor
  · intro same
    rw [same] at type
    exact ⟨Target.entityType_injective type, by rw [same]⟩
  · rintro ⟨rfl, rfl⟩
    rw [← type]

variable {resources names : List String} {b : Bool}
  (own : (kind.condition resources names).Decides request graph b)
include own

theorem selects_ofType (t : Target) :
    (⟨.ofType t.entityType, t.condition resources names⟩ : Impersonation).Selects request graph ↔
      t = kind ∧ b = true := by
  rw [Selects, Cedar.Scope.holds, beq_iff_eq, type]
  constructor
  · rintro ⟨sameType, holds⟩
    obtain rfl := Target.entityType_injective sameType
    exact ⟨rfl, own.holds_iff.mp holds⟩
  · rintro ⟨rfl, rfl⟩
    exact ⟨rfl, own⟩

/-- Of the identities of any kind, those are meant that have a name. -/
theorem selects_ofAnyKind (wild : resources = ["*"]) : (ofAnyKind names).Selects request graph ↔
    names = [] ∨ kind ≠ .extras ∧ b = true := by
  subst wild
  rw [Selects, ofAnyKind]
  simp only [Cedar.Scope.holds, true_and]
  split
  · rename_i none
    exact iff_of_true Condition.decides_empty (.inl (List.isEmpty_iff.mp none))
  · rename_i named
    rw [or_iff_right fun none => named (List.isEmpty_iff.mpr none)]
    have proper : ∀ t ∈ [Target.users, .groups, .uids],
        (both (.is .resource t.entityType) (t.condition ["*"] names)).isProper = true :=
      fun t _ => t.isProper_guarded ["*"] names
    have answers : ∀ t ∈ [Target.users, .groups, .uids],
        (both (.is .resource t.entityType) (t.condition ["*"] names)).Decides request graph
          (decide (t = kind) && b) := by
      intro t _
      apply Target.decides_guarded type (t.isWritable_condition ["*"] names)
      rintro rfl
      exact own
    rw [(Condition.Decides.any proper answers (by simp)).holds_iff]
    cases kind <;> simp

variable {target : Impersonation} (made : Impersonation.of resources names = .ok target)
  (pinned : ∀ name, kind = .uids → names = [name] → b = (request.resource.id == name))
include made pinned

/-- An impersonation is for the targets of the kinds that are named. -/
theorem selects_of_named (named : resources ≠ ["*"]) :
    target.Selects request graph ↔ (∃ r ∈ resources, kind.IsNamed r) ∧ b = true := by
  rw [← Target.mem_among]
  unfold Impersonation.of isWildcard at made
  simp only [beq_iff_eq, named, ↓reduceIte] at made
  split at made
  · cases made
  · rename_i t alone
    rw [alone, List.mem_singleton]
    split at made
    · rename_i name
      cases made
      refine (@selects_pinned request graph kind type .uids name).trans ?_
      rw [eq_comm, and_congr_right_iff]
      intro isKind
      rw [pinned name isKind rfl, beq_iff_eq]
    · split at made
      · cases made
        rw [selects_ofType type own, eq_comm]
      · cases made
        have asked := Target.holds_any_typedCondition type own pinned (List.cons_ne_nil t [])
        rw [Selects, Cedar.Scope.holds, eq_self_iff_true, true_and]
        simpa using asked
  · rename_i targets several
    cases made
    rw [Selects, Cedar.Scope.holds, eq_self_iff_true, true_and]
    exact Target.holds_any_typedCondition type own pinned fun none => by simp_all

end

section
variable {request : Request} {graph : Entities} {kind : Target} {resources names : List String}
  {b : Bool} {target : Impersonation}

/-- So a rule's impersonation is, where the entry `*` names every kind. -/
theorem selects_iff (type : request.resource.type = kind.entityType)
    (own : (kind.condition (reduceWildcard resources) names).Decides request graph b)
    (made : Impersonation.of (reduceWildcard resources) names = .ok target)
    (pinned : ∀ name, kind = .uids → names = [name] → b = (request.resource.id == name)) :
    target.Selects request graph ↔ if "*" ∈ resources then names = [] ∨ kind ≠ .extras ∧ b = true
      else (∃ r ∈ resources, kind.IsNamed r) ∧ b = true := by
  by_cases wild : "*" ∈ resources
  · rw [if_pos wild]
    rw [reduceWildcard_of_mem wild] at own made
    cases made
    exact selects_ofAnyKind type own rfl
  · have named : reduceWildcard resources ≠ ["*"] := by
      intro alone
      exact wild (isWildcard_reduceWildcard.mp (beq_iff_eq.mpr alone))
    rw [if_neg wild, selects_of_named type own made pinned named, reduceWildcard_of_notMem wild]
    simp only [mem_distinct]

end

end Impersonation

end ClusterPolicy.Rbac
