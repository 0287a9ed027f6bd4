import ClusterPolicy.Proofs.Rbac.Compilation
import ClusterPolicy.Proofs.CompiledPolicy.Application

namespace ClusterPolicy.Rbac

open Cedar (Entities EntityUid Request)
open Condition (both)
open EntityBuilders (Asker Knows ResourceAttributes)

/-- A subject stands for one who asks. -/
inductive Subject.Matches : Subject → Asker → Prop
  | group {name : String} {ns : Option String} {asker : Asker} (mem : name ∈ asker.groups) :
      Subject.Matches ⟨.group, name, ns⟩ asker
  | user {name : String} {ns : Option String} {groups : List String} :
      Subject.Matches ⟨.user, name, ns⟩ (.user name groups)
  | serviceAccount {name : String} {ns : Option String} {groups : List String}
      (plainNamespace : ':' ∉ (ns.getD "").toList) (plainName : ':' ∉ name.toList) :
      Subject.Matches ⟨.serviceAccount, name, ns⟩ (.serviceAccount (ns.getD "") name groups)

/-- An entry of a rule's resources stands for a resource itself, or for a subresource. -/
inductive Covers (attrs : ResourceAttributes) : String → Prop
  | whole (plain : '/' ∉ attrs.resource.toList) (alone : attrs.subresource = none) :
      Covers attrs attrs.resource
  | part {parent child s : String} (plain : '/' ∉ parent.toList)
      (name : parent = "*" ∨ attrs.resource = parent) (sub : attrs.subresource = some s)
      (among : child = "*" ∧ s ≠ "" ∨ s = child) : Covers attrs (parent ++ "/" ++ child)

/-- A rule grants a verb on a resource, within a namespace if there is one. -/
structure Rule.Grants (rule : Rule) (ns : Option String) (verb : String)
    (attrs : ResourceAttributes) : Prop where
  noUrls : rule.nonResourceUrls = []
  groups : rule.apiGroups ≠ []
  verb : "*" ∈ rule.verbs ∨ verb ∈ rule.verbs
  group : "*" ∈ rule.apiGroups ∨ attrs.apiGroup ∈ rule.apiGroups
  /-- The entry `*` stands for all resources, but for no subresource -/
  resource : if "*" ∈ rule.resources then attrs.subresource = none
    else ∃ entry ∈ rule.resources, Covers attrs entry
  name : rule.resourceNames = [] ∨ ∃ name ∈ rule.resourceNames, attrs.name = some name
  inside : ∀ n, ns = some n → attrs.namespaceName = some n

/-! ## Principals and actions -/

section
variable {request : Request} {graph : Entities} {asker : Asker} {target : Cedar.Entity} {verb : String}

/-- The one who asks is among the principals. -/
def Principals.Hold (principals : Principals) (request : Request) (graph : Entities) : Prop :=
  principals.scope.holds graph request.principal = true ∧
    principals.condition.Holds request graph

theorem decides_principalAttr (h : asker.KnownTo graph)
    (asks : request.principal = asker.entity.uid) (name : String) {own : String}
    (found : asker.entity.attrs.lookup name = some (.string own)) (value : String) :
    (principalAttr name value).Decides request graph (own == value) := by
  have yields : (Condition.access .principal name).Yields request graph (.string own) := by
    apply (Condition.yields_var .principal).access
    simp [Request.value, Cedar.Value.get, asks, h.find?_entity, Cedar.Value.ofAttr, found]
  exact yields.equalString value

theorem group_holds_iff (h : asker.KnownTo graph)
    (asks : request.principal = asker.entity.uid) (name : String) :
    (⟨.within ⟨EntityType.group, name⟩, .empty⟩ : Principals).Hold request graph ↔
      name ∈ asker.groups := by
  rw [Principals.Hold, asks, Cedar.Scope.holds, h.reaches_group]
  exact and_iff_left Condition.decides_empty

theorem user_holds_iff (h : asker.KnownTo graph)
    (asks : request.principal = asker.entity.uid) (name : String) :
    (⟨.ofType EntityType.user, principalAttr "name" name⟩ : Principals).Hold request graph ↔
      ∃ groups, asker = .user name groups := by
  rw [Principals.Hold, asks, Cedar.Scope.holds, beq_iff_eq]
  cases asker with
  | user own groups =>
    have named := decides_principalAttr h asks "name" rfl name
    rw [named.holds_iff, beq_iff_eq]
    constructor
    · rintro ⟨-, rfl⟩
      exact ⟨groups, rfl⟩
    · rintro ⟨_, same⟩
      cases same
      exact ⟨rfl, rfl⟩
  | serviceAccount space own groups =>
    constructor
    · rintro ⟨type, -⟩
      exact absurd type (by decide : EntityType.serviceAccount ≠ EntityType.user)
    · rintro ⟨_, same⟩
      cases same

theorem serviceAccount_holds_iff (h : asker.KnownTo graph)
    (asks : request.principal = asker.entity.uid) (space name : String) :
    (⟨.ofType EntityType.serviceAccount,
      both (principalAttr "namespace" space) (principalAttr "name" name)⟩ : Principals).Hold
        request graph ↔ ∃ groups, asker = .serviceAccount space name groups := by
  rw [Principals.Hold, asks, Cedar.Scope.holds, beq_iff_eq, Condition.holds_both]
  cases asker with
  | user own groups =>
    constructor
    · rintro ⟨type, -⟩
      exact absurd type (by decide : EntityType.user ≠ EntityType.serviceAccount)
    · rintro ⟨_, same⟩
      cases same
  | serviceAccount place own groups =>
    have placed := decides_principalAttr h asks "namespace" rfl space
    have named := decides_principalAttr h asks "name" rfl name
    rw [placed.holds_iff, named.holds_iff, beq_iff_eq, beq_iff_eq]
    constructor
    · rintro ⟨-, rfl, rfl⟩
      exact ⟨groups, rfl⟩
    · rintro ⟨_, same⟩
      cases same
      exact ⟨rfl, rfl, rfl⟩

/-- The principals of a subject are those that it stands for. -/
theorem principals_hold_iff (h : asker.KnownTo graph)
    (asks : request.principal = asker.entity.uid) {subject : Subject} :
    (∃ principals, Principals.of subject = .ok principals ∧ principals.Hold request graph) ↔
      subject.Matches asker := by
  obtain ⟨kind, name, ns⟩ := subject
  cases kind with
  | group =>
    simp only [Principals.of, Except.ok.injEq, exists_eq_left', group_holds_iff h asks]
    exact ⟨.group, fun (.group mem) => mem⟩
  | user =>
    simp only [Principals.of, Except.ok.injEq, exists_eq_left', user_holds_iff h asks]
    exact ⟨fun ⟨_, same⟩ => same ▸ .user, fun (.user) => ⟨_, rfl⟩⟩
  | serviceAccount =>
    simp only [Principals.of]
    split
    · rename_i colon
      simp only [reduceCtorEq, false_and, exists_false, false_iff]
      intro stands
      cases stands with
      | serviceAccount plainNamespace plainName => simp [plainNamespace, plainName] at colon
    · rename_i plain
      simp only [Bool.or_eq_true, List.contains_eq_mem, decide_eq_true_eq, not_or] at plain
      simp only [Except.ok.injEq, exists_eq_left', serviceAccount_holds_iff h asks]
      constructor
      · rintro ⟨groups, rfl⟩
        exact .serviceAccount plain.1 plain.2
      · exact fun (.serviceAccount _ _) => ⟨_, rfl⟩

/-- The actions of a rule are its verbs. -/
theorem actionScope_holds_iff (h : Knows graph asker target verb) (verbs : List String) :
    (actionScope (reduceWildcard verbs)).holds graph (EntityBuilders.action verb) = true ↔
      "*" ∈ verbs ∨ verb ∈ verbs := by
  by_cases wild : "*" ∈ verbs
  · simp [reduceWildcard_of_mem wild, actionScope, Cedar.ActionScope.holds, wild]
  · rw [reduceWildcard_of_notMem wild, or_iff_right wild, ← @mem_distinct verbs]
    have plain : "*" ∉ distinct verbs := by simpa using wild
    generalize distinct verbs = verbs at plain
    unfold actionScope
    split
    · rename_i only
      have other : only ≠ "*" := by simpa [eq_comm] using plain
      simp [other, Cedar.ActionScope.holds, actionUid, EntityBuilders.action]
    · simp only [Cedar.ActionScope.holds, List.any_eq_true, h.reaches_action]
      simp [actionUid, EntityBuilders.action]

end

/-! ## Resources -/

theorem childAnswer_iff {child s : String} :
    childAnswer child s = true ↔ child = "*" ∧ s ≠ "" ∨ s = child := by
  unfold childAnswer
  split
  · rename_i any
    subst any
    simp only [bne_iff_ne, ne_eq, true_and]
    refine ⟨.inl, fun h => h.elim id ?_⟩
    rintro rfl
    decide
  · rename_i notAny
    simp [notAny]

/-- An entry stands for what its condition asks for, but a plain one for no subresource. -/
theorem covers_iff {attrs : ResourceAttributes} {entry : String} :
    Covers attrs entry ↔ entryAnswer attrs entry = true ∧
      (hasSlash entry = true ∨ attrs.subresource = none) := by
  rw [hasSlash_eq]
  constructor
  · intro covers
    cases covers with
    | whole plain alone => simp [entryAnswer, splitSlash_eq_none.mpr plain, alone]
    | part plain name sub among =>
      simp [entryAnswer, splitSlash_append plain, parentAnswer, name, sub, childAnswer_iff.mpr among]
  · rintro ⟨answered, alone⟩
    cases split : splitSlash entry with
    | none =>
      simp only [entryAnswer, split, beq_iff_eq] at answered
      simp only [split, Option.isSome_none, Bool.false_eq_true, false_or] at alone
      exact answered ▸ .whole (answered ▸ splitSlash_eq_none.mp split) alone
    | some halves =>
      obtain ⟨parent, child⟩ := halves
      obtain ⟨rfl, plain⟩ := eq_of_splitSlash split
      simp only [entryAnswer, split, parentAnswer, Bool.and_eq_true, Bool.or_eq_true, beq_iff_eq,
        Option.any_eq_true_iff_get] at answered
      obtain ⟨name, present, among⟩ := answered
      exact .part plain name (Option.some_get present).symm (childAnswer_iff.mp among)

section
variable {request : Request} {graph : Entities} {attrs : ResourceAttributes}
  (found : graph.find? request.resource = some (EntityBuilders.resource attrs))
include found

/-- The condition for the resources and the guard beside it ask for what the entries stand for. -/
theorem holds_resources {resources : List String} (nonempty : resources ≠ []) :
    (resourcesCondition (reduceWildcard resources)).Holds request graph ∧
      (if (reduceWildcard resources).any hasSlash then Condition.empty else noSubresource).Holds
        request graph ↔
      if "*" ∈ resources then attrs.subresource = none
      else ∃ entry ∈ resources, Covers attrs entry := by
  have guard := (decides_noSubresource found).holds_iff
  by_cases wild : "*" ∈ resources
  · have slash : (["*"] : List String).any hasSlash = false := by decide
    rw [reduceWildcard_of_mem wild, slash, if_pos wild, if_neg Bool.false_ne_true, guard,
      Option.isNone_iff_eq_none]
    exact and_iff_right Condition.decides_empty
  · rw [reduceWildcard_of_notMem wild, if_neg wild]
    have listed : distinct resources ≠ [] := by simpa using nonempty
    have asked := (decides_resourcesCondition found listed (by simpa using wild)).holds_iff
    rw [asked]
    simp only [Bool.or_eq_true, Bool.and_eq_true, List.any_eq_true, List.mem_filter, mem_distinct,
      Option.isNone_iff_eq_none, covers_iff, Bool.not_eq_true']
    by_cases slash : ∃ entry ∈ resources, hasSlash entry = true
    · have children : ((distinct resources).filter hasSlash).isEmpty = false := by
        simpa [List.filter_eq_nil_iff] using slash
      simp only [children, if_pos slash, Bool.false_eq_true, or_false]
      rw [and_iff_left Condition.decides_empty]
      constructor
      · rintro (⟨⟨entry, ⟨mem, -⟩, answered⟩, alone⟩ | ⟨entry, ⟨mem, isChild⟩, answered⟩)
        · exact ⟨entry, mem, answered, .inr alone⟩
        · exact ⟨entry, mem, answered, .inl isChild⟩
      · rintro ⟨entry, mem, answered, isChild | alone⟩
        · exact .inr ⟨entry, ⟨mem, isChild⟩, answered⟩
        · cases isChild : hasSlash entry with
          | true => exact .inr ⟨entry, ⟨mem, isChild⟩, answered⟩
          | false => exact .inl ⟨⟨entry, ⟨mem, isChild⟩, answered⟩, alone⟩
    · have plain : ∀ entry ∈ resources, hasSlash entry = false := by simpa using slash
      have children : ((distinct resources).filter hasSlash).isEmpty = true := by
        simpa [List.filter_eq_nil_iff] using plain
      simp only [children, if_neg slash, guard, Option.isNone_iff_eq_none, or_true, and_true]
      constructor
      · rintro ⟨⟨entry, ⟨mem, -⟩, answered⟩ | ⟨entry, ⟨mem, isChild⟩, -⟩, alone⟩
        · exact ⟨entry, mem, answered, .inr alone⟩
        · exact absurd (plain entry mem) (by simp [isChild])
      · rintro ⟨entry, mem, answered, isChild | alone⟩
        · exact absurd (plain entry mem) (by simp [isChild])
        · exact ⟨.inl ⟨entry, ⟨mem, plain entry mem⟩, answered⟩, alone⟩

theorem holds_apiGroups {groups : List String} (nonempty : groups ≠ []) :
    (apiGroupsCondition (reduceWildcard groups)).Holds request graph ↔
      "*" ∈ groups ∨ attrs.apiGroup ∈ groups := by
  unfold apiGroupsCondition
  split
  · rename_i wild
    rw [isWildcard_reduceWildcard] at wild
    exact iff_of_true Condition.decides_empty (.inl wild)
  · rename_i notWild
    rw [isWildcard_reduceWildcard] at notWild
    have listed : (distinct groups).isEmpty = false := by simpa using nonempty
    rw [reduceWildcard_of_notMem notWild, or_iff_right notWild, ← @mem_distinct groups,
      (decides_equalsAny (yields_attr found (EntityBuilders.lookup_apiGroup attrs)) _).holds_iff,
      listed, Bool.false_or, List.contains_iff_mem]

theorem holds_names (names : List String) :
    (resourceNamesCondition (distinct names)).Holds request graph ↔
      names = [] ∨ ∃ name ∈ names, attrs.name = some name := by
  rw [resourceNamesCondition,
    (decides_presentAndAny found (EntityBuilders.lookup_name attrs) _).holds_iff, Bool.or_eq_true,
    List.isEmpty_iff, distinct_eq_nil]
  apply or_congr_right
  cases attrs.name with
  | none => simp
  | some name => simp [eq_comm]

theorem holds_namespace (ns : Option String) : (namespaceCondition ns).Holds request graph ↔
    ∀ n, ns = some n → attrs.namespaceName = some n := by
  cases ns with
  | none => exact iff_of_true Condition.decides_empty nofun
  | some ns =>
    rw [namespaceCondition,
      (decides_presentAndAny found (EntityBuilders.lookup_namespace attrs) _).holds_iff]
    cases attrs.namespaceName with
    | none => simp
    | some n => simp [eq_comm]

/-- The condition of a rule holds of the resources that the rule grants. -/
theorem holds_resourceRuleCondition {rule : Rule} (complete : rule.IsComplete) {verb : String}
    (ns : Option String) (named : "*" ∈ rule.verbs ∨ verb ∈ rule.verbs) :
    (resourceRuleCondition (reduceWildcard rule.apiGroups) (reduceWildcard rule.resources)
      (distinct rule.resourceNames) ns).Holds request graph ↔ rule.Grants ns verb attrs := by
  have each : (resourceRuleCondition (reduceWildcard rule.apiGroups) (reduceWildcard rule.resources)
      (distinct rule.resourceNames) ns).Holds request graph ↔
      (apiGroupsCondition (reduceWildcard rule.apiGroups)).Holds request graph ∧
      ((resourcesCondition (reduceWildcard rule.resources)).Holds request graph ∧
        (if (reduceWildcard rule.resources).any hasSlash then Condition.empty
          else noSubresource).Holds request graph) ∧
      (resourceNamesCondition (distinct rule.resourceNames)).Holds request graph ∧
      (namespaceCondition ns).Holds request graph := by
    rw [resourceRuleCondition, Condition.holds_all]
    simp only [List.forall_mem_cons, List.not_mem_nil, false_implies, implies_true, and_true]
    tauto
  rw [each, holds_apiGroups found complete.groups, holds_resources found complete.resources,
    holds_names found, holds_namespace found]
  constructor
  · rintro ⟨group, resource, name, inside⟩
    exact ⟨complete.noUrls, complete.groups, named, group, resource, name, inside⟩
  · rintro ⟨-, -, -, group, resource, name, inside⟩
    exact ⟨group, resource, name, inside⟩

end

end ClusterPolicy.Rbac
