import ClusterPolicy.Proofs.Rbac.Meaning
import ClusterPolicy.Proofs.Rbac.Target

namespace ClusterPolicy.Rbac

open Cedar (Entities Entity Request Value)
open EntityBuilders (Asker)

/-! ## Permits for impersonation -/

theorem Rule.impersonates_iff {settings : Settings} {rule : Rule} : rule.impersonates settings = true ↔
    ("*" ∈ rule.verbs ∧ "*" ∈ rule.resources ∧ "*" ∈ rule.apiGroups) ∨
      impersonateVerb ∈ reduceWildcard rule.verbs ∧
        settings.authenticationGroup ∈ reduceWildcard rule.apiGroups := by
  simp [Rule.impersonates, isImpersonation, and_assoc]

/-- A rule grants impersonation, of whomever its resources name. -/
structure Rule.Impersonates (settings : Settings) (rule : Rule) : Prop where
  noUrls : rule.nonResourceUrls = []
  granted : ("*" ∈ rule.verbs ∧ "*" ∈ rule.resources ∧ "*" ∈ rule.apiGroups) ∨
    impersonateVerb ∈ reduceWildcard rule.verbs ∧
      settings.authenticationGroup ∈ reduceWildcard rule.apiGroups

theorem Rule.Impersonates.isComplete {settings : Settings} {rule : Rule}
    (h : rule.Impersonates settings) (resources : rule.resources ≠ []) : rule.IsComplete := by
  obtain ⟨noUrls, ⟨verbs, -, groups⟩ | ⟨verbs, groups⟩⟩ := h
  · exact ⟨List.ne_nil_of_mem verbs, noUrls, resources, List.ne_nil_of_mem groups⟩
  · have verbs := List.ne_nil_of_mem verbs
    have groups := List.ne_nil_of_mem groups
    rw [ne_eq, reduceWildcard_eq_nil] at verbs groups
    exact ⟨verbs, noUrls, resources, groups⟩

/-- An impersonation can be made of resources that name a kind of target. -/
theorem Impersonation.exists_of (kind : Target) {resources : List String}
    (named : "*" ∈ resources ∨ ∃ r ∈ resources, kind.IsNamed r) (names : List String) :
    ∃ target, Impersonation.of (reduceWildcard resources) names = .ok target := by
  unfold Impersonation.of
  by_cases wild : isWildcard (reduceWildcard resources) = true
  · exact ⟨_, if_pos wild⟩
  · have plain : "*" ∉ resources := fun mem => wild (isWildcard_reduceWildcard.mpr mem)
    have among : kind ∈ Target.among (reduceWildcard resources) := by
      rw [reduceWildcard_of_notMem plain, Target.mem_among]
      simpa only [mem_distinct] using named.resolve_left plain
    rw [if_neg wild]
    split
    · rename_i none
      simp [none] at among
    · split
      · exact ⟨_, rfl⟩
      · split <;> exact ⟨_, rfl⟩
    · exact ⟨_, rfl⟩

theorem Impersonation.ne_nil_of_of {resources names : List String} {target : Impersonation}
    (h : Impersonation.of (reduceWildcard resources) names = .ok target) : resources ≠ [] := by
  rintro rfl
  cases h

section
variable {settings : Settings} {request : Request} {graph : Entities} {kind : Target}
  (type : request.resource.type = kind.entityType)
include type

/-- Neither the permit for resources nor the one for paths is about an identity. -/
theorem impersonation_of_applies {origin : Origin} {principals : Principals} {rule : Rule}
    {p : CompiledPolicy} (emits : Emits settings origin principals rule p)
    (applies : p.Applies request graph) : rule.Impersonates settings ∧
      ∃ target, Impersonation.of (reduceWildcard rule.resources) (distinct rule.resourceNames) =
        .ok target ∧ p = impersonationPermit origin principals target := by
  have other : kind.entityType ≠ EntityType.resource ∧ kind.entityType ≠ EntityType.nonResourceUrl := by
    cases kind <;> decide
  have resource := applies.resource
  cases emits with
  | urls => exact absurd (type.symm.trans (eq_of_beq resource)) other.2
  | impersonation complete impersonates selected =>
    exact ⟨⟨complete.noUrls, Rule.impersonates_iff.mp impersonates⟩, _, selected, rfl⟩
  | resources => exact absurd (type.symm.trans (eq_of_beq resource)) other.1

/-- Whom a rule lets a subject act as is whom its permit for impersonation selects. -/
theorem applies_iff_selects (acts : request.action = EntityBuilders.action impersonateVerb)
    (subject : Subject) (rule : Rule) (origin : Origin) :
    (∃ principals p, Principals.of subject = .ok principals ∧
      Emits settings origin principals rule p ∧ p.Applies request graph) ↔
      (∃ principals, Principals.of subject = .ok principals ∧ principals.Hold request graph) ∧
        rule.Impersonates settings ∧
        ∃ target, Impersonation.of (reduceWildcard rule.resources) (distinct rule.resourceNames) =
          .ok target ∧ target.Selects request graph := by
  constructor
  · rintro ⟨principals, p, stands, emits, applies⟩
    obtain ⟨impersonates, target, selected, rfl⟩ := impersonation_of_applies type emits applies
    obtain ⟨principal, -, resource, condition⟩ := applies
    obtain ⟨among, asked⟩ := Condition.holds_both.mp condition
    exact ⟨⟨principals, stands, principal, among⟩, impersonates, target, selected, resource, asked⟩
  · rintro ⟨⟨principals, stands, principal, among⟩, impersonates, target, selected, resource, asked⟩
    have complete : rule.IsComplete :=
      impersonates.isComplete (Impersonation.ne_nil_of_of selected)
    have granted : rule.impersonates settings = true := Rule.impersonates_iff.mpr impersonates.granted
    refine ⟨principals, _, stands, .impersonation complete granted selected, principal, ?_, resource,
      Condition.holds_both.mpr ⟨among, asked⟩⟩
    exact beq_iff_eq.mpr acts

end

/-! ## Users, groups and uids -/

/-- A user or a group that goes by its id, or a uid that is in no group. -/
inductive IsIdentity : Target → Entity → Prop
  | user {e : Entity} (type : e.uid.type = EntityType.user)
      (named : e.attrs.lookup "name" = some (.string e.uid.id)) : IsIdentity .users e
  | group {e : Entity} (type : e.uid.type = EntityType.group)
      (named : e.attrs.lookup "name" = some (.string e.uid.id)) : IsIdentity .groups e
  | uid {e : Entity} (type : e.uid.type = EntityType.principalUid) (orphan : e.parents = []) :
      IsIdentity .uids e

/-- A rule lets one act as the identity of a kind that has an id. -/
structure Rule.GrantsIdentity (settings : Settings) (rule : Rule) (kind : Target) (id : String) :
    Prop extends rule.Impersonates settings where
  resource : "*" ∈ rule.resources ∨ ∃ r ∈ rule.resources, kind.IsNamed r
  name : rule.resourceNames = [] ∨ id ∈ rule.resourceNames

section
variable {request : Request} {graph : Entities} {kind : Target} {e : Entity}

theorem IsIdentity.type (h : IsIdentity kind e) : e.uid.type = kind.entityType := by
  cases h with
  | user type | group type | uid type => exact type

theorem IsIdentity.ne_extras (h : IsIdentity kind e) : kind ≠ .extras := by
  rintro rfl
  cases h

/-- Uids are compared as entities, by membership. -/
theorem decides_uidsCondition_reaches (names : List String) :
    (Target.uidsCondition names).Decides request graph (names.isEmpty || names.any fun n =>
      graph.reaches request.resource ⟨EntityType.principalUid, n⟩) := by
  unfold Target.uidsCondition
  split
  · rename_i none
    rw [none, Bool.true_or]
    exact Condition.decides_empty
  · rename_i named
    have uid : ∀ n : String, (Condition.entity ⟨EntityType.principalUid, n⟩).Yields request graph
        (.entity ⟨EntityType.principalUid, n⟩) := by
      intro n
      have name : Cedar.isName EntityType.principalUid = true := Target.isName_entityType .uids
      exact ⟨.entity ⟨EntityType.principalUid, n⟩, by simp [Condition.toExpr?, name], rfl⟩
    have groups : (Value.set (names.map fun n => .entity ⟨EntityType.principalUid, n⟩)).asGroups =
        .ok (names.map fun n => ⟨EntityType.principalUid, n⟩) := by
      rw [Value.asGroups, List.mapM_map]
      exact List.mapM_pure
    have asked : Cedar.Operator.apply graph .member (request.value .resource)
        (.set (names.map fun n => .entity ⟨EntityType.principalUid, n⟩)) =
          .ok (.bool (names.any fun n =>
            graph.reaches request.resource ⟨EntityType.principalUid, n⟩)) := by
      rw [← Function.comp_def (graph.reaches request.resource), ← List.any_map]
      simp only [Cedar.Operator.apply, groups]
      rfl
    have unnamed : names.isEmpty = false := by simpa using named
    rw [unnamed, Bool.false_or]
    exact ((Condition.yields_var .resource).binary
      (Condition.yields_set fun n _ => uid n) asked).decides

/-- A uid that is in no group is itself alone. -/
theorem decides_uidsCondition (orphan : graph.parents request.resource = [])
    (type : request.resource.type = EntityType.principalUid) (names : List String) :
    (Target.uidsCondition names).Decides request graph
      (names.isEmpty || names.contains request.resource.id) := by
  have alone : (names.any fun n => graph.reaches request.resource ⟨EntityType.principalUid, n⟩) =
      names.contains request.resource.id := by
    rw [Bool.eq_iff_iff, List.contains_iff_mem, List.any_eq_true]
    constructor
    · rintro ⟨n, mem, reached⟩
      exact (Entities.reaches_of_orphan orphan).mp reached ▸ mem
    · intro mem
      refine ⟨_, mem, (Entities.reaches_of_orphan orphan).mpr ?_⟩
      rw [← type]
  rw [← alone]
  exact decides_uidsCondition_reaches names

variable (isIdentity : IsIdentity kind e) (found : graph.find? e.uid = some e)
  (about : request.resource = e.uid)
include isIdentity found about

/-- Whatever else a rule lists, an identity is asked for its id. -/
theorem decides_condition_of_isIdentity (resources names : List String) :
    (kind.condition resources names).Decides request graph
      (names.isEmpty || names.contains request.resource.id) := by
  have found : graph.find? request.resource = some e := about ▸ found
  cases isIdentity with
  | user type named | group type named =>
    rw [about]
    exact decides_equalsAny (yields_attr found named) names
  | uid type orphan =>
    exact decides_uidsCondition ((Entities.parents_eq found).trans orphan) (about ▸ type) names

/-- An impersonation is for the identities that a rule names. -/
theorem selects_iff_of_isIdentity {resources names : List String} {target : Impersonation}
    (made : Impersonation.of (reduceWildcard resources) (distinct names) = .ok target) :
    target.Selects request graph ↔ ("*" ∈ resources ∨ ∃ r ∈ resources, kind.IsNamed r) ∧
      (names = [] ∨ e.uid.id ∈ names) := by
  have type : request.resource.type = kind.entityType := about ▸ isIdentity.type
  have own := decides_condition_of_isIdentity isIdentity found about (reduceWildcard resources)
    (distinct names)
  have pinned : ∀ name, kind = .uids → distinct names = [name] →
      ((distinct names).isEmpty || (distinct names).contains request.resource.id) =
        (request.resource.id == name) := by
    intro name _ alone
    simp [alone, beq_eq_decide]
  have named : ((distinct names).isEmpty || (distinct names).contains request.resource.id) = true ↔
      names = [] ∨ e.uid.id ∈ names := by
    simp [about]
  rw [Impersonation.selects_iff type own made pinned, named, distinct_eq_nil]
  by_cases wild : "*" ∈ resources
  · rw [if_pos wild, and_iff_right isIdentity.ne_extras, or_self_left, and_iff_right (.inl wild)]
  · rw [if_neg wild, or_iff_right wild]

end

/-- A binding's permits can be loaded into a store, and then the store lets one act as a user, a group
or a uid if a rule that names it is granted to a subject that stands for the one who asks, and not
otherwise. No permit for resources or for paths applies. The kind of the role is the key of an
annotation, which is written without quotes. -/
theorem allow_iff_grantsIdentity (settings : Settings) (binding : Binding) (role : Role)
    (ns : Option String) (ident : Cedar.isIdent role.kind.toList = true) (asker : Asker)
    {kind : Target} {e : Entity} (isIdentity : IsIdentity kind e) :
    (∃ store, Store.ofCollection (compile settings binding role ns).collection = .ok store) ∧
    ∀ store graph context,
      Store.ofCollection (compile settings binding role ns).collection = .ok store →
      asker.KnownTo graph → graph.find? e.uid = some e →
      let request : Request :=
        ⟨asker.entity.uid, EntityBuilders.action impersonateVerb, e.uid, context⟩
      ((evaluate [store] request graph).verdict = .allow ↔
        ∃ subject ∈ binding.subjects, ∃ rule ∈ role.rules,
          subject.Matches asker ∧ rule.GrantsIdentity settings kind e.uid.id) ∧
      ∀ p ∈ (compile settings binding role ns).collection.policies.values, p.Applies request graph →
        ∃ origin principals target, p = impersonationPermit origin principals target := by
  refine ⟨Store.ofCollection_of_isProper (isProper_compile ident), ?_⟩
  intro store graph context loaded known found request
  have type : request.resource.type = kind.entityType := isIdentity.type
  constructor
  · apply allow_iff_of_emits ident loaded
    intro subject rule origin _
    rw [applies_iff_selects type rfl, principals_hold_iff known rfl, and_congr_right_iff]
    intro _
    constructor
    · rintro ⟨impersonates, target, made, selects⟩
      obtain ⟨resource, name⟩ := (selects_iff_of_isIdentity isIdentity found rfl made).mp selects
      exact ⟨impersonates, resource, name⟩
    · rintro ⟨impersonates, resource, name⟩
      obtain ⟨target, made⟩ := Impersonation.exists_of kind resource (distinct rule.resourceNames)
      refine ⟨impersonates, target, made, ?_⟩
      exact (selects_iff_of_isIdentity isIdentity found rfl made).mpr ⟨resource, name⟩
  · intro p hp applies
    obtain ⟨_, rule, origin, principals, -, -, emits⟩ := mem_compile.mp hp
    obtain ⟨-, target, -, isPermit⟩ := impersonation_of_applies type emits applies
    exact ⟨origin, principals, target, isPermit⟩

theorem allow_act_as_bob :
    let binding : Binding := ⟨"deputies", .clusterRoleBinding, ⟨"ClusterRole", "deputy"⟩,
      [⟨.group, "devs", none⟩], none⟩
    let rule : Rule :=
      ⟨["impersonate"], ["authentication.k8s.io"], ["users", "uids"], ["bob", "carol"], []⟩
    let role : Role := ⟨"ClusterRole", "deputy", none, [rule]⟩
    let asker : Asker := .user "alice" ["devs"]
    let bob := EntityBuilders.member EntityType.user "bob" [("name", "bob")] []
    let graph : Entities := ⟨asker.entities ++ [bob]⟩
    IsIdentity .users bob ∧ asker.KnownTo graph ∧ ∃ store,
      Store.ofCollection (compile .default binding role none).collection = .ok store ∧
      (evaluate [store] ⟨asker.entity.uid, EntityBuilders.action impersonateVerb, bob.uid, []⟩
        graph).verdict = .allow := by
  intro binding rule role asker bob graph
  have isIdentity : IsIdentity .users bob := .user rfl rfl
  have known : asker.KnownTo graph := by
    intro e he
    rcases List.mem_cons.mp he with rfl | he
    · rfl
    · obtain rfl := List.mem_singleton.mp he
      rfl
  obtain ⟨⟨store, loaded⟩, meaning⟩ :=
    allow_iff_grantsIdentity .default binding role none (by decide) asker isIdentity
  have grants : rule.GrantsIdentity .default .users "bob" :=
    ⟨⟨rfl, .inr (by decide)⟩, .inr ⟨"users", by decide, rfl⟩, .inr (by decide)⟩
  have allowed := (meaning store graph [] loaded known rfl).1.mpr
    ⟨_, List.mem_singleton.mpr rfl, rule, List.mem_singleton.mpr rfl, .group (by decide), grants⟩
  exact ⟨isIdentity, known, store, loaded, allowed⟩

end ClusterPolicy.Rbac
