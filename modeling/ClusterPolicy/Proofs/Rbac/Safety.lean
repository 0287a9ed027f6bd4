import ClusterPolicy.Proofs.Condition.Answers
import ClusterPolicy.Proofs.Rbac.Extra
import ClusterPolicy.Proofs.Tier.Precedence

/-! The permits of a binding do not fail. The condition of each answers on the kind that its scope lets
through. -/

namespace ClusterPolicy.Rbac

open Cedar (Entities Entity Request)
open Condition (both)
open EntityBuilders (Asker ResourceAttributes)

/-- What a request may be about, as it is built for one. -/
inductive IsBuilt : Entity → Prop
  | resource (attrs : ResourceAttributes) : IsBuilt (EntityBuilders.resource attrs)
  | nonResourceUrl (path : String) : IsBuilt (EntityBuilders.nonResourceUrl path)
  | principalUid (uid : String) : IsBuilt (EntityBuilders.principalUid uid)
  | extra (key : String) (value : Option String) : IsBuilt (EntityBuilders.extra key value)
  | identity {e : Entity} (name : String) (groups : List String)
      (mem : e ∈ EntityBuilders.user name groups) : IsBuilt e

/-- An entity of each type that a permit may be for has the attributes that the permit asks for. -/
structure IsBuilt.Kinds (e : Entity) : Prop where
  resource : e.uid.type = EntityType.resource → ∃ attrs, e = EntityBuilders.resource attrs
  url : e.uid.type = EntityType.nonResourceUrl → ∃ path, e = EntityBuilders.nonResourceUrl path
  extra : e.uid.type = EntityType.extra → ∃ key value, e = EntityBuilders.extra key value
  identity : e.uid.type = EntityType.user ∨ e.uid.type = EntityType.group →
    ∃ name, e.attrs.lookup "name" = some (.string name)

/-- What is built for a request is of one of few types, each with attributes of its own. -/
theorem IsBuilt.kinds {e : Entity} (h : IsBuilt e) : IsBuilt.Kinds e := by
  cases h with
  | resource attrs =>
    exact ⟨fun _ => ⟨attrs, rfl⟩,
      fun type => absurd type (by decide : EntityType.resource ≠ EntityType.nonResourceUrl),
      fun type => absurd type (by decide : EntityType.resource ≠ EntityType.extra),
      fun type => absurd type (by decide : ¬(EntityType.resource = EntityType.user ∨
        EntityType.resource = EntityType.group))⟩
  | nonResourceUrl path =>
    exact ⟨fun type => absurd type (by decide : EntityType.nonResourceUrl ≠ EntityType.resource),
      fun _ => ⟨path, rfl⟩,
      fun type => absurd type (by decide : EntityType.nonResourceUrl ≠ EntityType.extra),
      fun type => absurd type (by decide : ¬(EntityType.nonResourceUrl = EntityType.user ∨
        EntityType.nonResourceUrl = EntityType.group))⟩
  | principalUid uid =>
    exact ⟨fun type => absurd type (by decide : EntityType.principalUid ≠ EntityType.resource),
      fun type => absurd type (by decide : EntityType.principalUid ≠ EntityType.nonResourceUrl),
      fun type => absurd type (by decide : EntityType.principalUid ≠ EntityType.extra),
      fun type => absurd type (by decide : ¬(EntityType.principalUid = EntityType.user ∨
        EntityType.principalUid = EntityType.group))⟩
  | extra key value =>
    have isExtra : (EntityBuilders.extra key value).uid.type = EntityType.extra := type_extra
    refine ⟨?_, ?_, fun _ => ⟨key, value, rfl⟩, ?_⟩ <;> rw [isExtra] <;> intro type
    · exact absurd type (by decide)
    · exact absurd type (by decide)
    · exact absurd type (by decide)
  | identity name groups mem =>
    have known : (e.uid.type = EntityType.user ∨ e.uid.type = EntityType.group) ∧
        ∃ name, e.attrs.lookup "name" = some (.string name) := by
      rcases List.mem_append.mp mem with inGroups | isUser
      · obtain ⟨g, -, rfl⟩ := List.mem_map.mp inGroups
        exact ⟨.inr rfl, g, rfl⟩
      · obtain rfl := List.mem_singleton.mp isUser
        exact ⟨.inl rfl, name, rfl⟩
    obtain ⟨type | type, named⟩ := known
    all_goals
      refine ⟨?_, ?_, ?_, fun _ => named⟩ <;> rw [type] <;> intro other
      · exact absurd other (by decide)
      · exact absurd other (by decide)
      · exact absurd other (by decide)

section
variable {request : Request} {graph : Entities}

/-! ## Principals -/

theorem answers_principals {asker : Asker} (known : asker.KnownTo graph)
    (asks : request.principal = asker.entity.uid) {subject : Subject} {principals : Principals}
    (stands : Principals.of subject = .ok principals)
    (inScope : principals.scope.holds graph request.principal = true) :
    principals.condition.Answers request graph := by
  unfold Principals.of at stands
  split at stands
  · cases stands
    exact Condition.answers_empty
  · cases stands
    simp only [Cedar.Scope.holds, asks, beq_iff_eq] at inScope
    cases asker with
    | user name groups => exact (decides_principalAttr known asks "name" rfl _).answers
    | serviceAccount ns name groups =>
      exact absurd inScope (by decide : EntityType.serviceAccount ≠ EntityType.user)
  · simp only at stands
    split at stands
    · cases stands
    · cases stands
      simp only [Cedar.Scope.holds, asks, beq_iff_eq] at inScope
      cases asker with
      | user name groups =>
        exact absurd inScope (by decide : EntityType.user ≠ EntityType.serviceAccount)
      | serviceAccount ns name groups =>
        exact (decides_principalAttr known asks "namespace" rfl _).answers.both
          (decides_principalAttr known asks "name" rfl _).answers

/-! ## Resources and paths -/

/-- The condition of a permit for resources answers on what such a permit lets through. -/
theorem answers_resourceRuleCondition {attrs : ResourceAttributes}
    (found : graph.find? request.resource = some (EntityBuilders.resource attrs))
    {resources : List String} (nonempty : resources ≠ []) (groups names : List String)
    (ns : Option String) : (resourceRuleCondition groups (reduceWildcard resources) names ns).Answers
      request graph := by
  apply Condition.Answers.all
  intro c mem
  simp only [List.mem_cons, List.not_mem_nil, or_false] at mem
  rcases mem with rfl | rfl | rfl | rfl | rfl
  · unfold apiGroupsCondition
    split
    · exact Condition.answers_empty
    · exact (decides_equalsAny (yields_attr found (EntityBuilders.lookup_apiGroup attrs)) _).answers
  · by_cases wild : "*" ∈ resources
    · rw [reduceWildcard_of_mem wild]
      exact Condition.answers_empty
    · rw [reduceWildcard_of_notMem wild]
      exact (decides_resourcesCondition found (by simpa using nonempty) (by simpa using wild)).answers
  · exact (decides_presentAndAny found (EntityBuilders.lookup_name attrs) _).answers
  · cases ns with
    | none => exact Condition.answers_empty
    | some n => exact (decides_presentAndAny found (EntityBuilders.lookup_namespace attrs) [n]).answers
  · split
    · exact Condition.answers_empty
    · exact (decides_noSubresource found).answers

theorem answers_urlsCondition {path : String}
    (found : graph.find? request.resource = some (EntityBuilders.nonResourceUrl path))
    (urls : List String) : (urlsCondition urls).Answers request graph := by
  have yields : (attr "path").Yields request graph (.string path) := yields_attr found rfl
  unfold urlsCondition
  simp only
  split
  · exact Condition.answers_empty
  · have globs : ∀ c ∈ ((reduceWildcard urls).filter isGlob).map (fun url =>
        Condition.like (attr "path") (.startingWith (String.ofList url.toList.dropLast))),
        c.IsWritable ∧ c.Answers request graph := by
      intro c mem
      obtain ⟨url, -, rfl⟩ := List.mem_map.mp mem
      exact ⟨.inr rfl, (yields.like _).answers⟩
    exact (Condition.Answers.any (fun c mem => (globs c mem).1) fun c mem => (globs c mem).2).either
      (decides_equalsAny yields _).answers (.any fun c mem => (globs c mem).1)
      (isWritable_equalsAny rfl _)

/-! ## Impersonation -/

/-- A target of a kind has what the condition of its kind asks for. -/
theorem Target.answers_condition {e : Entity} (built : IsBuilt e)
    (found : graph.find? request.resource = some e) (about : request.resource = e.uid) {t : Target}
    (type : request.resource.type = t.entityType) (resources names : List String) :
    (t.condition resources names).Answers request graph := by
  rw [about] at type
  cases t with
  | users =>
    obtain ⟨name, named⟩ := built.kinds.identity (.inl type)
    exact (decides_equalsAny (yields_attr found named) names).answers
  | groups =>
    obtain ⟨name, named⟩ := built.kinds.identity (.inr type)
    exact (decides_equalsAny (yields_attr found named) names).answers
  | uids => exact (decides_uidsCondition_reaches names).answers
  | extras =>
    obtain ⟨key, value, rfl⟩ := built.kinds.extra type
    exact (decides_extrasCondition found resources names).answers

section
variable (own : ∀ (t : Target) resources names, request.resource.type = t.entityType →
  (t.condition resources names).Answers request graph)
include own

/-- The type is asked first, so that a condition is asked of its own kind alone. -/
theorem Target.answers_typed (t : Target) (resources names : List String) :
    (both (.is .resource t.entityType) (t.condition resources names)).Answers request graph := by
  refine Condition.Answers.guarded (t.decides_isType request graph) (t.isWritable_condition resources names) ?_
  exact fun same => own t resources names (beq_iff_eq.mp same)

theorem Target.answers_typedCondition (t : Target) (resources names : List String) :
    (t.typedCondition resources names).Answers request graph := by
  by_cases pinned : t = uids ∧ ∃ name, names = [name]
  · obtain ⟨rfl, name, rfl⟩ := pinned
    rw [typedCondition_pinned]
    exact (decides_isUid request graph uids name).answers
  · rw [typedCondition_eq pinned]
    exact t.answers_typed own resources names

theorem Impersonation.answers_of {resources names : List String} {target : Impersonation}
    (made : Impersonation.of resources names = .ok target)
    (inScope : target.resource.holds graph request.resource = true) :
    target.condition.Answers request graph := by
  have typed : ∀ targets : List Target,
      (Condition.any (targets.map (Target.typedCondition resources names))).Answers request graph := by
    intro targets
    refine .any (List.forall_mem_map.mpr fun t _ => t.isWritable_typedCondition resources names) ?_
    exact List.forall_mem_map.mpr fun t _ => t.answers_typedCondition own resources names
  unfold Impersonation.of at made
  split at made
  · cases made
    rw [ofAnyKind]
    simp only
    split
    · exact Condition.answers_empty
    · refine .any ?_ (List.forall_mem_map.mpr fun t _ => t.answers_typed own ["*"] names)
      exact List.forall_mem_map.mpr fun t _ => t.isWritable_is.both (t.isWritable_condition ["*"] names)
  · split at made
    · cases made
    · rename_i t _
      split at made
      · cases made
        exact Condition.answers_empty
      · split at made
        · cases made
          exact own _ resources names (beq_iff_eq.mp inScope)
        · cases made
          exact typed [t]
    · cases made
      exact typed _

end

/-! ## Permits -/

/-- Wherever the scopes of a permit hold, its condition answers. -/
theorem answers_condition_of_mem {settings : Settings} {binding : Binding} {role : Role}
    {ns : Option String} {asker : Asker} {e : Entity} {p : CompiledPolicy}
    (mem : p ∈ (compile settings binding role ns).collection.policies.values)
    (built : IsBuilt e) (known : asker.KnownTo graph) (found : graph.find? e.uid = some e)
    (asks : request.principal = asker.entity.uid) (about : request.resource = e.uid)
    (principal : p.principal.holds graph request.principal = true)
    (resource : p.resource.holds graph request.resource = true) :
    p.condition.Answers request graph := by
  obtain ⟨subject, rule, origin, principals, -, stands, emits⟩ := mem_compile.mp mem
  have found : graph.find? request.resource = some e := about ▸ found
  cases emits with
  | urls =>
    obtain ⟨path, rfl⟩ := built.kinds.url (about ▸ beq_iff_eq.mp resource)
    exact (answers_principals known asks stands principal).both (answers_urlsCondition found _)
  | impersonation _ _ selected =>
    have own : ∀ (t : Target) resources names, request.resource.type = t.entityType →
        (t.condition resources names).Answers request graph :=
      fun t resources names type => t.answers_condition built found about type resources names
    exact (answers_principals known asks stands principal).both
      (Impersonation.answers_of own selected resource)
  | resources complete =>
    obtain ⟨attrs, rfl⟩ := built.kinds.resource (about ▸ beq_iff_eq.mp resource)
    exact (answers_principals known asks stands principal).both
      (answers_resourceRuleCondition found complete.resources _ _ _)

/-- A policy does not fail if its condition answers wherever its scopes hold. -/
theorem fails_eq_false {p : CompiledPolicy} (proper : p.IsProper)
    (answers : p.principal.holds graph request.principal = true →
      p.resource.holds graph request.resource = true → p.condition.Answers request graph) :
    p.asCedar.fails request graph = false := by
  obtain ⟨t, isTest, asked⟩ := CompiledPolicy.allHold_clauses (CompiledPolicy.clauses?_of_isProper proper)
  have answered : ∃ b, p.asCedar.satisfied request graph = .ok b := by
    unfold Cedar.Policy.satisfied
    split
    · rename_i scopes
      simp only [Cedar.Policy.scopesHold, Bool.and_eq_true] at scopes
      obtain ⟨b, t', isTest', isAnswer⟩ := answers scopes.1.1 scopes.2
      cases isTest.symm.trans isTest'
      exact ⟨b, (asked request graph).trans isAnswer⟩
    · exact ⟨false, rfl⟩
  obtain ⟨b, isAnswer⟩ := answered
  simp [Cedar.Policy.fails, isAnswer]

end

/-- A binding's permits can be loaded into a store, and then no permit fails on a request of one who
asks about anything that can be built, whatever the action is. So the store reports no errors, and where
none of its permits applies, it is passed over. The kind of the role is the key of an annotation, which
is written without quotes. -/
theorem errors_eq_nil (settings : Settings) (binding : Binding) (role : Role) (ns : Option String)
    (kind : Cedar.isIdent role.kind.toList = true) (asker : Asker) {e : Entity} (built : IsBuilt e) :
    (∃ store, Store.ofCollection (compile settings binding role ns).collection = .ok store) ∧
    ∀ store request graph,
      Store.ofCollection (compile settings binding role ns).collection = .ok store →
      asker.KnownTo graph → graph.find? e.uid = some e →
      request.principal = asker.entity.uid → request.resource = e.uid →
      (∀ q ∈ store.snapshot.policies.values, q.fails request graph = false) ∧
      (evaluate [store] request graph).errors = [] ∧
      ((∀ q ∈ store.snapshot.policies.values, q.applies request graph = false) →
        ∀ front back, back ≠ [] → evaluate (front ++ store :: back) request graph =
          { evaluate (front ++ back) request graph with
            tier := (evaluate (front ++ back) request graph).tier.map (shifted front.length) }) := by
  have proper : (compile settings binding role ns).collection.IsProper := isProper_compile kind
  refine ⟨Store.ofCollection_of_isProper proper, ?_⟩
  intro store request graph loaded known found asks about
  have sound : ∀ q ∈ store.snapshot.policies.values, q.fails request graph = false := by
    intro q hq
    obtain ⟨p, hp, rfl⟩ := (Store.mem_values_of_isProper loaded proper).mp hq
    exact fails_eq_false (proper p hp) (answers_condition_of_mem hp built known found asks about)
  refine ⟨sound, ?_, ?_⟩
  · have none : (store.snapshot.policies.values.filter fun q => q.fails request graph) = [] := by
      simpa [List.filter_eq_nil_iff] using sound
    rw [evaluate_singleton, TieredResponse.ofStore, Cedar.PolicySet.authorize, none]
    split
    · rfl
    · split <;> rfl
  · intro quiet front back others
    apply evaluate_insert _ others
    rintro ⟨q, hq, applies | fails⟩
    · rw [quiet q hq] at applies
      cases applies
    · rw [sound q hq] at fails
      cases fails

/-- Also the conditions that ask for a name or a key, of one that has neither. -/
theorem errors_eq_nil_uid :
    let binding : Binding := ⟨"deputies", .clusterRoleBinding, ⟨"ClusterRole", "deputy"⟩,
      [⟨.group, "devs", none⟩, ⟨.serviceAccount, "ci", some "build"⟩], none⟩
    let rule : Rule := ⟨["impersonate", "get"], ["authentication.k8s.io"],
      ["users", "userextras/scopes", "pods/log"], ["bob"], []⟩
    let role : Role := ⟨"ClusterRole", "deputy", none, [rule]⟩
    let asker : Asker := .user "alice" ["devs"]
    let uid := EntityBuilders.principalUid "1234"
    let graph : Entities := ⟨asker.entities ++ [uid]⟩
    let request : Request :=
      ⟨asker.entity.uid, EntityBuilders.action impersonateVerb, uid.uid, []⟩
    IsBuilt uid ∧ asker.KnownTo graph ∧ graph.find? uid.uid = some uid ∧ ∃ store,
      Store.ofCollection (compile .default binding role none).collection = .ok store ∧
      (evaluate [store] request graph).errors = [] := by
  intro binding rule role asker uid graph request
  have built : IsBuilt uid := .principalUid "1234"
  have known : asker.KnownTo graph := by
    intro e he
    rcases List.mem_cons.mp he with rfl | he
    · rfl
    · obtain rfl := List.mem_singleton.mp he
      rfl
  obtain ⟨⟨store, loaded⟩, safe⟩ :=
    errors_eq_nil .default binding role none (by decide) asker built
  exact ⟨built, known, rfl, store, loaded, (safe store request graph loaded known rfl rfl rfl).2.1⟩

end ClusterPolicy.Rbac
