import ClusterPolicy.Proofs.Rbac.Grant

/-! What the namespace of a binding keeps out. Paths and identities are in no namespace, and the permits
for them ask for none. -/

namespace ClusterPolicy.Rbac

open Cedar (Entities Request Value)

section
variable {request : Request} {entities : Entities}

/-- A comparison that holds is of an attribute that is there. -/
theorem attr_of_holds_equal {name s : String}
    (h : (Condition.equal (attr name) (.string s)).Holds request entities) :
    ∃ e, entities.find? request.resource = some e ∧ e.attrs.lookup name = some (.string s) := by
  obtain ⟨t, ht, holds⟩ := h
  cases ht
  have compared : (Cedar.Expr.binary .equal (.access (.var .resource) name) (.string s)).evaluate
      request entities = ((Value.entity request.resource).get entities name >>= fun v =>
        .ok (.bool (v.same (.string s)))) := by
    simp only [Cedar.Expr.evaluate]
    rfl
  rw [Cedar.Expr.test, compared] at holds
  cases found : entities.find? request.resource with
  | none =>
    simp only [Value.get, found] at holds
    cases holds
  | some e =>
    refine ⟨e, rfl, ?_⟩
    cases present : e.attrs.lookup name with
    | none =>
      simp only [Value.get, found, Value.ofAttr, present] at holds
      cases holds
    | some v =>
      simp only [Value.get, found, Value.ofAttr, present] at holds
      exact congrArg some (same_string.mp (Except.ok.inj holds))

theorem namespace_of_holds {ns : String}
    (h : (namespaceCondition (some ns)).Holds request entities) :
    ∃ e, entities.find? request.resource = some e ∧
      e.attrs.lookup "namespace" = some (.string ns) :=
  attr_of_holds_equal (Condition.holds_both.mp h).2

end

section
variable {settings : Settings} {binding : Binding} {role : Role} {ns : String}
  {p : CompiledPolicy} {q : Cedar.Policy} {request : Request} {entities : Entities}

/-- A permit of a namespaced binding is for a resource in that namespace, unless it is the permit for a
rule's paths or for the impersonation that a rule grants. The kind of the role is the key of an
annotation, which is written without quotes. -/
theorem namespace_of_applies (kind : Cedar.isIdent role.kind.toList = true)
    (h : p ∈ (compile settings binding role (some ns)).collection.policies.values)
    (converted : p.toCedar? = some q) (applies : q.applies request entities = true) :
    (∃ e, entities.find? request.resource = some e ∧
      e.attrs.lookup "namespace" = some (.string ns)) ∨
    (∃ rule ∈ role.rules, rule.nonResourceUrls ≠ [] ∧
      (∃ origin principals, p = urlPermit origin principals rule) ∧
      request.resource.type = EntityType.nonResourceUrl) ∨
    (∃ rule ∈ role.rules, rule.impersonates settings = true ∧
      (∃ origin principals target, p = impersonationPermit origin principals target) ∧
      request.action = actionUid impersonateVerb) := by
  have proper := isProper_compile kind p h
  obtain rfl := CompiledPolicy.eq_asCedar proper converted
  obtain ⟨subject, rule, origin, principals, place, -, emits⟩ := mem_compile.mp h
  obtain ⟨i, j, -, listed, rfl⟩ := mem_origins.mp place
  have mem : rule ∈ role.rules := List.mem_of_getElem? listed
  obtain ⟨-, action, resource, condition⟩ := (CompiledPolicy.applies_iff proper).mp applies
  cases emits with
  | urls _ urls =>
    have type : request.resource.type = EntityType.nonResourceUrl := by
      simpa [urlPermit, Origin.permit, Cedar.Scope.holds] using resource
    exact .inr (.inl ⟨rule, mem, urls, ⟨_, _, rfl⟩, type⟩)
  | impersonation _ impersonates =>
    have verb : request.action = actionUid impersonateVerb := by
      simpa [impersonationPermit, Origin.permit, Cedar.ActionScope.holds] using action
    exact .inr (.inr ⟨rule, mem, impersonates, ⟨_, _, _, rfl⟩, verb⟩)
  | resources =>
    have whole := (Condition.holds_both.mp condition).2
    exact .inl (namespace_of_holds (Condition.holds_all.mp whole _ (by simp)))

end

theorem namespace_of_applies_pods :
    let binding : Binding :=
      ⟨"b", .roleBinding, ⟨"ClusterRole", "r"⟩, [⟨.group, "devs", none⟩], some "team-a"⟩
    let rule : Rule := ⟨["get"], [""], ["pods"], [], []⟩
    let role : Role := ⟨"ClusterRole", "r", none, [rule]⟩
    let origin : Origin := ⟨binding, role, some "team-a", 0, 0⟩
    let p := resourcePermit origin ⟨.within ⟨EntityType.group, "devs"⟩, .empty⟩ rule
    let pod := EntityBuilders.resource ⟨"", "pods", none, some "team-a", none⟩
    let entities : Entities := ⟨EntityBuilders.user "alice" ["devs"] ++ [pod]⟩
    let request : Request :=
      ⟨⟨EntityType.user, "alice"⟩, EntityBuilders.action "get", pod.uid, []⟩
    p ∈ (compile .default binding role (some "team-a")).collection.policies.values ∧
      p.toCedar? = some p.asCedar ∧ p.asCedar.applies request entities = true ∧
      ((∃ e, entities.find? request.resource = some e ∧
        e.attrs.lookup "namespace" = some (.string "team-a")) ∨
      (∃ rule ∈ role.rules, rule.nonResourceUrls ≠ [] ∧
        (∃ origin principals, p = urlPermit origin principals rule) ∧
        request.resource.type = EntityType.nonResourceUrl) ∨
      (∃ rule ∈ role.rules, rule.impersonates .default = true ∧
        (∃ origin principals target, p = impersonationPermit origin principals target) ∧
        request.action = actionUid impersonateVerb)) := by
  intro binding rule role origin p pod entities request
  have mem : p ∈ (compile .default binding role (some "team-a")).collection.policies.values :=
    mem_compile.mpr ⟨_, _, _, _, mem_origins.mpr ⟨0, 0, rfl, rfl, rfl⟩, rfl,
      .resources ⟨by decide, rfl, by decide, by decide⟩ (by decide)⟩
  have kind : Cedar.isIdent role.kind.toList = true := by decide
  have proper := isProper_compile kind p mem
  have converted : p.toCedar? = some p.asCedar := CompiledPolicy.toCedar?_of_isProper proper
  have applies : p.asCedar.applies request entities = true := by
    refine (CompiledPolicy.applies_iff proper).mpr ⟨by decide, by decide, by decide, ?_⟩
    have found : entities.find? request.resource = some pod := rfl
    have complete : rule.IsComplete := ⟨by decide, rfl, by decide, by decide⟩
    have grants : rule.Grants (some "team-a") "get" ⟨"", "pods", none, some "team-a", none⟩ :=
      ⟨rfl, by decide, .inr (by decide), .inr (by decide), ⟨"pods", by decide, .whole (by decide) rfl⟩,
        .inl rfl, fun n h => h⟩
    exact (holds_resourceRuleCondition found complete _ grants.verb).mpr grants
  exact ⟨mem, converted, applies, namespace_of_applies kind mem converted applies⟩

/-- Paths are in no namespace, and neither are those to be impersonated. -/
theorem applies_outside_namespace :
    let binding : Binding :=
      ⟨"b", .roleBinding, ⟨"ClusterRole", "r"⟩, [⟨.group, "devs", none⟩], some "team-a"⟩
    let reads : Rule := ⟨["get"], [], [], [], ["/healthz"]⟩
    let acts : Rule := ⟨["impersonate"], ["authentication.k8s.io"], ["users"], [], []⟩
    let role : Role := ⟨"ClusterRole", "r", none, [reads, acts]⟩
    let entities : Entities := ⟨EntityBuilders.user "alice" ["devs"] ++
      EntityBuilders.user "bob" [] ++ [EntityBuilders.nonResourceUrl "/healthz"]⟩
    ∀ asked ∈ [("get", ⟨EntityType.nonResourceUrl, "/healthz"⟩),
        ("impersonate", ⟨EntityType.user, "bob"⟩)],
      let request : Request :=
        ⟨⟨EntityType.user, "alice"⟩, EntityBuilders.action asked.1, asked.2, []⟩
      ∃ p ∈ (compile .default binding role (some "team-a")).collection.policies.values, ∃ q,
        p.toCedar? = some q ∧ q.applies request entities = true ∧
          ¬∃ e, entities.find? request.resource = some e ∧
            e.attrs.lookup "namespace" = some (.string "team-a") := by
  intro binding reads acts role entities asked listed request
  have permitted : ∀ p rule j, role.rules[j]? = some rule →
      Emits .default ⟨binding, role, some "team-a", 0, j⟩
        ⟨.within ⟨EntityType.group, "devs"⟩, .empty⟩ rule p →
      p ∈ (compile .default binding role (some "team-a")).collection.policies.values :=
    fun p rule j listed emits =>
      mem_compile.mpr ⟨_, rule, _, _, mem_origins.mpr ⟨0, j, rfl, listed, rfl⟩, rfl, emits⟩
  have proper : (compile .default binding role (some "team-a")).collection.IsProper :=
    isProper_compile (by decide)
  rcases List.mem_cons.mp listed with rfl | listed
  · have mem := permitted _ reads 0 rfl (.urls (by decide) (by decide))
    refine ⟨_, mem, _, CompiledPolicy.toCedar?_of_isProper (proper _ mem),
      (CompiledPolicy.applies_iff (proper _ mem)).mpr ?_, ?_⟩
    · have found : entities.find? request.resource =
          some (EntityBuilders.nonResourceUrl "/healthz") := rfl
      have path : (attr "path").Yields request entities (.string "/healthz") :=
        yields_attr found rfl
      exact ⟨by decide, by decide, by decide, path.equalString "/healthz"⟩
    · rintro ⟨e, found, inside⟩
      cases found
      cases inside
  · obtain rfl := List.mem_singleton.mp listed
    have mem := permitted _ acts 1 rfl
      (.impersonation ⟨by decide, rfl, by decide, by decide⟩ (by decide) rfl)
    refine ⟨_, mem, _, CompiledPolicy.toCedar?_of_isProper (proper _ mem),
      (CompiledPolicy.applies_iff (proper _ mem)).mpr ?_, ?_⟩
    · exact ⟨by decide, by decide, by decide, Condition.decides_empty⟩
    · rintro ⟨e, found, inside⟩
      cases found
      cases inside

end ClusterPolicy.Rbac
