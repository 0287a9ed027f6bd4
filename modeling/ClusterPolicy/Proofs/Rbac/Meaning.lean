import ClusterPolicy.Proofs.Rbac.Grant
import ClusterPolicy.Proofs.Tier

namespace ClusterPolicy.Rbac

open Cedar (Entities Request Value)
open EntityBuilders (Asker Knows ResourceAttributes)

section
variable (settings : Settings) (request : Request) {graph : Entities} {asker : Asker}
  {attrs : ResourceAttributes} {verb : String}

/-- A verb other than impersonation is granted by the permit for resources alone. -/
theorem applies_iff_of_emits (knows : Knows graph asker (EntityBuilders.resource attrs) verb)
    (asks : request.principal = asker.entity.uid)
    (acts : request.action = EntityBuilders.action verb)
    (about : request.resource = (EntityBuilders.resource attrs).uid)
    (other : verb ≠ impersonateVerb) (subject : Subject) (rule : Rule) (origin : Origin) :
    (∃ principals p, Principals.of subject = .ok principals ∧
      Emits settings origin principals rule p ∧ p.Applies request graph) ↔
      subject.Matches asker ∧ rule.Grants origin.namespaceName verb attrs := by
  have found : graph.find? request.resource = some (EntityBuilders.resource attrs) :=
    about ▸ knows.target
  have type : request.resource.type = EntityType.resource := about ▸ rfl
  rw [← principals_hold_iff knows.asker asks]
  constructor
  · rintro ⟨principals, p, stands, emits, principal, action, resource, condition⟩
    cases emits with
    | urls =>
      exact absurd (type.symm.trans (eq_of_beq resource))
        (by decide : EntityType.resource ≠ EntityType.nonResourceUrl)
    | impersonation =>
      exact absurd (congrArg Cedar.EntityUid.id (acts.symm.trans (eq_of_beq action))) other
    | resources complete =>
      obtain ⟨among, asked⟩ := Condition.holds_both.mp condition
      have named := (actionScope_holds_iff knows rule.verbs).mp (acts ▸ action)
      exact ⟨⟨principals, stands, principal, among⟩,
        (holds_resourceRuleCondition found complete _ named).mp asked⟩
  · rintro ⟨⟨principals, stands, principal, among⟩, grants⟩
    have complete : rule.IsComplete := by
      refine ⟨?_, grants.noUrls, ?_, grants.groups⟩
      · rcases grants.verb with wild | named
        · exact List.ne_nil_of_mem wild
        · exact List.ne_nil_of_mem named
      · have resource := grants.resource
        split at resource
        · rename_i wild
          exact List.ne_nil_of_mem wild
        · obtain ⟨entry, mem, -⟩ := resource
          exact List.ne_nil_of_mem mem
    have more : reduceWildcard rule.verbs ≠ [impersonateVerb] := by
      intro alone
      by_cases wild : "*" ∈ rule.verbs
      · rw [reduceWildcard_of_mem wild] at alone
        exact absurd alone (by decide)
      · have named := mem_distinct.mpr (grants.verb.resolve_left wild)
        rw [← reduceWildcard_of_notMem wild, alone, List.mem_singleton] at named
        exact other named
    refine ⟨principals, _, stands, .resources complete fun h => more h.2, principal, ?_, ?_, ?_⟩
    · rw [acts]
      exact (actionScope_holds_iff knows rule.verbs).mpr grants.verb
    · exact beq_iff_eq.mpr type
    · exact Condition.holds_both.mpr ⟨among,
        (holds_resourceRuleCondition found complete _ grants.verb).mpr grants⟩

end

section
variable {settings : Settings} {binding : Binding} {role : Role} {ns : Option String} {store : Store}
  {request : Request} {graph : Entities}

/-- A store of a binding's permits allows what one of its subjects and one of its rules yield. -/
theorem allow_iff_of_emits {Grants : Subject → Rule → Prop}
    (kind : Cedar.isIdent role.kind.toList = true)
    (loaded : Store.ofCollection (compile settings binding role ns).collection = .ok store)
    (each : ∀ subject rule origin, origin.namespaceName = ns →
      ((∃ principals p, Principals.of subject = .ok principals ∧
        Emits settings origin principals rule p ∧ p.Applies request graph) ↔ Grants subject rule)) :
    (evaluate [store] request graph).verdict = .allow ↔
      ∃ subject ∈ binding.subjects, ∃ rule ∈ role.rules, Grants subject rule := by
  rw [allow_iff_of_permits loaded (isProper_compile kind) fun p hp => effect_compile hp]
  constructor
  · rintro ⟨p, hp, applies⟩
    obtain ⟨subject, rule, origin, principals, place, stands, emits⟩ := mem_compile.mp hp
    obtain ⟨i, j, hi, hj, rfl⟩ := mem_origins.mp place
    have granted := (each subject rule _ rfl).mp ⟨principals, p, stands, emits, applies⟩
    exact ⟨subject, List.mem_of_getElem? hi, rule, List.mem_of_getElem? hj, granted⟩
  · rintro ⟨subject, hs, rule, hr, granted⟩
    obtain ⟨i, hi⟩ := List.getElem?_of_mem hs
    obtain ⟨j, hj⟩ := List.getElem?_of_mem hr
    obtain ⟨principals, p, stands, emits, applies⟩ :=
      (each subject rule ⟨binding, role, ns, i, j⟩ rfl).mpr granted
    exact ⟨p, mem_compile.mpr ⟨subject, rule, _, principals, mem_origins.mpr ⟨i, j, hi, hj, rfl⟩,
      stands, emits⟩, applies⟩

end

/-- What a request is about can be known, a binding's permits can be loaded into a store, and then
the store allows what a rule grants to a subject, and nothing else. The kind of a role is the key of an
annotation, which is written without quotes. -/
theorem allow_iff_grants (settings : Settings) (binding : Binding) (role : Role) (ns : Option String)
    (asker : Asker) (attrs : ResourceAttributes) {verb : String} (other : verb ≠ impersonateVerb) :
    (∃ graph, Entities.ofList? (asker.entities ++ [EntityBuilders.resource attrs]) = some graph ∧
      Knows graph asker (EntityBuilders.resource attrs) verb) ∧
    (Cedar.isIdent role.kind.toList = true →
      (∃ store, Store.ofCollection (compile settings binding role ns).collection = .ok store) ∧
      ∀ store graph context,
        Store.ofCollection (compile settings binding role ns).collection = .ok store →
        Knows graph asker (EntityBuilders.resource attrs) verb →
        ((evaluate [store] ⟨asker.entity.uid, EntityBuilders.action verb,
            (EntityBuilders.resource attrs).uid, context⟩ graph).verdict = .allow ↔
          ∃ subject ∈ binding.subjects, ∃ rule ∈ role.rules,
            subject.Matches asker ∧ rule.Grants ns verb attrs)) := by
  refine ⟨?_, fun kind => ⟨Store.ofCollection_of_isProper (isProper_compile kind), ?_⟩⟩
  · exact EntityBuilders.exists_graph asker verb
      (by decide : EntityBuilders.isTarget EntityType.resource = true)
      (EntityBuilders.agrees_resource attrs) rfl
  · intro store graph context loaded knows
    apply allow_iff_of_emits kind loaded
    rintro subject rule origin rfl
    exact applies_iff_of_emits settings _ knows rfl rfl rfl other subject rule origin

theorem allow_pod_log :
    let binding : Binding := ⟨"viewers", .clusterRoleBinding, ⟨"ClusterRole", "view"⟩,
      [⟨.group, "devs", none⟩], none⟩
    let rule : Rule := ⟨["get", "list"], [""], ["pods", "pods/log"], [], []⟩
    let role : Role := ⟨"ClusterRole", "view", none, [rule]⟩
    let asker : Asker := .user "alice" ["devs"]
    let attrs : ResourceAttributes := ⟨"", "pods", some "log", some "team-a", some "web"⟩
    "get" ≠ impersonateVerb ∧ ∃ store graph,
      Store.ofCollection (compile .default binding role none).collection = .ok store ∧
      Entities.ofList? (asker.entities ++ [EntityBuilders.resource attrs]) = some graph ∧
      (evaluate [store] ⟨asker.entity.uid, EntityBuilders.action "get",
        (EntityBuilders.resource attrs).uid, []⟩ graph).verdict = .allow := by
  intro binding rule role asker attrs
  have other : "get" ≠ impersonateVerb := by decide
  obtain ⟨⟨graph, made, knows⟩, means⟩ :=
    allow_iff_grants .default binding role none asker attrs other
  obtain ⟨⟨store, loaded⟩, meaning⟩ := means (by decide)
  have log : Covers attrs ("pods" ++ "/" ++ "log") := .part (by decide) (.inr rfl) rfl (.inr rfl)
  have grants : rule.Grants none "get" attrs :=
    ⟨rfl, by decide, .inr (by decide), .inr (by decide), ⟨_, by decide, log⟩, .inl rfl, nofun⟩
  have allowed := (meaning store graph [] loaded knows).mpr
    ⟨_, List.mem_singleton.mpr rfl, rule, List.mem_singleton.mpr rfl, .group (by decide), grants⟩
  exact ⟨other, store, graph, loaded, made, allowed⟩

end ClusterPolicy.Rbac
