import ClusterPolicy.Proofs.Rbac.Identity

/-! Who may act with a key of a user's extra data. The keys are read off every resource with a slash,
also off those that stand for no extra data. -/

namespace ClusterPolicy.Rbac

open Cedar (Entities Request)

/-- Resources stand for a key of extra data. Any resource with a slash names its key, whatever stands
before the slash. -/
structure NamesKey (resources : List String) (key : String) : Prop where
  extras : ∃ r ∈ resources, "userextras".toList <+: r.toList
  key : (∀ r ∈ resources, '/' ∉ r.toList) ∨
    ∃ r ∈ resources, ∃ parent, '/' ∉ parent.toList ∧ r = parent ++ "/" ++ key

/-- A rule lets one act with a key of extra data, and with a value if there is one. -/
structure Rule.GrantsExtra (settings : Settings) (rule : Rule) (key : String) (value : Option String) :
    Prop extends rule.Impersonates settings where
  /-- The entry `*` stands for extra data only if no names are asked for -/
  resource : if "*" ∈ rule.resources then rule.resourceNames = [] else NamesKey rule.resources key
  name : rule.resourceNames = [] ∨ ∃ name ∈ rule.resourceNames, value = some name

/-- The keys that resources name, each behind its first slash. -/
def extraKeys (resources : List String) : List String := (resources.filterMap splitSlash).map (·.2)

theorem mem_extraKeys {resources : List String} {key : String} : key ∈ extraKeys resources ↔
    ∃ r ∈ resources, ∃ parent, '/' ∉ parent.toList ∧ r = parent ++ "/" ++ key := by
  simp only [extraKeys, List.mem_map, List.mem_filterMap, Prod.exists, exists_eq_right]
  constructor
  · rintro ⟨parent, r, mem, split⟩
    obtain ⟨rfl, plain⟩ := eq_of_splitSlash split
    exact ⟨_, mem, parent, plain, rfl⟩
  · rintro ⟨_, mem, parent, plain, rfl⟩
    exact ⟨parent, _, mem, splitSlash_append plain key⟩

theorem extraKeys_eq_nil {resources : List String} :
    extraKeys resources = [] ↔ ∀ r ∈ resources, '/' ∉ r.toList := by
  rw [extraKeys, List.map_eq_nil_iff, List.filterMap_eq_nil_iff]
  simp only [splitSlash_eq_none]

section
variable {request : Request} {graph : Entities} {key : String} {value : Option String}

theorem lookup_key : (EntityBuilders.extra key value).attrs.lookup "key" = some (.string key) := by
  cases value <;> rfl

theorem lookup_value :
    (EntityBuilders.extra key value).attrs.lookup "value" = value.map .string := by
  cases value <;> rfl

theorem type_extra : (EntityBuilders.extra key value).uid.type = Target.extras.entityType := by
  cases value <;> rfl

variable (found : graph.find? request.resource = some (EntityBuilders.extra key value))
include found

/-- An extra is asked for its key, and for its value if there are names. -/
theorem decides_extrasCondition (resources names : List String) :
    (Target.extrasCondition resources names).Decides request graph
      (((extraKeys resources).isEmpty || (extraKeys resources).contains key) &&
        (names.isEmpty || value.any names.contains)) := by
  have keyed := decides_equalsAny (yields_attr found lookup_key) (extraKeys resources)
  have valued := decides_presentAndAny found lookup_value names
  exact keyed.both valued

/-- An impersonation is for the keys and values that a rule names. -/
theorem selects_iff_of_extra (type : request.resource.type = Target.extras.entityType)
    {resources names : List String} {target : Impersonation}
    (made : Impersonation.of (reduceWildcard resources) (distinct names) = .ok target) :
    target.Selects request graph ↔
      (if "*" ∈ resources then names = [] else NamesKey resources key) ∧
        (names = [] ∨ ∃ name ∈ names, value = some name) := by
  have own := decides_extrasCondition found (reduceWildcard resources) (distinct names)
  rw [Impersonation.selects_iff type own made nofun]
  by_cases wild : "*" ∈ resources
  · rw [if_pos wild, if_pos wild, distinct_eq_nil]
    constructor
    · rintro (none | ⟨other, -⟩)
      · exact ⟨none, .inl none⟩
      · exact absurd rfl other
    · exact fun h => .inl h.1
  · have valued : value.any (distinct names).contains = true ↔ ∃ name ∈ names, value = some name := by
      cases value <;> simp
    rw [if_neg wild, if_neg wild, reduceWildcard_of_notMem wild, Bool.and_eq_true, Bool.or_eq_true,
      Bool.or_eq_true, List.isEmpty_iff, List.isEmpty_iff, List.contains_iff_mem, extraKeys_eq_nil,
      mem_extraKeys, distinct_eq_nil, valued]
    simp only [mem_distinct]
    constructor
    · rintro ⟨extras, keyed, named⟩
      exact ⟨⟨extras, keyed⟩, named⟩
    · rintro ⟨⟨extras, keyed⟩, named⟩
      exact ⟨extras, keyed, named⟩

end

/-- A binding's permits can be loaded into a store, and then the store lets one act with a key and a
value if a rule that grants both is granted to a subject that stands for the one who asks, and not
otherwise. The kind of the role is the key of an annotation, which is written without quotes. -/
theorem allow_iff_grantsExtra (settings : Settings) (binding : Binding) (role : Role)
    (ns : Option String) (kind : Cedar.isIdent role.kind.toList = true) (key : String)
    (value : Option String) :
    (∃ store, Store.ofCollection (compile settings binding role ns).collection = .ok store) ∧
    ∀ store request graph,
      Store.ofCollection (compile settings binding role ns).collection = .ok store →
      request.action = EntityBuilders.action impersonateVerb →
      request.resource = (EntityBuilders.extra key value).uid →
      graph.find? request.resource = some (EntityBuilders.extra key value) →
      ((evaluate [store] request graph).verdict = .allow ↔
        ∃ subject ∈ binding.subjects, ∃ rule ∈ role.rules,
          (∃ principals, Principals.of subject = .ok principals ∧ principals.Hold request graph) ∧
            rule.GrantsExtra settings key value) := by
  refine ⟨Store.ofCollection_of_isProper (isProper_compile kind), ?_⟩
  intro store request graph loaded acts about found
  have type : request.resource.type = Target.extras.entityType := about ▸ type_extra
  apply allow_iff_of_emits kind loaded
  intro subject rule origin _
  rw [applies_iff_selects type acts, and_congr_right_iff]
  intro _
  constructor
  · rintro ⟨impersonates, target, made, selects⟩
    obtain ⟨resource, name⟩ := (selects_iff_of_extra found type made).mp selects
    exact ⟨impersonates, resource, name⟩
  · rintro ⟨impersonates, resource, name⟩
    have made : ∃ target, Impersonation.of (reduceWildcard rule.resources)
        (distinct rule.resourceNames) = .ok target := by
      by_cases wild : "*" ∈ rule.resources
      · exact Impersonation.exists_of .extras (.inl wild) _
      · rw [if_neg wild] at resource
        exact Impersonation.exists_of .extras (.inr resource.extras) _
    obtain ⟨target, made⟩ := made
    exact ⟨impersonates, target, made, (selects_iff_of_extra found type made).mpr ⟨resource, name⟩⟩

theorem allow_scopes_view :
    let binding : Binding := ⟨"deputies", .clusterRoleBinding, ⟨"ClusterRole", "deputy"⟩,
      [⟨.group, "devs", none⟩], none⟩
    let rule : Rule :=
      ⟨["impersonate"], ["authentication.k8s.io"], ["userextras/scopes"], ["view"], []⟩
    let role : Role := ⟨"ClusterRole", "deputy", none, [rule]⟩
    let extra := EntityBuilders.extra "scopes" (some "view")
    let graph : Entities := ⟨EntityBuilders.user "alice" ["devs"] ++ [extra]⟩
    let request : Request :=
      ⟨⟨EntityType.user, "alice"⟩, EntityBuilders.action impersonateVerb, extra.uid, []⟩
    graph.find? request.resource = some extra ∧ ∃ store,
      Store.ofCollection (compile .default binding role none).collection = .ok store ∧
      (evaluate [store] request graph).verdict = .allow := by
  intro binding rule role extra graph request
  have found : graph.find? request.resource = some extra := rfl
  obtain ⟨⟨store, loaded⟩, meaning⟩ :=
    allow_iff_grantsExtra .default binding role none (by decide) "scopes" (some "view")
  have named : NamesKey rule.resources "scopes" :=
    ⟨⟨"userextras/scopes", by decide, by decide⟩,
      .inr ⟨"userextras/scopes", by decide, "userextras", by decide, rfl⟩⟩
  have grants : rule.GrantsExtra .default "scopes" (some "view") :=
    ⟨⟨rfl, .inr (by decide)⟩, named, .inr ⟨"view", by decide, rfl⟩⟩
  have stands : ∃ principals, Principals.of ⟨.group, "devs", none⟩ = .ok principals ∧
      principals.Hold request graph :=
    ⟨_, rfl, by decide, Condition.decides_empty⟩
  have allowed := (meaning store request graph loaded rfl rfl found).mpr
    ⟨_, List.mem_singleton.mpr rfl, rule, List.mem_singleton.mpr rfl, stands, grants⟩
  exact ⟨found, store, loaded, allowed⟩

/-- Behind the slash of another resource stands a key that is granted too, though no entry for extra
data names it. -/
theorem allow_key_of_pods :
    let binding : Binding := ⟨"deputies", .clusterRoleBinding, ⟨"ClusterRole", "deputy"⟩,
      [⟨.group, "devs", none⟩], none⟩
    let rule : Rule := ⟨["impersonate"], ["authentication.k8s.io"],
      ["userextras/scopes", "pods/team"], [], []⟩
    let role : Role := ⟨"ClusterRole", "deputy", none, [rule]⟩
    let extra := EntityBuilders.extra "team" (some "x")
    let graph : Entities := ⟨EntityBuilders.user "alice" ["devs"] ++ [extra]⟩
    let request : Request :=
      ⟨⟨EntityType.user, "alice"⟩, EntityBuilders.action impersonateVerb, extra.uid, []⟩
    ∃ store, Store.ofCollection (compile .default binding role none).collection = .ok store ∧
      (evaluate [store] request graph).verdict = .allow ∧
      ¬∃ rule ∈ role.rules, "*" ∈ rule.resources ∨
        ∃ r ∈ rule.resources, "userextras".toList <+: r.toList ∧
          ('/' ∉ r.toList ∨ ∃ parent, '/' ∉ parent.toList ∧ r = parent ++ "/" ++ "team") := by
  intro binding rule role extra graph request
  have proper : (compile .default binding role none).collection.IsProper :=
    isProper_compile (by decide)
  obtain ⟨store, loaded⟩ := Store.ofCollection_of_isProper proper
  refine ⟨store, loaded, ?_, ?_⟩
  · have found : graph.find? request.resource = some extra := rfl
    have named : NamesKey rule.resources "team" :=
      ⟨⟨"userextras/scopes", by decide, by decide⟩,
        .inr ⟨"pods/team", by decide, "pods", by decide, rfl⟩⟩
    obtain ⟨target, made⟩ :=
      Impersonation.exists_of .extras (.inr named.extras) (distinct rule.resourceNames)
    have selects := (selects_iff_of_extra found type_extra made).mpr ⟨named, .inl rfl⟩
    have stands : ∃ principals, Principals.of ⟨.group, "devs", none⟩ = .ok principals ∧
        principals.Hold request graph :=
      ⟨_, rfl, by decide, Condition.decides_empty⟩
    rw [allow_iff_of_emits (by decide) loaded fun subject rule origin _ =>
      applies_iff_selects type_extra rfl subject rule origin]
    exact ⟨_, List.mem_singleton.mpr rfl, rule, List.mem_singleton.mpr rfl, stands,
      ⟨rfl, .inr (by decide)⟩, target, made, selects⟩
  · rintro ⟨_, hr, listed⟩
    obtain rfl := List.mem_singleton.mp hr
    rcases listed with wild | ⟨r, mem, starts, named⟩
    · exact absurd wild (by decide)
    · rcases List.mem_cons.mp mem with rfl | mem
      · rcases named with plain | ⟨parent, plain, isParent⟩
        · exact absurd (by decide) plain
        · have halves : splitSlash "userextras/scopes" = some ("userextras", "scopes") := by decide
          rw [isParent, splitSlash_append plain] at halves
          have key : "team" = "scopes" := congrArg Prod.snd (Option.some.inj halves)
          exact absurd key (by decide)
      · obtain rfl := List.mem_singleton.mp mem
        exact absurd starts (by decide)

end ClusterPolicy.Rbac
