import ClusterPolicy.Proofs.Admission.Emission
import ClusterPolicy.Proofs.Admission.Naming
import ClusterPolicy.Proofs.Collection.Loading
import ClusterPolicy.Proofs.CompiledPolicy.Refusal

/-! When the engine takes what an admission policy compiles to. The compiler skips no rule for its name,
so a type that cannot be named makes the whole collection fail. -/

namespace ClusterPolicy.Admission

open Cedar (keywords)

/-- A rule as a cluster takes it: all groups, or the core group, or a domain; versions and plural
resources are words, and a resource may have a part. -/
structure Rule.IsLegal (rule : Rule) : Prop where
  groups : ∀ group ∈ rule.apiGroups, group = "*" ∨ ∀ label ∈ labels group, IsLabel label
  versions : ∀ version ∈ rule.apiVersions, version = "*" ∨ IsWord version.toList
  resources : ∀ resource ∈ rule.resources,
    resource = "*" ∨ '/' ∈ resource.toList ∨ IsWord resource.toList

def Policy.IsLegal (policy : Policy) : Prop := ∀ rule ∈ policy.rules.getD [], rule.IsLegal

/-- A rule is about all types, or about groups and versions that can be parts of a type. -/
def Rule.IsNameable (rule : Rule) : Prop :=
  rule.IsUntyped ∨ (∀ group ∈ rule.apiGroups, ∀ label ∈ labels group, IsUsable label) ∧
    ∀ version ∈ rule.apiVersions, version ∉ keywords

instance (rule : Rule) : Decidable rule.IsNameable := inferInstanceAs (Decidable (_ ∨ _))

/-- The parts of the types of a legal rule that is about some. -/
theorem Rule.IsLegal.of_typed {rule : Rule} (legal : rule.IsLegal) (typed : rule.IsTyped)
    (whole : ∀ resource ∈ rule.resources, '/' ∉ resource.toList) :
    (∀ group ∈ rule.apiGroups, ∀ label ∈ labels group, IsLabel label) ∧
      (∀ version ∈ rule.apiVersions, IsWord version.toList) ∧
        ∀ resource ∈ rule.resources, IsWord resource.toList := by
  refine ⟨?_, ?_, ?_⟩
  · intro group mem
    refine (legal.groups group mem).resolve_left ?_
    rintro rfl
    exact typed.groups (.inr mem)
  · intro version mem
    refine (legal.versions version mem).resolve_left ?_
    rintro rfl
    exact typed.versions (.inr mem)
  · intro resource mem
    rcases legal.resources resource mem with rfl | part | word
    · exact absurd (.inr mem) typed.resources
    · exact absurd part (whole resource mem)
    · exact word

/-- The types of a legal rule are names if the labels of its groups can be parts of a type and its versions
are not reserved. -/
theorem namesTypes_iff {rule : Rule} (legal : rule.IsLegal) (matchable : rule.IsMatchable) :
    rule.NamesTypes .default ↔ rule.IsNameable := by
  refine or_congr_right' fun some => ?_
  obtain ⟨typed, whole⟩ := matchable.resolve_left some
  obtain ⟨isGroup, isVersion, isResource⟩ := legal.of_typed typed whole
  obtain ⟨groups, versions, resources⟩ := typed
  have each : ∀ group ∈ rule.apiGroups, ∀ version ∈ rule.apiVersions, ∀ resource ∈ rule.resources,
      Cedar.isName (typeName .default group version resource) = true ↔
        (∀ label ∈ labels group, IsUsable label) ∧ version ∉ keywords :=
    fun group inGroups version inVersions resource inResources =>
      isName_typeName (isGroup group inGroups) (isVersion version inVersions)
        (isResource resource inResources)
  obtain ⟨_, hasGroup⟩ := exists_mem_of_not_isAny groups
  obtain ⟨_, hasVersion⟩ := exists_mem_of_not_isAny versions
  obtain ⟨_, hasResource⟩ := exists_mem_of_not_isAny resources
  constructor
  · intro names
    constructor
    · intro group mem
      exact ((each group mem _ hasVersion _ hasResource).mp
        (names group mem _ hasVersion _ hasResource)).1
    · intro version mem
      exact ((each _ hasGroup version mem _ hasResource).mp
        (names _ hasGroup version mem _ hasResource)).2
  · rintro ⟨usable, unreserved⟩ group inGroups version inVersions resource inResources
    exact (each group inGroups version inVersions resource inResources).mpr
      ⟨usable group inGroups, unreserved version inVersions⟩

/-! ## Types that are no names -/

/-- The condition of a refusal begins with its types. -/
theorem exists_conditionLexemes_refusal {typeCondition : Condition} (notEmpty : typeCondition ≠ .empty)
    (names : List String) (condition : Condition) :
    ∃ more, CompiledPolicy.conditionLexemes (refusal typeCondition names condition) =
      [.line 0, .word "when", .blank, .symbol .braceOpen, .blank] ++
        (Condition.enclose (typeCondition.level < 2) typeCondition.lexemes ++ more) := by
  obtain ⟨more, front⟩ := Condition.exists_lexemes_both notEmpty (namesCondition names)
  have some : typeCondition.both (namesCondition names) ≠ .empty := fun none =>
    notEmpty ((Condition.Connective.join_eq_empty .and).mp none).1
  have isAnd : refusal typeCondition names condition =
      .and (typeCondition.both (namesCondition names)) (.not condition) := by
    rw [refusal_eq]
    exact Condition.Connective.join_eq_node .and some (by rintro ⟨⟩) fun _ _ same => nomatch same
  refine ⟨more ++ Condition.spaced (.symbol .and) ++
    Condition.enclose ((Condition.not condition).level < 3) (Condition.not condition).lexemes ++
      [.blank, .symbol .braceClose], ?_⟩
  simp only [isAnd, CompiledPolicy.conditionLexemes, Condition.lexemes, front, List.append_assoc]

theorem exists_first_unnamed {types : List String} (h : ∃ type ∈ types, Cedar.isName type = false) :
    ∃ names type others, types = names ++ type :: others ∧
      (∀ name ∈ names, Cedar.isName name = true) ∧ Cedar.isName type = false := by
  obtain ⟨type, found⟩ := Option.isSome_iff_exists.mp <|
    (List.find?_isSome (p := fun type => !Cedar.isName type)).mpr (by simpa using h)
  obtain ⟨notName, names, others, split, before⟩ := List.find?_eq_some_iff_append.mp found
  exact ⟨names, type, others, split, by simpa using before, by simpa using notName⟩

/-- No policy of a legal rule is taken whose types are not all names. -/
theorem toCedar?_forbid {rule : Rule} (legal : rule.IsLegal) {action : Cedar.ActionScope}
    {resource : Cedar.Scope} {condition typeCondition : Condition} {inferred : List Warning}
    (acts : actionScope? (operations rule.operations) = some action)
    (typed : typeMatch .default rule = .ok ((resource, typeCondition), inferred))
    (unnamed : ¬rule.NamesTypes .default) (name : String) (validation index : Nat) :
    (forbid name validation index action resource
      (refusal typeCondition rule.resourceNames condition)).toCedar? = none := by
  have head := hasProperHead_forbid acts name validation index resource
    (refusal typeCondition rule.resourceNames condition)
  obtain ⟨any, versions, resources, -⟩ | ⟨groups, versions, resources, selects⟩ :=
    typeMatch_eq_ok typed
  · exact absurd (.inl ⟨any, versions, resources⟩) unnamed
  · obtain ⟨-, whole⟩ := (isMatchable_of_typed typed).resolve_left fun any => groups any.1
    obtain ⟨isGroup, isVersion, isResource⟩ := legal.of_typed ⟨groups, versions, resources⟩ whole
    have rough : ∀ type ∈ typeNames .default rule, ∀ s ∈ Cedar.segments type.toList, Cedar.IsRough s := by
      intro type mem
      obtain ⟨group, inGroups, version, inVersions, resource, inResources, rfl⟩ :=
        (mem_typeNames groups versions resources).mp mem
      exact isRough_typeName (isGroup group inGroups) (isVersion version inVersions)
        (isResource resource inResources)
    have other : ∃ type ∈ typeNames .default rule, Cedar.isName type = false := by
      by_contra all
      refine unnamed (.inr fun group inGroups version inVersions resource inResources => ?_)
      by_contra notName
      exact all ⟨_, (mem_typeNames groups versions resources).mpr
        ⟨group, inGroups, version, inVersions, resource, inResources, rfl⟩,
          Bool.eq_false_iff.mpr notName⟩
    rcases selects with ⟨type, single, about, -⟩ | ⟨several, anything, rfl⟩
    · obtain ⟨_, mem, notName⟩ := other
      obtain rfl := List.mem_singleton.mp (single ▸ mem)
      exact CompiledPolicy.toCedar?_ofType head (rough _ mem) notName about
    · -- The tests of names that stand before the first type that is none are read.
      obtain ⟨names, type, others, split, isNames, notName⟩ := exists_first_unnamed other
      have nonempty : typeNames .default rule ≠ [] := by simp [split]
      have level := Condition.level_tests nonempty several
      have notEmpty : Condition.any ((typeNames .default rule).map (Condition.is .resource)) ≠ .empty := by
        intro none
        rw [none] at level
        cases level
      obtain ⟨more, lexemes⟩ :=
        exists_conditionLexemes_refusal notEmpty rule.resourceNames condition
      rw [level, split, Condition.lexemes_tests] at lexemes
      refine CompiledPolicy.toCedar?_tests head (rough type (by simp [split])) notName anything
        (others.flatMap Condition.orTestLexemes ++ .symbol .parenClose :: more) isNames ?_ ?_
      · simpa [forbid, Condition.enclose, split] using lexemes
      · rw [List.append_assoc, List.cons_append]
        exact Condition.endsType_tests others _

/-! ## Policies -/

/-- What is emitted for a legal rule can be written exactly if the rule's types are names. -/
theorem Emits.exists_rule {policy : Policy} (legal : policy.IsLegal) {validation index : Nat}
    {p : CompiledPolicy} (h : Emits .default policy validation index p) :
    ∃ rules rule, policy.rules = some rules ∧ rules[index]? = some rule ∧ rule.IsLegal ∧
      p.id = policyId policy.name validation index ∧ (rule.NamesTypes .default → p.IsProper) ∧
      (¬rule.NamesTypes .default → p.toCedar? = none) := by
  obtain @⟨rules, rule, _, _, _, _, _, _, _, given, listed, stated, compiled, acts, typed⟩ := h
  have proper := isProper_of_validationCondition compiled
  have isLegal : rule.IsLegal := by
    apply legal
    rw [given]
    exact List.mem_of_getElem? listed
  refine ⟨rules, rule, given, listed, isLegal, rfl, ?_, ?_⟩
  · intro names
    exact isProper_forbid acts typed names proper policy.name validation index
  · intro unnamed
    exact toCedar?_forbid isLegal acts typed unnamed policy.name validation index

section
variable {policy : Policy} {validation index : Nat} {rule : Rule} (legal : policy.IsLegal)
include legal

/-- What a validation and a rule yield. -/
theorem Yields.exists_policy (h : Yields policy validation index rule) :
    ∃ p ∈ (compile .default policy).collection.policies.values,
      p.id = policyId policy.name validation index ∧ (rule.IsNameable → p.IsProper) ∧
        (p.toCedar? = none ↔ ¬rule.IsNameable) := by
  have kept : (compile .default policy).collection.policies.contains
      (policyId policy.name validation index) = true :=
    contains_compile.mpr ⟨validation, index, rule, h, rfl⟩
  obtain ⟨p, found⟩ := Option.isSome_iff_exists.mp kept
  obtain ⟨rules, rule', given, listed, isLegal, id, proper, refused⟩ :=
    (emits_of_find? found).exists_rule legal
  obtain ⟨-, _, given', reaches⟩ := h
  obtain rfl := Option.some.inj (given.symm.trans given')
  obtain rfl := Option.some.inj (listed.symm.trans (List.mem_zipIdx_iff_getElem?.mp reaches.mem))
  rw [namesTypes_iff isLegal reaches.isMatchable] at proper refused
  refine ⟨p, PolicyCollection.mem_values_iff.mpr (id ▸ found), id, proper, ?_, refused⟩
  intro unwritten nameable
  rw [CompiledPolicy.toCedar?_of_isProper (proper nameable)] at unwritten
  cases unwritten

/-- What a policy of the collection comes from. -/
theorem exists_yields {p : CompiledPolicy}
    (mem : p ∈ (compile .default policy).collection.policies.values) :
    ∃ validation index rule, Yields policy validation index rule ∧
      p.id = policyId policy.name validation index ∧ (rule.IsNameable → p.IsProper) ∧
        (p.toCedar? = none ↔ ¬rule.IsNameable) := by
  have found := PolicyCollection.mem_values_iff.mp mem
  obtain ⟨validation, index, rule, yields, id⟩ :=
    contains_compile.mp (PolicyCollection.contains_of_mem mem)
  obtain ⟨q, hq, id', written⟩ := yields.exists_policy legal
  have same : q = p := by
    rw [PolicyCollection.mem_values_iff, id', ← id, found] at hq
    exact (Option.some.inj hq).symm
  subst same
  exact ⟨validation, index, rule, yields, id, written⟩

end

/-- The engine takes a legal policy's collection if the types of all that yields a policy can be named,
and otherwise takes nothing: the first policy of a rule whose types cannot be is the error. -/
theorem isTaken_compile_iff {policy : Policy} (legal : policy.IsLegal) :
    ((∃ set, (compile .default policy).collection.IsTaken set) ↔
      ∀ validation index rule, Yields policy validation index rule → rule.IsNameable) ∧
    ∀ e, (compile .default policy).collection.toPolicySet = .error e ↔
      ∃ validation index rule, Yields policy validation index rule ∧ ¬rule.IsNameable ∧
        e = .policyConversion (policyId policy.name validation index) ∧
        ∀ validation' index' rule', Yields policy validation' index' rule' →
          ¬rule'.IsNameable →
            policyId policy.name validation index ≤ policyId policy.name validation' index' := by
  constructor
  · constructor
    · rintro ⟨set, taken⟩ validation index rule yields
      obtain ⟨p, hp, -, -, written⟩ := yields.exists_policy legal
      obtain ⟨q, converted, -⟩ := taken.each p hp
      by_contra unnamed
      rw [written.mpr unnamed] at converted
      cases converted
    · intro nameable
      apply PolicyCollection.exists_isTaken
      intro p hp
      obtain ⟨validation, index, rule, yields, -, proper, -⟩ := exists_yields legal hp
      exact proper (nameable validation index rule yields)
  · intro e
    rw [PolicyCollection.toPolicySet_eq_error_iff]
    constructor
    · rintro ⟨p, hp, unwritten, rfl, least⟩
      obtain ⟨validation, index, rule, yields, id, -, written⟩ := exists_yields legal hp
      refine ⟨validation, index, rule, yields, written.mp unwritten, by rw [id], ?_⟩
      intro validation' index' rule' yields' unnamed
      obtain ⟨q, hq, id', -, written'⟩ := yields'.exists_policy legal
      rw [← id, ← id']
      exact least q hq (written'.mpr unnamed)
    · rintro ⟨validation, index, rule, yields, unnamed, rfl, least⟩
      obtain ⟨p, hp, id, -, written⟩ := yields.exists_policy legal
      refine ⟨p, hp, written.mpr unnamed, by rw [id], ?_⟩
      intro q hq unwritten
      obtain ⟨validation', index', rule', yields', id', -, written'⟩ := exists_yields legal hq
      rw [id, id']
      exact least validation' index' rule' yields' (written'.mp unwritten)

/-- The groups of the cluster's own interfaces can be parts of a type. -/
theorem isTaken_compile_ingresses :
    let rule : Rule := ⟨["UPDATE"], ["networking.k8s.io"], ["v1"], ["ingresses"], ["web"]⟩
    let policy : Policy := ⟨"only-paused", some [rule], ["object.paused"]⟩
    policy.IsLegal ∧ ∃ set, (compile .default policy).collection.IsTaken set ∧
      set.keys = ["only-paused.0.0"] := by
  intro rule policy
  have legal : policy.IsLegal :=
    List.forall_mem_singleton.mpr ⟨by decide, by decide, by decide⟩
  have nameable : rule.IsNameable := by decide
  obtain ⟨set, taken⟩ := (isTaken_compile_iff legal).1.mpr <| by
    rintro validation index r ⟨-, rules, given, reaches⟩
    obtain rfl := Option.some.inj given
    obtain ⟨rfl, -⟩ := Prod.mk.inj (List.mem_singleton.mp reaches.mem)
    exact nameable
  have keys : (compile .default policy).collection.policies.keys = ["only-paused.0.0"] := by
    decide +kernel
  exact ⟨legal, set, taken, taken.keys.trans keys⟩

/-- A group with a `-`, which no part of a type can have: its rule is compiled without a diagnostic,
and the engine refuses the collection. -/
theorem toPolicySet_compile_certificates :
    let rule : Rule := ⟨["CREATE"], ["cert-manager.io"], ["v1"], ["certificates"], []⟩
    let policy : Policy := ⟨"certs", some [rule], ["object.paused"]⟩
    policy.IsLegal ∧ (compile .default policy).errors = [] ∧
      (compile .default policy).collection.toPolicySet = .error (.policyConversion "certs.0.0") := by
  intro rule policy
  have legal : policy.IsLegal :=
    List.forall_mem_singleton.mpr ⟨by decide, by decide, by decide⟩
  have keys : (compile .default policy).collection.policies.keys = ["certs.0.0"] := by
    decide +kernel
  have ids : ∀ p ∈ (compile .default policy).collection.policies.values, p.id = "certs.0.0" := by
    intro p hp
    have key := List.mem_map_of_mem (f := CompiledPolicy.id) hp
    rw [← PolicyCollection.keys_eq_ids, keys] at key
    exact List.mem_singleton.mp key
  have typed : rule.IsTyped := ⟨by decide, by decide, by decide⟩
  have yields : Yields policy 0 0 rule :=
    ⟨⟨_, _, rfl, validationCondition_paused⟩, [rule], rfl,
      .here (List.cons_ne_nil _ _) (.inr ⟨typed, by decide⟩)⟩
  have unnamed : ¬rule.IsNameable := by decide
  obtain ⟨p, hp, -, -, written⟩ := yields.exists_policy legal
  refine ⟨legal, by decide +kernel, PolicyCollection.toPolicySet_eq_error_iff.mpr ?_⟩
  refine ⟨p, hp, written.mpr unnamed, by rw [ids p hp], fun q hq _ => ?_⟩
  have same : p.id = q.id := (ids p hp).trans (ids q hq).symm
  exact same ▸ String.le_refl p.id

end ClusterPolicy.Admission
