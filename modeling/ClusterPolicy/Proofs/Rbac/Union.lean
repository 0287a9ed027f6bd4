import ClusterPolicy.Proofs.Rbac.Absorption

/-! What several bindings compile to together, in whatever order they and the roles come. -/

namespace ClusterPolicy.Rbac

/-! ## One binding -/

/-- Not both yield a policy under the same id. -/
def IdsDiffer (e f : Emission) : Prop := ∀ p q, e = .ok p → f = .ok q → p.id ≠ q.id

/-- What is reported of an emission. -/
def reported (e : Origin × Emission) : Option Diagnostic :=
  match e.2 with
  | .ok _ => none
  | .error reason => some (e.1.diagnostic reason)

theorem reported_eq_some {e : Origin × Emission} {d : Diagnostic} :
    reported e = some d ↔ ∃ reason, e.2 = .error reason ∧ d = e.1.diagnostic reason := by
  unfold reported
  split
  · rename_i p ok
    simp [ok]
  · rename_i reason fails
    simp [fails, eq_comm]

section
variable {settings : Settings} {origin : Origin} {principals : Principals} {rule : Rule}

/-- A rule yields one emission, or a permit for impersonation and one for resources. -/
theorem ruleEmissions_cases (settings : Settings) (origin : Origin) (principals : Principals)
    (rule : Rule) : (∃ e, ruleEmissions settings origin principals rule = [e]) ∨
    ruleEmissions settings origin principals rule =
      [impersonationEmission origin principals (reduceWildcard rule.resources)
        (distinct rule.resourceNames), .ok (resourcePermit origin principals rule)] := by
  unfold ruleEmissions
  dsimp only
  split_ifs
  all_goals first | exact .inl ⟨_, rfl⟩ | exact .inr rfl

theorem pairwise_ruleEmissions :
    (ruleEmissions settings origin principals rule).Pairwise IdsDiffer := by
  rcases ruleEmissions_cases settings origin principals rule with ⟨e, single⟩ | both
  · rw [single]
    exact List.pairwise_singleton _ _
  · rw [both]
    refine List.pairwise_pair.mpr fun p q isP isQ same => ?_
    obtain ⟨target, -, rfl⟩ := ok_mem_impersonationEmission.mp isP.symm
    cases isQ
    have suffix := (Origin.id_injective rfl (by decide) (by decide) same).1
    exact absurd suffix (by decide)

theorem duplicatePolicy_ne_impersonationEmission (resources names : List String) (id : String) :
    impersonationEmission origin principals resources names ≠ .error (.duplicatePolicy id) := by
  unfold impersonationEmission
  split <;> simp

/-- That an id is taken is not for an emission to say. -/
theorem duplicatePolicy_notMem_emissions (subject : Subject) (id : String) :
    (.error (.duplicatePolicy id) : Emission) ∉ emissions settings subject rule origin := by
  unfold emissions
  split
  · unfold ruleEmissions
    dsimp only
    split_ifs
    all_goals simp [(duplicatePolicy_ne_impersonationEmission _ _ _).symm]
  · rename_i reason fails
    unfold Principals.of at fails
    dsimp only at fails
    split at fails
    · cases fails
    · cases fails
    · split at fails
      · cases fails
        simp
      · cases fails

end

section
variable {settings : Settings} {binding : Binding} {role : Role} {ns : Option String}

theorem pairwise_origins : (origins binding role ns).Pairwise fun e f =>
    (e.2.2.subjectIndex, e.2.2.ruleIndex) ≠ (f.2.2.subjectIndex, f.2.2.ruleIndex) := by
  refine List.pairwise_flatMap.mpr ⟨?_, ?_⟩
  · rintro ⟨subject, i⟩ -
    refine List.pairwise_map.mpr ((increasing_zipIdx role.rules).imp ?_)
    rintro ⟨rule, j⟩ ⟨rule', j'⟩ less same
    exact Nat.ne_of_lt less (Prod.mk.inj same).2
  · refine (increasing_zipIdx binding.subjects).imp ?_
    rintro ⟨subject, i⟩ ⟨subject', i'⟩ less x hx y hy same
    obtain ⟨_, -, rfl⟩ := List.mem_map.mp hx
    obtain ⟨_, -, rfl⟩ := List.mem_map.mp hy
    exact Nat.ne_of_lt less (Prod.mk.inj same).1

theorem pairwise_allEmissions :
    (allEmissions settings binding role ns).Pairwise fun e f => IdsDiffer e.2 f.2 := by
  refine List.pairwise_flatMap.mpr ⟨?_, ?_⟩
  · rintro ⟨subject, rule, origin⟩ -
    refine List.pairwise_map.mpr ?_
    change (emissions settings subject rule origin).Pairwise IdsDiffer
    unfold emissions
    split
    · exact pairwise_ruleEmissions
    · exact List.pairwise_singleton _ _
  · refine pairwise_origins.imp_of_mem ?_
    rintro ⟨subject, rule, o⟩ ⟨subject', rule', o'⟩ place place' other e he f hf p q isP isQ same
    obtain ⟨_, mem, rfl⟩ := List.mem_map.mp he
    obtain ⟨_, mem', rfl⟩ := List.mem_map.mp hf
    cases isP
    cases isQ
    obtain ⟨_, -, emits⟩ := ok_mem_emissions.mp mem
    obtain ⟨_, -, emits'⟩ := ok_mem_emissions.mp mem'
    obtain ⟨_, _, -, -, rfl⟩ := mem_origins.mp place
    obtain ⟨_, _, -, -, rfl⟩ := mem_origins.mp place'
    obtain ⟨s, hs, isS⟩ := emits.id
    obtain ⟨t, ht, isT⟩ := emits'.id
    rw [isS, isT] at same
    obtain ⟨-, sameSubject, sameRule⟩ := Origin.id_injective (Eq.refl binding) hs ht same
    exact other (Prod.ext sameSubject sameRule)

theorem diagnostics_foldl_emit {l : List (Origin × Emission)} {c : Compilation}
    (differ : l.Pairwise fun e f => IdsDiffer e.2 f.2)
    (free : ∀ e ∈ l, ∀ p, e.2 = .ok p → c.collection.policies.contains p.id = false) :
    (l.foldl (fun c e => c.emit e.1 e.2) c).diagnostics = c.diagnostics ++ l.filterMap reported := by
  induction l generalizing c with
  | nil => simp
  | cons e l ih =>
    obtain ⟨origin, emission⟩ := e
    obtain ⟨fromFirst, others⟩ := List.pairwise_cons.mp differ
    obtain ⟨freeFirst, freeOthers⟩ := List.forall_mem_cons.mp free
    rw [List.foldl_cons]
    cases emission with
    | error reason =>
      have rest := ih (c := c.skip (origin.diagnostic reason)) others freeOthers
      exact rest.trans (by simp [Compilation.skip, reported])
    | ok p =>
      have freeP : c.collection.policies.contains p.id = false := freeFirst p rfl
      rw [Compilation.emit_ok, ih others, Compilation.diagnostics_place freeP]
      · rfl
      · intro f mem q isQ
        have other : p.id ≠ q.id := fromFirst f mem p q rfl isQ
        rw [Compilation.contains_place, freeOthers f mem q isQ, decide_eq_false other]
        rfl

/-- No id is taken before its policy comes, so only what is refused by itself is reported. -/
theorem diagnostics_compile : (compile settings binding role ns).diagnostics =
    (allEmissions settings binding role ns).filterMap reported := by
  rw [compile_eq_foldl, diagnostics_foldl_emit pairwise_allEmissions fun _ _ _ _ => rfl]
  rfl

theorem mem_diagnostics_compile {d : Diagnostic} :
    d ∈ (compile settings binding role ns).diagnostics ↔ ∃ subject rule origin reason,
      (subject, rule, origin) ∈ origins binding role ns ∧
        .error reason ∈ emissions settings subject rule origin ∧ d = origin.diagnostic reason := by
  rw [diagnostics_compile, List.mem_filterMap]
  constructor
  · rintro ⟨⟨origin, emission⟩, mem, isD⟩
    obtain ⟨reason, refused, rfl⟩ := reported_eq_some.mp isD
    obtain ⟨subject, rule, place, yielded⟩ := mem_allEmissions.mp mem
    exact ⟨subject, rule, origin, reason, place, refused ▸ yielded, rfl⟩
  · rintro ⟨subject, rule, origin, reason, place, yielded, rfl⟩
    exact ⟨(origin, .error reason), mem_allEmissions.mpr ⟨subject, rule, place, yielded⟩, rfl⟩

theorem unrepeated_compile {d : Diagnostic} (mem : d ∈ (compile settings binding role ns).diagnostics)
    (id : String) : d.reason ≠ .duplicatePolicy id := by
  obtain ⟨subject, rule, origin, reason, -, yielded, rfl⟩ := mem_diagnostics_compile.mp mem
  rintro rfl
  exact duplicatePolicy_notMem_emissions subject id yielded

theorem eq_policyId_of_contains_compile {id : String}
    (h : (compile settings binding role ns).collection.policies.contains id = true) :
    ∃ suffix ∈ suffixes, ∃ i j, id = policyId binding.idName (binding.kind.name ++ suffix) i j := by
  obtain ⟨p, found⟩ := Option.isSome_iff_exists.mp h
  obtain ⟨mem, rfl⟩ := PolicyCollection.find?_eq_some.mp found
  obtain ⟨_, _, _, _, place, -, emits⟩ := mem_compile.mp mem
  obtain ⟨i, j, -, -, rfl⟩ := mem_origins.mp place
  obtain ⟨suffix, among, isId⟩ := emits.id
  exact ⟨suffix, among, i, j, isId⟩

end

/-- The suffix of an id does not hide the kind of its binding. -/
theorem BindingKind.eq_of_name_append {kind kind' : BindingKind} {s t : String} (hs : s ∈ suffixes)
    (ht : t ∈ suffixes) (same : kind.name ++ s = kind'.name ++ t) : kind = kind' := by
  simp only [suffixes, List.mem_cons, List.not_mem_nil, or_false] at hs ht
  rcases hs with rfl | rfl | rfl <;> rcases ht with rfl | rfl | rfl <;> revert same <;>
    cases kind <;> cases kind' <;> decide

/-- Bindings that differ in name or kind share no id, whatever characters their names hold. -/
theorem apart_compile {settings : Settings} {b b' : Binding} {r r' : Role} {ns ns' : Option String}
    (differ : (b.idName, b.kind) ≠ (b'.idName, b'.kind)) :
    (compile settings b r ns).Apart (compile settings b' r' ns') := by
  intro id inFirst
  by_contra inSecond
  obtain ⟨s, hs, _, _, isFirst⟩ := eq_policyId_of_contains_compile inFirst
  obtain ⟨t, ht, _, _, isSecond⟩ := eq_policyId_of_contains_compile (by simpa using inSecond)
  obtain ⟨name, kind, -, -⟩ := policyId_injective (plain_kind _ s hs) (plain_kind _ t ht)
    (isFirst.symm.trans isSecond)
  exact differ (Prod.ext name (BindingKind.eq_of_name_append hs ht kind))

/-! ## All bindings -/

/-- A cluster role has no namespace, and any other role has one. -/
inductive Role.IsScoped (role : Role) : Prop
  | clusterRole (kind : role.kind = "ClusterRole") (global : role.namespaceName = none)
  | role (kind : role.kind = "Role") (inside : role.namespaceName.isSome = true)

/-- A role that a binding may use: the one it names, unless that is in another namespace. -/
structure Binding.Uses (binding : Binding) (role : Role) : Prop where
  kind : role.kind = binding.role.kind
  name : role.name = binding.role.name
  inside : role.namespaceName = none ∨ role.namespaceName = binding.namespaceName

/-- Every subject is reported, and there are no policies. -/
def missingRole (binding : Binding) : Compilation :=
  ⟨.new binding.idName, (List.range binding.subjects.length).map fun subjectIndex =>
    ⟨binding.name, subjectIndex, 0, .missingRole binding.role.kind binding.role.name⟩⟩

/-- What a binding adds to the whole. -/
inductive Contributes (settings : Settings) (roles : List Role) (binding : Binding) : Compilation → Prop
  | granted {role : Role} (mem : role ∈ roles) (uses : binding.Uses role) :
      Contributes settings roles binding (compileBinding settings binding role)
  | missing (absent : ∀ role ∈ roles, ¬binding.Uses role) :
      Contributes settings roles binding (missingRole binding)

def contribution (settings : Settings) (roles : List Role) (binding : Binding) : Compilation :=
  match roles.find? binding.refersTo with
  | some role => compileBinding settings binding role
  | none => missingRole binding

theorem Binding.refersTo_iff {binding : Binding} {role : Role} :
    binding.refersTo role = true ↔ binding.Uses role := by
  simp only [refersTo, Bool.and_eq_true, Bool.or_eq_true, beq_iff_eq, Option.isNone_iff_eq_none]
  exact ⟨fun ⟨⟨kind, name⟩, inside⟩ => ⟨kind, name, inside⟩,
    fun ⟨kind, name, inside⟩ => ⟨⟨kind, name⟩, inside⟩⟩

theorem Compilation.foldl_skip (c : Compilation) (l : List Nat) (report : Nat → Diagnostic) :
    l.foldl (fun c i => c.skip (report i)) c =
      { c with diagnostics := c.diagnostics ++ l.map report } := by
  induction l generalizing c with
  | nil => simp
  | cons i l ih =>
    rw [List.foldl_cons, ih]
    simp [skip]

section
variable {settings : Settings} {roles roles' : List Role} {binding : Binding}

theorem contributes_contribution (binding : Binding) :
    Contributes settings roles binding (contribution settings roles binding) := by
  unfold contribution
  split
  · rename_i role found
    exact .granted (List.mem_of_find?_eq_some found)
      (Binding.refersTo_iff.mp (List.find?_some found))
  · rename_i none
    refine .missing fun role mem uses => ?_
    exact List.find?_eq_none.mp none role mem (Binding.refersTo_iff.mpr uses)

theorem compileAll_eq_foldl (name : String) (bindings : List Binding) :
    compileAll settings name bindings roles =
      (bindings.map (contribution settings roles)).foldl Compilation.absorb (.new name) := by
  rw [List.foldl_map]
  unfold compileAll
  congr 1
  funext c binding
  unfold contribution
  cases roles.find? binding.refersTo with
  | some role => rfl
  | none => exact Compilation.foldl_skip c _ _

theorem apart_contribution {binding' : Binding}
    (differ : (binding.idName, binding.kind) ≠ (binding'.idName, binding'.kind)) :
    (contribution settings roles binding).Apart (contribution settings roles binding') := by
  unfold contribution
  split
  · split
    · exact apart_compile differ
    · exact fun _ _ => rfl
  · exact nofun

theorem unrepeated_contribution {d : Diagnostic}
    (mem : d ∈ (contribution settings roles binding).diagnostics) (id : String) :
    d.reason ≠ .duplicatePolicy id := by
  unfold contribution at mem
  split at mem
  · exact unrepeated_compile mem id
  · obtain ⟨_, -, rfl⟩ := List.mem_map.mp mem
    simp

section
variable (distinct : (roles.map fun r => (r.kind, r.namespaceName, r.name)).Nodup)
  (allScoped : ∀ role ∈ roles, role.IsScoped)
include distinct allScoped

/-- No binding can use both a role of its namespace and one without: their kinds differ. -/
theorem eq_of_uses {role role' : Role} (mem : role ∈ roles) (mem' : role' ∈ roles)
    (uses : binding.Uses role) (uses' : binding.Uses role') : role = role' := by
  have kind : role.kind = role'.kind := uses.kind.trans uses'.kind.symm
  have namespaceName : role.namespaceName = role'.namespaceName := by
    cases allScoped role mem with
    | clusterRole isCluster global =>
      cases allScoped role' mem' with
      | clusterRole _ global' => rw [global, global']
      | role isRole => exact absurd (isCluster.symm.trans (kind.trans isRole)) (by decide)
    | role isRole inside =>
      cases allScoped role' mem' with
      | clusterRole isCluster => exact absurd (isRole.symm.trans (kind.trans isCluster)) (by decide)
      | role _ inside' =>
        rw [uses.inside.resolve_left (Option.isSome_iff_ne_none.mp inside),
          uses'.inside.resolve_left (Option.isSome_iff_ne_none.mp inside')]
  refine List.inj_on_of_nodup_map distinct mem mem' ?_
  simp only [kind, namespaceName, uses.name, uses'.name]

theorem find?_refersTo_eq_some {role : Role} :
    roles.find? binding.refersTo = some role ↔ role ∈ roles ∧ binding.Uses role := by
  constructor
  · intro found
    exact ⟨List.mem_of_find?_eq_some found, Binding.refersTo_iff.mp (List.find?_some found)⟩
  · rintro ⟨mem, uses⟩
    have refers := Binding.refersTo_iff.mpr uses
    obtain ⟨first, found⟩ := Option.isSome_iff_exists.mp
      (List.find?_isSome.mpr ⟨role, mem, refers⟩ : (roles.find? binding.refersTo).isSome = true)
    have same := eq_of_uses distinct allScoped (List.mem_of_find?_eq_some found) mem
      (Binding.refersTo_iff.mp (List.find?_some found)) uses
    rw [found, same]

theorem contribution_perm (permuted : roles.Perm roles') :
    contribution settings roles' = contribution settings roles := by
  have distinct' : (roles'.map fun r => (r.kind, r.namespaceName, r.name)).Nodup :=
    (permuted.map _).nodup_iff.mp distinct
  have allScoped' : ∀ role ∈ roles', role.IsScoped :=
    fun role mem => allScoped role (permuted.mem_iff.mpr mem)
  funext binding
  have found : roles'.find? binding.refersTo = roles.find? binding.refersTo := by
    refine Option.ext fun role => ?_
    rw [find?_refersTo_eq_some distinct' allScoped', find?_refersTo_eq_some distinct allScoped,
      permuted.mem_iff]
  unfold contribution
  rw [found]

end

theorem isUnion_compileAll (settings : Settings) (name : String) {bindings : List Binding}
    (roles : List Role) (distinct : (bindings.map fun b => (b.idName, b.kind)).Nodup) :
    (compileAll settings name bindings roles).IsUnion (bindings.map (contribution settings roles)) := by
  rw [compileAll_eq_foldl]
  refine Compilation.isUnion_foldl_absorb name ?_ ?_
  · exact List.pairwise_map.mpr ((List.pairwise_map.mp distinct).imp apart_contribution)
  · intro part mem d reports
    obtain ⟨binding, -, rfl⟩ := List.mem_map.mp mem
    exact unrepeated_contribution reports

theorem name_compileAll (name : String) (bindings : List Binding) :
    (compileAll settings name bindings roles).collection.name = name := by
  rw [compileAll_eq_foldl, Compilation.name_foldl_absorb]
  rfl

end

/-- Bindings that differ in name or kind are compiled as if each were alone: together they hold what
each contributes with the one role that it may use, and neither the order of the bindings nor that of
the roles changes what is compiled or how often something is reported. -/
theorem compileAll_isUnion (settings : Settings) (name : String) {bindings : List Binding}
    {roles : List Role} (distinctBindings : (bindings.map fun b => (b.idName, b.kind)).Nodup)
    (distinctRoles : (roles.map fun r => (r.kind, r.namespaceName, r.name)).Nodup)
    (allScoped : ∀ role ∈ roles, role.IsScoped) :
    (∃ parts, List.Forall₂ (Contributes settings roles) bindings parts ∧
      (compileAll settings name bindings roles).IsUnion parts) ∧
    (∀ binding ∈ bindings, ∀ role ∈ roles, ∀ role' ∈ roles,
      binding.Uses role → binding.Uses role' → role = role') ∧
    ∀ bindings' roles', bindings.Perm bindings' → roles.Perm roles' →
      (compileAll settings name bindings' roles').collection =
        (compileAll settings name bindings roles).collection ∧
      (compileAll settings name bindings' roles').diagnostics.Perm
        (compileAll settings name bindings roles).diagnostics := by
  refine ⟨⟨bindings.map (contribution settings roles), ?_,
    isUnion_compileAll settings name roles distinctBindings⟩, ?_, ?_⟩
  · rw [List.forall₂_map_right_iff]
    exact List.forall₂_same.mpr fun binding _ => contributes_contribution binding
  · exact fun _ _ _ mem _ mem' => eq_of_uses distinctRoles allScoped mem mem'
  · intro bindings' roles' permuted permutedRoles
    have distinct' : (bindings'.map fun b => (b.idName, b.kind)).Nodup :=
      (permuted.map _).nodup_iff.mp distinctBindings
    have whole := isUnion_compileAll settings name roles distinctBindings
    have whole' := isUnion_compileAll settings name roles' distinct'
    have parts : (bindings'.map (contribution settings roles')).Perm
        (bindings.map (contribution settings roles)) := by
      rw [contribution_perm distinctRoles allScoped permutedRoles]
      exact permuted.symm.map _
    exact ⟨whole'.collection_eq whole parts (by rw [name_compileAll, name_compileAll]),
      whole'.diagnostics_perm whole parts⟩

/-- The ids of the bindings are alike, the namespaces hold a role of the same name each, and the last
binding names one that only another namespace has. -/
theorem compileAll_isUnion_namesakes :
    let ann : Subject := ⟨.user, "ann", none⟩
    let bindings : List Binding :=
      [⟨"b", .roleBinding, ⟨"Role", "view"⟩, [ann], some "a"⟩,
        ⟨"a/b", .clusterRoleBinding, ⟨"ClusterRole", "view"⟩, [ann], none⟩,
        ⟨"b:RoleBinding:0.0", .roleBinding, ⟨"Role", "edit"⟩, [ann, ann], some "a"⟩]
    let rule : Rule := ⟨["get"], [""], ["pods"], [], []⟩
    let roles : List Role :=
      [⟨"Role", "view", some "c", []⟩, ⟨"Role", "view", some "a", [rule]⟩,
        ⟨"ClusterRole", "view", none, [rule]⟩, ⟨"Role", "edit", some "c", [rule]⟩]
    let whole := compileAll .default "all" bindings roles
    ((bindings.map fun b => (b.idName, b.kind)).Nodup ∧
      (roles.map fun r => (r.kind, r.namespaceName, r.name)).Nodup ∧
      ∀ role ∈ roles, role.IsScoped) ∧
    (∃ parts, List.Forall₂ (Contributes .default roles) bindings parts ∧ whole.IsUnion parts) ∧
    (compileAll .default "all" bindings.reverse roles.reverse).collection = whole.collection ∧
    whole.collection.policies.keys = ["a/b:ClusterRoleBinding:0.0", "a/b:RoleBinding:0.0"] ∧
    whole.diagnostics.map Diagnostic.text =
      ["b:RoleBinding:0.0 subject 0 rule 0: role Role edit not found",
        "b:RoleBinding:0.0 subject 1 rule 0: role Role edit not found"] := by
  intro ann bindings rule roles whole
  have distinctBindings : (bindings.map fun b => (b.idName, b.kind)).Nodup := by decide
  have distinctRoles : (roles.map fun r => (r.kind, r.namespaceName, r.name)).Nodup := by decide
  have allScoped : ∀ role ∈ roles, role.IsScoped := by
    simp only [roles, List.forall_mem_cons]
    exact ⟨.role rfl rfl, .role rfl rfl, .clusterRole rfl rfl, .role rfl rfl, nofun⟩
  obtain ⟨union, -, permuted⟩ :=
    compileAll_isUnion .default "all" distinctBindings distinctRoles allScoped
  exact ⟨⟨distinctBindings, distinctRoles, allScoped⟩, union,
    (permuted _ _ bindings.reverse_perm.symm roles.reverse_perm.symm).1, by decide, by decide⟩

end ClusterPolicy.Rbac
