import ClusterPolicy.Proofs.Rbac.Union

namespace ClusterPolicy.Rbac

/-- The ids that one subject and one rule can give to policies, one for each kind. -/
def idsOf (binding : Binding) (subject rule : Nat) : List String :=
  suffixes.map fun suffix => policyId binding.idName (binding.kind.name ++ suffix) subject rule

namespace Compilation

/-- What a compilation has for one subject and one rule. -/
def policiesOf (c : Compilation) (binding : Binding) (subject rule : Nat) : List CompiledPolicy :=
  c.collection.policies.values.filter fun p => (idsOf binding subject rule).contains p.id

def diagnosticsOf (c : Compilation) (subject rule : Nat) : List Diagnostic :=
  c.diagnostics.filter fun d => d.subjectIndex = subject ∧ d.ruleIndex = rule

/-- Each subject with each rule has a policy or a diagnostic, at most two policies and at most one
diagnostic, and there are no others. -/
structure IsAccounted (c : Compilation) (binding : Binding) (role : Role) : Prop where
  covered : ∀ subject < binding.subjects.length, ∀ rule < role.rules.length,
    c.policiesOf binding subject rule ≠ [] ∨ c.diagnosticsOf subject rule ≠ []
  policies : ∀ p ∈ c.collection.policies.values, ∃ subject < binding.subjects.length,
    ∃ rule < role.rules.length, p.id ∈ idsOf binding subject rule
  diagnostics : ∀ d ∈ c.diagnostics, d.binding = binding.name ∧
    d.subjectIndex < binding.subjects.length ∧ d.ruleIndex < role.rules.length
  fewPolicies : ∀ subject rule, (c.policiesOf binding subject rule).length ≤ 2
  fewDiagnostics : ∀ subject rule, (c.diagnosticsOf subject rule).length ≤ 1
  unrepeated : ∀ d ∈ c.diagnostics, ∀ id, d.reason ≠ .duplicatePolicy id

section
variable {c : Compilation} {binding : Binding} {subject rule : Nat}

theorem mem_policiesOf {p : CompiledPolicy} : p ∈ c.policiesOf binding subject rule ↔
    p ∈ c.collection.policies.values ∧ p.id ∈ idsOf binding subject rule := by
  simp [policiesOf]

theorem mem_diagnosticsOf {d : Diagnostic} : d ∈ c.diagnosticsOf subject rule ↔
    d ∈ c.diagnostics ∧ d.subjectIndex = subject ∧ d.ruleIndex = rule := by
  simp [diagnosticsOf]

theorem nodup_policiesOf : (c.policiesOf binding subject rule).Nodup :=
  c.collection.nodup_ids.of_map.filter _

end

end Compilation

/-! ## One subject and one rule -/

section
variable {settings : Settings} {binding : Binding} {role : Role} {ns : Option String}
  {subject : Subject} {rule : Rule} {origin : Origin}

theorem ruleEmissions_ne_nil (principals : Principals) :
    ruleEmissions settings origin principals rule ≠ [] := by
  rcases ruleEmissions_cases settings origin principals rule with ⟨e, one⟩ | two
  · simp [one]
  · simp [two]

/-- Each subject with each rule yields a policy or a diagnostic. -/
theorem emissions_ne_nil : emissions settings subject rule origin ≠ [] := by
  unfold emissions
  split
  · exact ruleEmissions_ne_nil _
  · exact List.cons_ne_nil _ _

/-- They yield at most two things: one for what is acted on, and one for who is impersonated. -/
theorem length_emissions_le : (emissions settings subject rule origin).length ≤ 2 := by
  unfold emissions
  split
  · rename_i principals _
    rcases ruleEmissions_cases settings origin principals rule with ⟨e, one⟩ | two
    · simp [one]
    · simp [two]
  · simp

/-- Of two emissions only the first can be a refusal. -/
theorem pairwise_refused :
    (emissions settings subject rule origin).Pairwise fun _ e => ∃ p, e = .ok p := by
  unfold emissions
  split
  · rename_i principals _
    rcases ruleEmissions_cases settings origin principals rule with ⟨e, one⟩ | two
    · rw [one]
      exact List.pairwise_singleton _ _
    · rw [two]
      exact List.pairwise_pair.mpr ⟨_, rfl⟩
  · exact List.pairwise_singleton _ _

theorem Emits.mem_idsOf {principals : Principals} {p : CompiledPolicy} {i j : Nat}
    (emits : Emits settings ⟨binding, role, ns, i, j⟩ principals rule p) :
    p.id ∈ idsOf binding i j := by
  obtain ⟨suffix, among, isId⟩ := emits.id
  exact List.mem_map.mpr ⟨suffix, among, isId.symm⟩

theorem eq_of_mem_idsOf {id : String} {i i' j j' : Nat} (h : id ∈ idsOf binding i j)
    (h' : id ∈ idsOf binding i' j') : i = i' ∧ j = j' := by
  obtain ⟨s, hs, rfl⟩ := List.mem_map.mp h
  obtain ⟨t, ht, same⟩ := List.mem_map.mp h'
  obtain ⟨-, -, subject, rule⟩ := policyId_injective (plain_kind _ t ht) (plain_kind _ s hs) same
  exact ⟨subject.symm, rule.symm⟩

end

/-! ## A binding -/

section
variable {settings : Settings} {binding : Binding} {role : Role} {ns : Option String}

/-- Whatever the subject and the rule are, they leave a policy or a diagnostic. -/
theorem covered_compile {i j : Nat} (inSubjects : i < binding.subjects.length)
    (inRules : j < role.rules.length) :
    (compile settings binding role ns).policiesOf binding i j ≠ [] ∨
      (compile settings binding role ns).diagnosticsOf i j ≠ [] := by
  have place : (binding.subjects[i], role.rules[j], ⟨binding, role, ns, i, j⟩) ∈
      origins binding role ns :=
    mem_origins.mpr ⟨i, j, List.getElem?_eq_getElem _, List.getElem?_eq_getElem _, rfl⟩
  have some : emissions settings binding.subjects[i] role.rules[j] ⟨binding, role, ns, i, j⟩ ≠ [] :=
    emissions_ne_nil
  obtain ⟨e, mem⟩ := List.exists_mem_of_ne_nil _ some
  cases e with
  | ok p =>
    obtain ⟨principals, stands, emits⟩ := ok_mem_emissions.mp mem
    have kept := mem_compile.mpr ⟨_, _, _, principals, place, stands, emits⟩
    exact .inl (List.ne_nil_of_mem (Compilation.mem_policiesOf.mpr ⟨kept, emits.mem_idsOf⟩))
  | error reason =>
    have reported := mem_diagnostics_compile.mpr ⟨_, _, _, reason, place, mem, rfl⟩
    exact .inr (List.ne_nil_of_mem (Compilation.mem_diagnosticsOf.mpr ⟨reported, rfl, rfl⟩))

theorem exists_emission_of_mem_policiesOf {i j : Nat} {p : CompiledPolicy}
    (h : p ∈ (compile settings binding role ns).policiesOf binding i j) :
    ∃ subject rule, binding.subjects[i]? = some subject ∧ role.rules[j]? = some rule ∧
      .ok p ∈ emissions settings subject rule ⟨binding, role, ns, i, j⟩ := by
  obtain ⟨kept, ids⟩ := Compilation.mem_policiesOf.mp h
  obtain ⟨subject, rule, origin, principals, place, stands, emits⟩ := mem_compile.mp kept
  obtain ⟨i', j', hi, hj, rfl⟩ := mem_origins.mp place
  obtain ⟨rfl, rfl⟩ := eq_of_mem_idsOf emits.mem_idsOf ids
  exact ⟨subject, rule, hi, hj, ok_mem_emissions.mpr ⟨principals, stands, emits⟩⟩

theorem length_policiesOf_compile_le (i j : Nat) :
    ((compile settings binding role ns).policiesOf binding i j).length ≤ 2 := by
  by_cases none : (compile settings binding role ns).policiesOf binding i j = []
  · simp [none]
  · obtain ⟨p, mem⟩ := List.exists_mem_of_ne_nil _ none
    obtain ⟨subject, rule, hi, hj, -⟩ := exists_emission_of_mem_policiesOf mem
    have yielded : ((compile settings binding role ns).policiesOf binding i j).map .ok ⊆
        emissions settings subject rule ⟨binding, role, ns, i, j⟩ := by
      refine List.forall_mem_map.mpr fun q isQ => ?_
      obtain ⟨subject', rule', hi', hj', ok⟩ := exists_emission_of_mem_policiesOf isQ
      cases hi.symm.trans hi'
      cases hj.symm.trans hj'
      exact ok
    have distinct : (((compile settings binding role ns).policiesOf binding i j).map
        (.ok : CompiledPolicy → Emission)).Nodup :=
      Compilation.nodup_policiesOf.map fun _ _ => Except.ok.inj
    calc ((compile settings binding role ns).policiesOf binding i j).length
        = (((compile settings binding role ns).policiesOf binding i j).map
            (.ok : CompiledPolicy → Emission)).length := (List.length_map _).symm
      _ ≤ _ := (List.subperm_of_subset distinct yielded).length_le
      _ ≤ 2 := length_emissions_le

/-- Diagnostics of one subject and one rule come from the same emissions, of which one is a refusal. -/
theorem pairwise_diagnostics_compile : (compile settings binding role ns).diagnostics.Pairwise
    fun d e => (d.subjectIndex, d.ruleIndex) ≠ (e.subjectIndex, e.ruleIndex) := by
  rw [diagnostics_compile, List.pairwise_filterMap]
  refine List.pairwise_flatMap.mpr ⟨?_, ?_⟩
  · rintro ⟨subject, rule, origin⟩ -
    refine List.pairwise_map.mpr (pairwise_refused.imp ?_)
    rintro e _ ⟨p, rfl⟩ d - d' isD'
    cases isD'
  · refine pairwise_origins.imp ?_
    rintro ⟨subject, rule, o⟩ ⟨subject', rule', o'⟩ other e he f hf d isD d' isD'
    obtain ⟨_, -, rfl⟩ := List.mem_map.mp he
    obtain ⟨_, -, rfl⟩ := List.mem_map.mp hf
    obtain ⟨_, -, rfl⟩ := reported_eq_some.mp isD
    obtain ⟨_, -, rfl⟩ := reported_eq_some.mp isD'
    exact other

theorem length_diagnosticsOf_compile_le (i j : Nat) :
    ((compile settings binding role ns).diagnosticsOf i j).length ≤ 1 := by
  have apart : ((compile settings binding role ns).diagnosticsOf i j).Pairwise
      fun d e => (d.subjectIndex, d.ruleIndex) ≠ (e.subjectIndex, e.ruleIndex) :=
    pairwise_diagnostics_compile.filter _
  have alike : ∀ d ∈ (compile settings binding role ns).diagnosticsOf i j,
      (d.subjectIndex, d.ruleIndex) = (i, j) := by
    intro d mem
    obtain ⟨-, subject, rule⟩ := Compilation.mem_diagnosticsOf.mp mem
    exact Prod.ext subject rule
  generalize (compile settings binding role ns).diagnosticsOf i j = reports at apart alike ⊢
  rcases reports with _ | ⟨d, _ | ⟨e, others⟩⟩
  · exact Nat.zero_le 1
  · exact Nat.le_refl 1
  · have same := (alike d (by simp)).trans (alike e (by simp)).symm
    exact absurd same (List.rel_of_pairwise_cons apart List.mem_cons_self)

theorem accounts_compile : (compile settings binding role ns).IsAccounted binding role where
  covered _ inSubjects _ inRules := covered_compile inSubjects inRules
  policies p mem := by
    obtain ⟨subject, rule, origin, principals, place, -, emits⟩ := mem_compile.mp mem
    obtain ⟨i, j, hi, hj, rfl⟩ := mem_origins.mp place
    exact ⟨i, (List.getElem?_eq_some_iff.mp hi).1, j, (List.getElem?_eq_some_iff.mp hj).1,
      emits.mem_idsOf⟩
  diagnostics d mem := by
    obtain ⟨subject, rule, origin, reason, place, -, rfl⟩ := mem_diagnostics_compile.mp mem
    obtain ⟨i, j, hi, hj, rfl⟩ := mem_origins.mp place
    exact ⟨rfl, (List.getElem?_eq_some_iff.mp hi).1, (List.getElem?_eq_some_iff.mp hj).1⟩
  fewPolicies := length_policiesOf_compile_le
  fewDiagnostics := length_diagnosticsOf_compile_le
  unrepeated _ mem := unrepeated_compile mem

end

/-- An id is of one name, one kind and one pair of indices, whatever characters the name holds; and a
binding that is compiled has a policy or a diagnostic for each of its subjects with each rule, and
nothing else. -/
theorem isAccounted_compile (settings : Settings) :
    (∀ name name' kind kind' : String, ∀ i i' j j' : Nat, ':' ∉ kind.toList → ':' ∉ kind'.toList →
      (policyId name kind i j = policyId name' kind' i' j' ↔
        name = name' ∧ kind = kind' ∧ i = i' ∧ j = j')) ∧
    ∀ binding role ns, (compile settings binding role ns).IsAccounted binding role := by
  constructor
  · intro name name' kind kind' i i' j j' plain plain'
    constructor
    · exact policyId_injective plain plain'
    · rintro ⟨rfl, rfl, rfl, rfl⟩
      rfl
  · exact fun _ _ _ => accounts_compile

/-- A subject that is refused is reported once for each rule, one policy may come with a diagnostic of
its rule, and indices of several digits are kept apart. -/
theorem isAccounted_compile_mixed :
    let binding : Binding := ⟨"a:RoleBinding:0.1", .clusterRoleBinding, ⟨"ClusterRole", "r"⟩,
      [⟨.serviceAccount, "a:b", none⟩, ⟨.group, "devs", none⟩], none⟩
    let role : Role := ⟨"ClusterRole", "r", none,
      [⟨["impersonate", "get"], ["authentication.k8s.io"], ["pods"], [], []⟩, ⟨[], [], [], [], []⟩]⟩
    let c := compile .default binding role none
    (':' ∉ "RoleBinding/impersonate".toList ∧
      policyId "a:0.1" "RoleBinding/impersonate" 1 11 ≠
        policyId "a:0.1" "RoleBinding/impersonate" 11 1) ∧
    c.IsAccounted binding role ∧
      c.collection.policies.keys = ["a:RoleBinding:0.1:ClusterRoleBinding:1.0"] ∧
      c.diagnostics.map (fun d => (d.subjectIndex, d.ruleIndex)) = [(0, 0), (0, 1), (1, 0), (1, 1)] := by
  intro binding role c
  obtain ⟨injective, accounted⟩ := isAccounted_compile .default
  have plain : ':' ∉ "RoleBinding/impersonate".toList := by decide
  have differ : policyId "a:0.1" "RoleBinding/impersonate" 1 11 ≠
      policyId "a:0.1" "RoleBinding/impersonate" 11 1 := by
    intro same
    have indices := (injective _ _ _ _ _ _ _ _ plain plain).mp same
    exact absurd indices.2.2.1 (by decide)
  exact ⟨⟨plain, differ⟩, accounted binding role none, by decide +kernel, by decide +kernel⟩

end ClusterPolicy.Rbac
