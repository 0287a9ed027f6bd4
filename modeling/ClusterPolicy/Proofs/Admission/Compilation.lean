import ClusterPolicy.Admission
import ClusterPolicy.Proofs.Collection
import ClusterPolicy.Proofs.Rbac.Compilation

namespace ClusterPolicy.Admission

/-! ## Ids -/

theorem toList_policyId (name : String) (validation rule : Nat) :
    (policyId name validation rule).toList =
      (name.toList ++ '.' :: validation.repr.toList) ++ '.' :: rule.repr.toList := by
  simp [policyId]

theorem policyId_injective {name name' : String} {validation validation' rule rule' : Nat}
    (h : policyId name validation rule = policyId name' validation' rule') :
    name = name' ∧ validation = validation' ∧ rule = rule' := by
  have point : ∀ n : Nat, '.' ∉ n.repr.toList := Rbac.notMem_repr (by decide)
  have texts := congrArg String.toList h
  rw [toList_policyId, toList_policyId] at texts
  obtain ⟨front, last⟩ := Text.append_cons_inj (point rule) (point rule') texts
  obtain ⟨front, first⟩ := Text.append_cons_inj (point validation) (point validation') front
  exact ⟨String.toList_injective front, Rbac.repr_injective first, Rbac.repr_injective last⟩

/-! ## Policies -/

/-- What a policy asks beside its scopes: that the object is of the rule, by its type and its name, and
then that the validation is false. -/
def refusal (typeCondition : Condition) (names : List String) (condition : Condition) : Condition :=
  .all [typeCondition, namesCondition names, .not condition]

/-! ## The rules of a validation -/

/-- What a rule is skipped for. -/
inductive IsRefused (settings : Settings) (rule : Rule) : SkipReason → Prop
  | idle (acts : actionScope? (operations rule.operations) = none) : IsRefused settings rule .noOperations
  | untyped {action : Cedar.ActionScope} {reason : SkipReason}
      (acts : actionScope? (operations rule.operations) = some action)
      (fails : typeMatch settings rule = .error reason) : IsRefused settings rule reason

/-- Only a wildcard over a part of a type ends the rules. -/
def SkipReason.ends : SkipReason → Bool
  | partialWildcard .. => true
  | _ => false

/-- What one validation makes of a compilation, from rule to rule. -/
inductive Compiles (settings : Settings) (name : String) (validation : Nat) (condition : Condition) :
    List (Rule × Nat) → Compilation → Compilation → Prop
  | nil {c : Compilation} : Compiles settings name validation condition [] c c
  | ended {rule : Rule} {index : Nat} {rest : List (Rule × Nat)} {c : Compilation} {reason : SkipReason}
      (refused : IsRefused settings rule reason) (ends : reason.ends = true) :
      Compiles settings name validation condition ((rule, index) :: rest) c
        (c.skip ⟨name, validation, some index, reason⟩)
  | skipped {rule : Rule} {index : Nat} {rest : List (Rule × Nat)} {c d : Compilation}
      {reason : SkipReason} (refused : IsRefused settings rule reason) (goesOn : reason.ends = false)
      (next : Compiles settings name validation condition rest
        (c.skip ⟨name, validation, some index, reason⟩) d) :
      Compiles settings name validation condition ((rule, index) :: rest) c d
  | placed {rule : Rule} {index : Nat} {rest : List (Rule × Nat)} {c warned d : Compilation}
      {action : Cedar.ActionScope} {resource : Cedar.Scope} {typeCondition : Condition}
      {inferred : List Warning} {collection : PolicyCollection}
      (acts : actionScope? (operations rule.operations) = some action)
      (typed : typeMatch settings rule = .ok ((resource, typeCondition), inferred))
      (sameCollection : warned.collection = c.collection) (sameErrors : warned.errors = c.errors)
      (inserted : c.collection.insert (forbid name validation index action resource
        (refusal typeCondition rule.resourceNames condition)) = .ok collection)
      (next : Compiles settings name validation condition rest { warned with collection } d) :
      Compiles settings name validation condition ((rule, index) :: rest) c d
  | repeated {rule : Rule} {index : Nat} {rest : List (Rule × Nat)} {c warned d : Compilation}
      {action : Cedar.ActionScope} {resource : Cedar.Scope} {typeCondition : Condition}
      {inferred : List Warning} {e : Error}
      (acts : actionScope? (operations rule.operations) = some action)
      (typed : typeMatch settings rule = .ok ((resource, typeCondition), inferred))
      (sameCollection : warned.collection = c.collection) (sameErrors : warned.errors = c.errors)
      (taken : c.collection.insert (forbid name validation index action resource
        (refusal typeCondition rule.resourceNames condition)) = .error e)
      (next : Compiles settings name validation condition rest (warned.skip
        ⟨name, validation, some index, .duplicatePolicy (policyId name validation index)⟩) d) :
      Compiles settings name validation condition ((rule, index) :: rest) c d

theorem collection_warn (c : Compilation) (warning : Warning) :
    (c.warn warning).collection = c.collection := by
  unfold Compilation.warn
  split <;> rfl

theorem collection_foldl_warn {α : Type} (warning : α → Warning) (items : List α) (c : Compilation) :
    (items.foldl (fun c i => c.warn (warning i)) c).collection = c.collection := by
  induction items generalizing c with
  | nil => rfl
  | cons i items ih => rw [List.foldl_cons, ih, collection_warn]

theorem errors_foldl_warn {α : Type} (warning : α → Warning) (items : List α) (c : Compilation) :
    (items.foldl (fun c i => c.warn (warning i)) c).errors = c.errors := by
  have same (c : Compilation) (w : Warning) : (c.warn w).errors = c.errors := by
    unfold Compilation.warn
    split <;> rfl
  induction items generalizing c with
  | nil => rfl
  | cons i items ih => rw [List.foldl_cons, ih, same]

/-- One validation takes the rules one by one, up to one that ends them. -/
theorem compiles_compileRules (settings : Settings) (name : String) (validation : Nat)
    (condition : Condition) (part : List (Rule × Nat)) (c : Compilation) :
    Compiles settings name validation condition part c
      (compileRules settings name validation condition part c) := by
  induction part generalizing c with
  | nil => exact .nil
  | cons first rest ih =>
    obtain ⟨rule, index⟩ := first
    unfold compileRules
    split
    · rename_i none
      exact .skipped (.idle none) rfl (ih _)
    · rename_i action acts
      split
      · rename_i fails
        exact .ended (.untyped acts fails) rfl
      · rename_i reason whole fails
        have goesOn : reason.ends = false := by
          cases reason with
          | partialWildcard groups versions resources => exact absurd rfl (whole _ _ _)
          | _ => rfl
        exact .skipped (.untyped acts fails) goesOn (ih _)
      · rename_i resource typeCondition inferred typed
        have sameCollection : (inferred.foldl Compilation.warn c).collection = c.collection :=
          collection_foldl_warn id inferred c
        have sameErrors : (inferred.foldl Compilation.warn c).errors = c.errors :=
          errors_foldl_warn id inferred c
        generalize inferred.foldl Compilation.warn c = warned at sameCollection sameErrors ⊢
        simp only
        split
        · rename_i inserted
          rw [sameCollection] at inserted
          exact .placed acts typed sameCollection sameErrors inserted (ih _)
        · rename_i taken
          rw [sameCollection] at taken
          exact .repeated acts typed sameCollection sameErrors taken (ih _)

/-! ## Policies of a compilation -/

/-- The policy that a validation and a rule of an admission policy yield. -/
inductive Emits (settings : Settings) (policy : Policy) (validation rule : Nat) : CompiledPolicy → Prop
  | intro {rules : List Rule} {r : Rule} {source : String} {condition typeCondition : Condition}
      {warnings : List Cel.Warning} {action : Cedar.ActionScope} {resource : Cedar.Scope}
      {inferred : List Warning} (given : policy.rules = some rules) (listed : rules[rule]? = some r)
      (stated : policy.validations[validation]? = some source)
      (compiled : validationCondition source = .ok (condition, warnings))
      (acts : actionScope? (operations r.operations) = some action)
      (typed : typeMatch settings r = .ok ((resource, typeCondition), inferred)) :
      Emits settings policy validation rule (forbid policy.name validation rule action resource
        (refusal typeCondition r.resourceNames condition))

section
variable {settings : Settings} {policy : Policy}

/-- All that a compilation holds was emitted. -/
def Sound (settings : Settings) (policy : Policy) (c : Compilation) : Prop :=
  ∀ p ∈ c.collection.policies.values, ∃ validation rule, Emits settings policy validation rule p

theorem Sound.new : Sound settings policy (.new policy.name) := by
  intro p mem
  cases mem

/-- Diagnostics and warnings change no policies. -/
theorem Sound.of_collection_eq {c d : Compilation} (sound : Sound settings policy c)
    (same : d.collection = c.collection) : Sound settings policy d := by
  unfold Sound
  rw [same]
  exact sound

theorem Sound.insert {c : Compilation} {collection : PolicyCollection} {p : CompiledPolicy}
    {validation rule : Nat} (sound : Sound settings policy c)
    (emits : Emits settings policy validation rule p) (inserted : c.collection.insert p = .ok collection) :
    Sound settings policy { c with collection } := by
  intro q mem
  rcases PolicyCollection.eq_or_mem_of_insert inserted mem with rfl | mem
  · exact ⟨validation, rule, emits⟩
  · exact sound q mem

/-- One validation adds what it yields for the rules. -/
theorem Sound.compiles {rules : List Rule} {source : String} {validation : Nat}
    {condition : Condition} {warnings : List Cel.Warning} (given : policy.rules = some rules)
    (stated : policy.validations[validation]? = some source)
    (compiled : validationCondition source = .ok (condition, warnings))
    {part : List (Rule × Nat)} (listed : ∀ r ∈ part, rules[r.2]? = some r.1)
    {c d : Compilation} (compiles : Compiles settings policy.name validation condition part c d)
    (sound : Sound settings policy c) : Sound settings policy d := by
  induction compiles with
  | nil => exact sound
  | ended => exact sound.of_collection_eq rfl
  | skipped refused goesOn next ih =>
    exact ih (List.forall_mem_cons.mp listed).2 (sound.of_collection_eq rfl)
  | placed acts typed sameCollection sameErrors inserted next ih =>
    obtain ⟨first, others⟩ := List.forall_mem_cons.mp listed
    have emits := Emits.intro given first stated compiled acts typed
    exact ih others ((sound.insert emits inserted).of_collection_eq rfl)
  | repeated acts typed sameCollection sameErrors taken next ih =>
    exact ih (List.forall_mem_cons.mp listed).2 (sound.of_collection_eq sameCollection)

theorem Sound.compileValidation {rules : List Rule} (given : policy.rules = some rules)
    {validation : String × Nat} (stated : policy.validations[validation.2]? = some validation.1)
    {c : Compilation} (sound : Sound settings policy c) :
    Sound settings policy (Admission.compileValidation settings policy.name rules c validation) := by
  obtain ⟨source, index⟩ := validation
  unfold Admission.compileValidation
  simp only
  split
  · exact sound.of_collection_eq rfl
  · rename_i condition warnings compiled
    have warned := sound.of_collection_eq (collection_foldl_warn (.expression index) warnings c)
    refine warned.compiles given stated compiled ?_ (compiles_compileRules _ _ _ _ _ _)
    rintro ⟨r, i⟩ mem
    exact List.mem_zipIdx_iff_getElem?.mp mem

/-- A compilation holds nothing but what one validation and one rule emit. -/
theorem emits_of_mem {p : CompiledPolicy} (h : p ∈ (compile settings policy).collection.policies.values) :
    ∃ validation rule, Emits settings policy validation rule p := by
  revert h p
  change Sound settings policy (compile settings policy)
  unfold compile
  split
  · exact .new
  · rename_i rules given
    have stated : ∀ v ∈ policy.validations.zipIdx, policy.validations[v.2]? = some v.1 := by
      rintro ⟨source, i⟩ mem
      exact List.mem_zipIdx_iff_getElem?.mp mem
    exact List.foldlRecOn _ _ Sound.new fun _ sound v mem =>
      sound.compileValidation given (stated v mem)

/-- Under an id of a validation and a rule stands the policy of these two. -/
theorem emits_of_find? {validation rule : Nat} {p : CompiledPolicy}
    (found : (compile settings policy).collection.policies.find? (policyId policy.name validation rule) =
      some p) : Emits settings policy validation rule p := by
  have key := (compile settings policy).collection.keyed _ (SortedMap.mem_of_find? found)
  have mem : p ∈ (compile settings policy).collection.policies.values :=
    List.mem_map.mpr ⟨_, SortedMap.mem_of_find? found, rfl⟩
  obtain ⟨validation', rule', emits⟩ := emits_of_mem mem
  have id : p.id = policyId policy.name validation' rule' := by
    cases emits
    rfl
  obtain ⟨-, rfl, rfl⟩ := policyId_injective (key.trans id)
  exact emits

end

/-- A single validation and a single rule yield the policy of these two. -/
theorem find?_compile_single {settings : Settings} {policy : Policy} {source : String} {r : Rule}
    {condition typeCondition : Condition} {warnings : List Cel.Warning} {action : Cedar.ActionScope}
    {resource : Cedar.Scope} {inferred : List Warning} (given : policy.rules = some [r])
    (stated : policy.validations = [source])
    (compiled : validationCondition source = .ok (condition, warnings))
    (acts : actionScope? (operations r.operations) = some action)
    (typed : typeMatch settings r = .ok ((resource, typeCondition), inferred)) :
    (compile settings policy).collection.policies.find? (policyId policy.name 0 0) =
      some (forbid policy.name 0 0 action resource
        (refusal typeCondition r.resourceNames condition)) := by
  have warned (c : Compilation) : (inferred.foldl Compilation.warn
      (warnings.foldl (fun c w => c.warn (.expression 0 w)) c)).collection = c.collection := by
    rw [← collection_foldl_warn (.expression 0) warnings c]
    exact collection_foldl_warn id inferred _
  have inserted (p : CompiledPolicy) : ∃ collection,
      (Compilation.new policy.name).collection.insert p = .ok collection ∧
        collection.policies.find? p.id = some p :=
    ⟨_, rfl, by simp [SortedMap.find?_insert]⟩
  obtain ⟨collection, isNew, found⟩ := inserted
    (forbid policy.name 0 0 action resource (refusal typeCondition r.resourceNames condition))
  have whole : compile settings policy =
      compileValidation settings policy.name [r] (.new policy.name) (source, 0) := by
    simp [compile, given, stated]
  rw [whole]
  unfold compileValidation
  simp only [compiled]
  rw [List.zipIdx_cons, List.zipIdx_nil]
  unfold compileRules
  simp only [acts, typed, warned]
  rw [← refusal, isNew]
  exact found

end ClusterPolicy.Admission
