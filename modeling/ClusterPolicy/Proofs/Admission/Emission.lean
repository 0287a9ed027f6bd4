import ClusterPolicy.Proofs.Admission.Compilation
import ClusterPolicy.Proofs.Admission.Match

namespace ClusterPolicy.Admission

/-! ## The rules of a validation -/

/-- A rule that lists operations, but only some of groups, versions and resources. -/
structure Rule.Ends (rule : Rule) : Prop where
  operations : rule.operations ≠ []
  some : ¬rule.IsUntyped
  other : ¬rule.IsTyped

/-- Of the rules that are read in order, one yields a policy. -/
inductive Reaches : List (Rule × Nat) → Rule → Nat → Prop
  | here {rule : Rule} {index : Nat} {rest : List (Rule × Nat)} (operations : rule.operations ≠ [])
      (matchable : rule.IsMatchable) : Reaches ((rule, index) :: rest) rule index
  | later {first : Rule × Nat} {rest : List (Rule × Nat)} {rule : Rule} {index : Nat}
      (goesOn : ¬first.1.Ends) (reaches : Reaches rest rule index) : Reaches (first :: rest) rule index

theorem Reaches.mem {part : List (Rule × Nat)} {rule : Rule} {index : Nat}
    (h : Reaches part rule index) : (rule, index) ∈ part := by
  induction h with
  | here => exact List.mem_cons_self
  | later _ _ ih => exact List.mem_cons_of_mem _ ih

theorem Reaches.isMatchable {part : List (Rule × Nat)} {rule : Rule} {index : Nat}
    (h : Reaches part rule index) : rule.IsMatchable := by
  induction h with
  | here _ matchable => exact matchable
  | later _ _ ih => exact ih

section
variable {settings : Settings} {rule : Rule}

theorem actionScope?_eq_none {given : List String} :
    actionScope? (operations given) = none ↔ given = [] := by
  constructor
  · intro none
    by_contra some
    obtain ⟨action, isSome⟩ := exists_actionScope? some
    cases none.symm.trans isSome
  · rintro rfl
    exact actionScope?_nil

/-- A rule is refused for its operations or for its types. -/
theorem IsRefused.not_yields {reason : SkipReason} (h : IsRefused settings rule reason) :
    ¬(rule.operations ≠ [] ∧ rule.IsMatchable) := by
  rintro ⟨operations, matchable⟩
  cases h with
  | idle acts => exact operations (actionScope?_eq_none.mp acts)
  | untyped acts fails =>
    have spec := typeMatched_typeMatch settings rule
    rw [fails] at spec
    cases spec with
    | mixed some other => exact matchable.elim some fun typed => other typed.1
    | part typed mem slash => exact matchable.elim (fun any => typed.groups any.1) fun whole => whole.2 _ mem slash

theorem IsRefused.ends_iff {reason : SkipReason} (h : IsRefused settings rule reason) :
    reason.ends = true ↔ rule.Ends := by
  cases h with
  | idle acts => exact iff_of_false nofun fun ends => ends.operations (actionScope?_eq_none.mp acts)
  | untyped acts fails =>
    have operations : rule.operations ≠ [] := by
      intro none
      cases acts.symm.trans (actionScope?_eq_none.mpr none)
    have spec := typeMatched_typeMatch settings rule
    rw [fails] at spec
    cases spec with
    | mixed some other => exact iff_of_true rfl ⟨operations, some, other⟩
    | part typed => exact iff_of_false nofun fun ends => ends.other typed

section
variable {m : (Cedar.Scope × Condition) × List Warning} (typed : typeMatch settings rule = .ok m)
include typed

theorem isMatchable_of_typed : rule.IsMatchable := by
  have spec := typeMatched_typeMatch settings rule
  rw [typed] at spec
  cases spec with
  | matched matchable => exact matchable

theorem not_ends_of_typed : ¬rule.Ends :=
  fun ends => (isMatchable_of_typed typed).elim ends.some fun typed => ends.other typed.1

theorem yields_of_typed {action : Cedar.ActionScope}
    (acts : actionScope? (operations rule.operations) = some action) :
    rule.operations ≠ [] ∧ rule.IsMatchable := by
  refine ⟨fun none => ?_, isMatchable_of_typed typed⟩
  cases acts.symm.trans (actionScope?_eq_none.mpr none)

end

end

section
variable {settings : Settings} {name : String} {validation : Nat} {condition : Condition}

/-- The first rule yields its policy, and the others follow unless it ends them. -/
theorem exists_reaches_cons {rule : Rule} {index : Nat} {rest : List (Rule × Nat)} {key : String} :
    (∃ r i, Reaches ((rule, index) :: rest) r i ∧ key = policyId name validation i) ↔
      (rule.operations ≠ [] ∧ rule.IsMatchable) ∧ key = policyId name validation index ∨
        ¬rule.Ends ∧ ∃ r i, Reaches rest r i ∧ key = policyId name validation i := by
  constructor
  · rintro ⟨r, i, reaches, same⟩
    cases reaches with
    | here operations matchable => exact .inl ⟨⟨operations, matchable⟩, same⟩
    | later goesOn reaches => exact .inr ⟨goesOn, r, i, reaches, same⟩
  · rintro (⟨⟨operations, matchable⟩, same⟩ | ⟨goesOn, r, i, reaches, same⟩)
    · exact ⟨rule, index, .here operations matchable, same⟩
    · exact ⟨r, i, .later goesOn reaches, same⟩

/-- The ids that one validation adds are those of the rules that it reaches. -/
theorem Compiles.contains {part : List (Rule × Nat)} {c d : Compilation} {key : String}
    (compiles : Compiles settings name validation condition part c d) :
    d.collection.policies.contains key = true ↔ c.collection.policies.contains key = true ∨
      ∃ rule index, Reaches part rule index ∧ key = policyId name validation index := by
  induction compiles with
  | nil => exact (or_iff_left (fun ⟨_, _, reaches, _⟩ => nomatch reaches)).symm
  | ended refused ends =>
    rw [exists_reaches_cons]
    simp [Compilation.skip, refused.not_yields, refused.ends_iff.mp ends]
  | skipped refused goesOn next ih =>
    have goesOn : ¬_ := refused.ends_iff.not.mp (Bool.eq_false_iff.mp goesOn)
    rw [exists_reaches_cons, ih]
    simp [Compilation.skip, refused.not_yields, goesOn]
  | placed acts typed sameCollection sameErrors inserted next ih =>
    rw [exists_reaches_cons, ih, PolicyCollection.contains_insert inserted,
      and_iff_right (yields_of_typed typed acts), and_iff_right (not_ends_of_typed typed),
      or_assoc, or_left_comm]
    rfl
  | @repeated rule index _ c _ _ _ _ _ _ _ acts typed sameCollection sameErrors taken next ih =>
    have own : key = policyId name validation index → c.collection.policies.contains key = true := by
      rintro rfl
      exact PolicyCollection.contains_of_insert_eq_error taken
    rw [exists_reaches_cons, ih, and_iff_right (yields_of_typed typed acts),
      and_iff_right (not_ends_of_typed typed), ← or_assoc, or_iff_left_of_imp own]
    simp only [Compilation.skip, sameCollection]

/-! ## The validations of a policy -/

theorem contains_compileValidation {rules : List Rule} {v : String × Nat} {c : Compilation}
    {key : String} :
    (compileValidation settings name rules c v).collection.policies.contains key = true ↔
      c.collection.policies.contains key = true ∨
        (∃ compiled, validationCondition v.1 = .ok compiled) ∧
          ∃ rule index, Reaches rules.zipIdx rule index ∧ key = policyId name v.2 index := by
  obtain ⟨source, validation⟩ := v
  unfold compileValidation
  simp only
  cases compiled : validationCondition source with
  | error reason => simp [Compilation.skip]
  | ok result =>
    obtain ⟨condition, warnings⟩ := result
    rw [(compiles_compileRules _ _ _ _ _ _).contains, collection_foldl_warn]
    simp

theorem contains_foldl_compileValidation {rules : List Rule} {validations : List (String × Nat)}
    {c : Compilation} {key : String} :
    (validations.foldl (compileValidation settings name rules) c).collection.policies.contains key =
        true ↔
      c.collection.policies.contains key = true ∨
        ∃ v ∈ validations, (∃ compiled, validationCondition v.1 = .ok compiled) ∧
          ∃ rule index, Reaches rules.zipIdx rule index ∧ key = policyId name v.2 index := by
  induction validations generalizing c with
  | nil => simp
  | cons v others ih =>
    rw [List.foldl_cons, ih, contains_compileValidation, or_assoc]
    simp only [List.mem_cons, exists_eq_or_imp]

/-- A validation and the rule at an index yield a policy: the validation can be compiled, and the rule
is one of those that it is compiled for. -/
structure Yields (policy : Policy) (validation index : Nat) (rule : Rule) : Prop where
  compiled : ∃ source result, policy.validations[validation]? = some source ∧
    validationCondition source = .ok result
  reached : ∃ rules, policy.rules = some rules ∧ Reaches rules.zipIdx rule index

/-- A compilation holds a policy for all that yields one, and no others. -/
theorem contains_compile {policy : Policy} {key : String} :
    (compile settings policy).collection.policies.contains key = true ↔
      ∃ validation index rule, Yields policy validation index rule ∧
        key = policyId policy.name validation index := by
  unfold compile
  cases given : policy.rules with
  | none =>
    refine iff_of_false nofun ?_
    rintro ⟨-, -, -, ⟨-, rules, some, -⟩, -⟩
    cases given.symm.trans some
  | some rules =>
    simp only [contains_foldl_compileValidation]
    rw [or_iff_right nofun]
    constructor
    · rintro ⟨⟨source, validation⟩, mem, ⟨result, compiled⟩, rule, index, reaches, same⟩
      have stated := List.mem_zipIdx_iff_getElem?.mp mem
      exact ⟨validation, index, rule, ⟨⟨source, result, stated, compiled⟩, rules, given, reaches⟩, same⟩
    · rintro ⟨validation, index, rule, ⟨⟨source, result, stated, compiled⟩, _, given', reaches⟩, same⟩
      cases given.symm.trans given'
      exact ⟨(source, validation), List.mem_zipIdx_iff_getElem?.mpr stated, ⟨result, compiled⟩, rule,
        index, reaches, same⟩

end

end ClusterPolicy.Admission
