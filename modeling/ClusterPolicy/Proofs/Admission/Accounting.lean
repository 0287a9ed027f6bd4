import ClusterPolicy.Command.Conversion
import ClusterPolicy.Manifest.Reading
import ClusterPolicy.Proofs.Admission.Emission
import ClusterPolicy.Proofs.Cel.Compilation
import ClusterPolicy.Proofs.Collection.Loading
import ClusterPolicy.Proofs.Collection.Merging

namespace ClusterPolicy.Admission

/-! ## Rules in order -/

/-- No rule before one ends the rules. -/
inductive Arrives : List (Rule × Nat) → Rule → Nat → Prop
  | here {rule : Rule} {index : Nat} {rest : List (Rule × Nat)} :
      Arrives ((rule, index) :: rest) rule index
  | later {first : Rule × Nat} {rest : List (Rule × Nat)} {rule : Rule} {index : Nat}
      (goesOn : ¬first.1.Ends) (arrives : Arrives rest rule index) : Arrives (first :: rest) rule index

section
variable {part : List (Rule × Nat)} {rule : Rule} {index : Nat}

theorem Arrives.mem (h : Arrives part rule index) : (rule, index) ∈ part := by
  induction h with
  | here => exact List.mem_cons_self
  | later _ _ ih => exact List.mem_cons_of_mem _ ih

theorem reaches_iff : Reaches part rule index ↔
    Arrives part rule index ∧ rule.operations ≠ [] ∧ rule.IsMatchable := by
  constructor
  · intro reaches
    induction reaches with
    | here operations matchable => exact ⟨.here, operations, matchable⟩
    | later goesOn _ ih => exact ⟨.later goesOn ih.1, ih.2⟩
  · rintro ⟨arrives, operations, matchable⟩
    induction arrives with
    | here => exact .here operations matchable
    | later goesOn _ ih => exact .later goesOn (ih operations matchable)

/-- A rule is left out if one before it ends the rules. -/
theorem arrives_or_exists_ends (increasing : part.Pairwise fun e f => e.2 < f.2)
    (mem : (rule, index) ∈ part) : Arrives part rule index ∨
      ∃ earlier j, Arrives part earlier j ∧ j < index ∧ earlier.Ends := by
  induction part with
  | nil => cases mem
  | cons first rest ih =>
    obtain ⟨before, increasing⟩ := List.pairwise_cons.mp increasing
    rcases List.mem_cons.mp mem with rfl | mem
    · exact .inl .here
    · by_cases ends : first.1.Ends
      · exact .inr ⟨first.1, first.2, .here, before _ mem, ends⟩
      · rcases ih increasing mem with arrives | ⟨earlier, j, arrives, less, endsThere⟩
        · exact .inl (.later ends arrives)
        · exact .inr ⟨earlier, j, .later ends arrives, less, endsThere⟩

theorem Arrives.not_ends (increasing : part.Pairwise fun e f => e.2 < f.2)
    (arrives : Arrives part rule index) {earlier : Rule} {j : Nat} (mem : (earlier, j) ∈ part)
    (less : j < index) : ¬earlier.Ends := by
  induction arrives with
  | here =>
    obtain ⟨before, -⟩ := List.pairwise_cons.mp increasing
    rcases List.mem_cons.mp mem with same | mem
    · cases same
      exact absurd less (Nat.lt_irrefl _)
    · exact absurd less (Nat.lt_asymm (before _ mem))
  | later goesOn _ ih =>
    obtain ⟨-, increasing⟩ := List.pairwise_cons.mp increasing
    rcases List.mem_cons.mp mem with rfl | mem
    · exact goesOn
    · exact ih increasing mem less

end

/-! ## What is reported -/

theorem IsRefused.unique {settings : Settings} {rule : Rule} {reason reason' : SkipReason}
    (h : IsRefused settings rule reason) (h' : IsRefused settings rule reason') : reason = reason' := by
  cases h with
  | idle acts =>
    cases h' with
    | idle => rfl
    | untyped acts' => cases acts.symm.trans acts'
  | untyped acts fails =>
    cases h' with
    | idle acts' => cases acts.symm.trans acts'
    | untyped _ fails' => exact Except.error.inj (fails.symm.trans fails')

/-- What a rule can be refused for by itself. -/
def SkipReason.isOfRule : SkipReason → Bool
  | partialWildcard .. | subresource _ | noOperations => true
  | syntaxError _ | unsupported _ | duplicatePolicy _ | overflow => false

theorem IsRefused.isOfRule {settings : Settings} {rule : Rule} {reason : SkipReason}
    (h : IsRefused settings rule reason) : reason.isOfRule = true := by
  cases h with
  | idle => rfl
  | untyped _ fails =>
    have spec := typeMatched_typeMatch settings rule
    rw [fails] at spec
    cases spec <;> rfl

theorem IsRefused.ne {settings : Settings} {rule : Rule} {reason other : SkipReason}
    (h : IsRefused settings rule reason) (foreign : other.isOfRule = false) : reason ≠ other := by
  rintro rfl
  cases foreign.symm.trans h.isOfRule

/-- A rule yields a policy, or it is refused. -/
theorem exists_isRefused (settings : Settings) {rule : Rule}
    (h : ¬(rule.operations ≠ [] ∧ rule.IsMatchable)) : ∃ reason, IsRefused settings rule reason := by
  cases acts : actionScope? (operations rule.operations) with
  | none => exact ⟨_, .idle acts⟩
  | some action =>
    cases typed : typeMatch settings rule with
    | ok m => exact absurd (yields_of_typed typed acts) h
    | error reason => exact ⟨reason, .untyped acts typed⟩

section
variable {settings : Settings} {name : String} {validation : Nat} {condition : Condition}

theorem exists_arrives_cons {rule : Rule} {index : Nat} {rest : List (Rule × Nat)} {d : Diagnostic} :
    (∃ r i reason, Arrives ((rule, index) :: rest) r i ∧ IsRefused settings r reason ∧
        d = ⟨name, validation, some i, reason⟩) ↔
      (∃ reason, IsRefused settings rule reason ∧ d = ⟨name, validation, some index, reason⟩) ∨
        ¬rule.Ends ∧ ∃ r i reason, Arrives rest r i ∧ IsRefused settings r reason ∧
          d = ⟨name, validation, some i, reason⟩ := by
  constructor
  · rintro ⟨r, i, reason, arrives, refused, same⟩
    cases arrives with
    | here => exact .inl ⟨reason, refused, same⟩
    | later goesOn arrives => exact .inr ⟨goesOn, r, i, reason, arrives, refused, same⟩
  · rintro (⟨reason, refused, same⟩ | ⟨goesOn, r, i, reason, arrives, refused, same⟩)
    · exact ⟨rule, index, reason, .here, refused, same⟩
    · exact ⟨r, i, reason, .later goesOn arrives, refused, same⟩

/-- No id is taken before its policy comes, so only rules that are refused are reported. -/
theorem Compiles.mem_errors {part : List (Rule × Nat)} {c c' : Compilation}
    (compiles : Compiles settings name validation condition part c c')
    (increasing : part.Pairwise fun e f => e.2 < f.2)
    (free : ∀ e ∈ part, c.collection.policies.contains (policyId name validation e.2) = false)
    {d : Diagnostic} : d ∈ c'.errors ↔ d ∈ c.errors ∨ ∃ rule index reason,
      Arrives part rule index ∧ IsRefused settings rule reason ∧
        d = ⟨name, validation, some index, reason⟩ := by
  induction compiles with
  | nil => exact (or_iff_left (fun ⟨_, _, _, arrives, _⟩ => nomatch arrives)).symm
  | ended refused ends =>
    have only {reason : SkipReason} : IsRefused settings _ reason ↔ reason = _ :=
      ⟨fun other => other.unique refused, fun same => same ▸ refused⟩
    rw [exists_arrives_cons]
    simp [Compilation.skip, only, refused.ends_iff.mp ends]
  | skipped refused goesOn next ih =>
    obtain ⟨-, increasing⟩ := List.pairwise_cons.mp increasing
    have only {reason : SkipReason} : IsRefused settings _ reason ↔ reason = _ :=
      ⟨fun other => other.unique refused, fun same => same ▸ refused⟩
    have goesOn : ¬_ := refused.ends_iff.not.mp (Bool.eq_false_iff.mp goesOn)
    rw [ih increasing (List.forall_mem_cons.mp free).2, exists_arrives_cons]
    simp [Compilation.skip, only, goesOn, or_assoc]
  | placed acts typed sameCollection sameErrors inserted next ih =>
    obtain ⟨before, increasing⟩ := List.pairwise_cons.mp increasing
    have accepted (reason : SkipReason) : ¬IsRefused settings _ reason :=
      fun refused => refused.not_yields (yields_of_typed typed acts)
    have freeThen := (List.forall_mem_cons.mp free).2
    rw [ih increasing, exists_arrives_cons]
    · simp [accepted, not_ends_of_typed typed, sameErrors]
    · intro e mem
      rw [Bool.eq_false_iff]
      intro taken
      rcases (PolicyCollection.contains_insert inserted _).mp taken with same | taken
      · obtain ⟨-, -, rfl⟩ := policyId_injective same
        exact absurd (before e mem) (Nat.lt_irrefl _)
      · exact Bool.eq_false_iff.mp (freeThen e mem) taken
  | repeated acts typed sameCollection sameErrors taken next ih =>
    have absent := (List.forall_mem_cons.mp free).1
    cases absent.symm.trans (PolicyCollection.contains_of_insert_eq_error taken)

end

/-- What is reported of one validation: that it is not read, or of each rule that it comes to and that
is refused. -/
inductive Reports (settings : Settings) (name : String) (rules : List Rule) (source : String)
    (validation : Nat) : Diagnostic → Prop
  | unread {reason : SkipReason} (fails : validationCondition source = .error reason) :
      Reports settings name rules source validation ⟨name, validation, none, reason⟩
  | refused {compiled : Condition × List Cel.Warning} {rule : Rule} {index : Nat} {reason : SkipReason}
      (reads : validationCondition source = .ok compiled) (arrives : Arrives rules.zipIdx rule index)
      (refused : IsRefused settings rule reason) :
      Reports settings name rules source validation ⟨name, validation, some index, reason⟩

section
variable {settings : Settings} {name : String} {rules : List Rule}

theorem Reports.validation_eq {source : String} {validation : Nat} {d : Diagnostic}
    (h : Reports settings name rules source validation d) : d.validation = validation := by
  cases h <;> rfl

theorem mem_errors_compileValidation {v : String × Nat} {c : Compilation}
    (free : ∀ i, c.collection.policies.contains (policyId name v.2 i) = false) {d : Diagnostic} :
    d ∈ (compileValidation settings name rules c v).errors ↔
      d ∈ c.errors ∨ Reports settings name rules v.1 v.2 d := by
  obtain ⟨source, validation⟩ := v
  unfold compileValidation
  simp only
  cases read : validationCondition source with
  | error reason =>
    simp only [Compilation.skip, List.mem_append, List.mem_singleton]
    refine or_congr_right ⟨?_, ?_⟩
    · rintro rfl
      exact .unread read
    · intro reports
      cases reports with
      | unread fails => cases read.symm.trans fails; rfl
      | refused reads => cases read.symm.trans reads
  | ok compiled =>
    obtain ⟨condition, warnings⟩ := compiled
    have compiles := compiles_compileRules settings name validation condition rules.zipIdx
      (warnings.foldl (fun c w => c.warn (.expression validation w)) c)
    rw [compiles.mem_errors (Rbac.increasing_zipIdx rules), errors_foldl_warn]
    · refine or_congr_right ⟨?_, ?_⟩
      · rintro ⟨rule, index, reason, arrives, refused, rfl⟩
        exact .refused read arrives refused
      · intro reports
        cases reports with
        | unread fails => cases read.symm.trans fails
        | refused _ arrives refused => exact ⟨_, _, _, arrives, refused, rfl⟩
    · intro e _
      rw [collection_foldl_warn]
      exact free e.2

theorem mem_errors_foldl_compileValidation {validations : List (String × Nat)} {c : Compilation}
    (increasing : validations.Pairwise fun v w => v.2 < w.2)
    (free : ∀ v ∈ validations, ∀ i, c.collection.policies.contains (policyId name v.2 i) = false)
    {d : Diagnostic} : d ∈ (validations.foldl (compileValidation settings name rules) c).errors ↔
      d ∈ c.errors ∨ ∃ v ∈ validations, Reports settings name rules v.1 v.2 d := by
  induction validations generalizing c with
  | nil => simp
  | cons v others ih =>
    obtain ⟨before, increasing⟩ := List.pairwise_cons.mp increasing
    obtain ⟨freeFirst, freeOthers⟩ := List.forall_mem_cons.mp free
    have freeThen : ∀ w ∈ others, ∀ i, (compileValidation settings name rules c v).collection.policies.contains
        (policyId name w.2 i) = false := by
      intro w mem i
      rw [Bool.eq_false_iff]
      intro taken
      rcases contains_compileValidation.mp taken with taken | ⟨-, _, _, -, same⟩
      · exact Bool.eq_false_iff.mp (freeOthers w mem i) taken
      · obtain ⟨-, same, -⟩ := policyId_injective same
        exact absurd (before w mem) (same ▸ Nat.lt_irrefl _)
    rw [List.foldl_cons, ih increasing freeThen, mem_errors_compileValidation freeFirst, or_assoc]
    simp only [List.mem_cons, exists_eq_or_imp]

/-- A compilation reports what is reported of its validations, and nothing else. -/
theorem mem_errors_compile {policy : Policy} {d : Diagnostic} :
    d ∈ (compile settings policy).errors ↔ ∃ rules source validation, policy.rules = some rules ∧
      policy.validations[validation]? = some source ∧
      Reports settings policy.name rules source validation d := by
  unfold compile
  cases given : policy.rules with
  | none => simp [Compilation.new]
  | some rules =>
    simp only
    rw [mem_errors_foldl_compileValidation (Rbac.increasing_zipIdx _) fun _ _ _ => rfl, or_iff_right nofun]
    constructor
    · rintro ⟨⟨source, validation⟩, mem, reports⟩
      exact ⟨rules, source, validation, rfl, List.mem_zipIdx_iff_getElem?.mp mem, reports⟩
    · rintro ⟨_, source, validation, same, stated, reports⟩
      cases same
      exact ⟨(source, validation), List.mem_zipIdx_iff_getElem?.mpr stated, reports⟩

end

/-! ## Fates -/

/-- What may become of one validation with one rule. -/
inductive Fate
  | compiled
  | unread
  | refused
  | cut
  deriving DecidableEq, Repr

/-- What shows a fate in a compilation: the policy, an error of the validation, an error of the two, or
an error of an earlier rule that ends the rules. -/
def Fate.IsOf (c : Compilation) (name : String) (validation rule : Nat) : Fate → Prop
  | compiled => c.collection.policies.contains (policyId name validation rule) = true
  | unread => ∃ d ∈ c.errors, d.validation = validation ∧ d.rule = none
  | refused => ∃ d ∈ c.errors, d.validation = validation ∧ d.rule = some rule
  | cut => ∃ d ∈ c.errors, d.validation = validation ∧ (∃ earlier < rule, d.rule = some earlier) ∧
      d.reason.ends = true

section
variable (settings : Settings) {policy : Policy} {rules : List Rule} {source : String} {rule : Rule}
  {validation : Nat} (index : Nat) (given : policy.rules = some rules)
  (stated : policy.validations[validation]? = some source) (listed : rules[index]? = some rule)
include given stated

theorem mem_errors_of_validation {d : Diagnostic} :
    d ∈ (compile settings policy).errors ∧ d.validation = validation ↔
      Reports settings policy.name rules source validation d := by
  rw [mem_errors_compile]
  constructor
  · rintro ⟨⟨_, _, _, given', stated', reports⟩, same⟩
    obtain rfl := reports.validation_eq.symm.trans same
    cases given.symm.trans given'
    cases stated.symm.trans stated'
    exact reports
  · intro reports
    exact ⟨⟨rules, source, validation, given, stated, reports⟩, reports.validation_eq⟩

theorem isOf_unread_iff : Fate.unread.IsOf (compile settings policy) policy.name validation index ↔
    ¬∃ compiled, validationCondition source = .ok compiled := by
  constructor
  · rintro ⟨d, mem, same, none⟩ ⟨compiled, reads⟩
    cases (mem_errors_of_validation settings given stated).mp ⟨mem, same⟩ with
    | unread fails => cases reads.symm.trans fails
    | refused => cases none
  · intro fails
    cases read : validationCondition source with
    | ok compiled => exact absurd ⟨compiled, read⟩ fails
    | error reason =>
      obtain ⟨mem, same⟩ := (mem_errors_of_validation settings given stated).mpr (.unread read)
      exact ⟨_, mem, same, rfl⟩

include listed

theorem isOf_compiled_iff :
    Fate.compiled.IsOf (compile settings policy) policy.name validation index ↔
      (∃ compiled, validationCondition source = .ok compiled) ∧ Arrives rules.zipIdx rule index ∧
        (rule.operations ≠ [] ∧ rule.IsMatchable) := by
  refine contains_compile.trans ⟨?_, ?_⟩
  · rintro ⟨_, _, other, ⟨⟨_, compiled, stated', reads⟩, _, given', reaches⟩, same⟩
    obtain ⟨-, rfl, rfl⟩ := policyId_injective same
    cases given.symm.trans given'
    cases stated.symm.trans stated'
    cases listed.symm.trans (List.mem_zipIdx_iff_getElem?.mp reaches.mem)
    exact ⟨⟨compiled, reads⟩, reaches_iff.mp reaches⟩
  · rintro ⟨⟨compiled, reads⟩, reaches⟩
    exact ⟨validation, index, rule, ⟨⟨source, compiled, stated, reads⟩, rules, given,
      reaches_iff.mpr reaches⟩, rfl⟩

theorem isOf_refused_iff :
    Fate.refused.IsOf (compile settings policy) policy.name validation index ↔
      (∃ compiled, validationCondition source = .ok compiled) ∧ Arrives rules.zipIdx rule index ∧
        ¬(rule.operations ≠ [] ∧ rule.IsMatchable) := by
  constructor
  · rintro ⟨d, mem, same, own⟩
    cases (mem_errors_of_validation settings given stated).mp ⟨mem, same⟩ with
    | unread => cases own
    | refused reads arrives refused =>
      cases own
      cases listed.symm.trans (List.mem_zipIdx_iff_getElem?.mp arrives.mem)
      exact ⟨⟨_, reads⟩, arrives, refused.not_yields⟩
  · rintro ⟨⟨compiled, reads⟩, arrives, unmatched⟩
    obtain ⟨reason, refused⟩ := exists_isRefused settings unmatched
    obtain ⟨mem, same⟩ := (mem_errors_of_validation settings given stated).mpr (.refused reads arrives refused)
    exact ⟨_, mem, same, rfl⟩

theorem isOf_cut_iff : Fate.cut.IsOf (compile settings policy) policy.name validation index ↔
    (∃ compiled, validationCondition source = .ok compiled) ∧ ¬Arrives rules.zipIdx rule index := by
  constructor
  · rintro ⟨d, mem, same, ⟨earlier, less, own⟩, ends⟩
    cases (mem_errors_of_validation settings given stated).mp ⟨mem, same⟩ with
    | unread => cases own
    | refused reads arrives refused =>
      cases own
      refine ⟨⟨_, reads⟩, fun later => ?_⟩
      exact later.not_ends (Rbac.increasing_zipIdx rules) arrives.mem less (refused.ends_iff.mp ends)
  · rintro ⟨⟨compiled, reads⟩, out⟩
    obtain ⟨earlier, j, arrives, less, ends⟩ :=
      (arrives_or_exists_ends (Rbac.increasing_zipIdx rules) (List.mem_zipIdx_iff_getElem?.mpr listed)).resolve_left
        out
    have unmatched : ¬(earlier.operations ≠ [] ∧ earlier.IsMatchable) := fun yields =>
      yields.2.elim ends.some fun typed => ends.other typed.1
    obtain ⟨reason, refused⟩ := exists_isRefused settings unmatched
    obtain ⟨mem, same⟩ := (mem_errors_of_validation settings given stated).mpr (.refused reads arrives refused)
    exact ⟨_, mem, same, ⟨j, less, rfl⟩, refused.ends_iff.mpr ends⟩

/-- The validation is not read; or it comes to the rule, which yields a policy or is refused; or it does
not come to the rule. -/
theorem exists_unique_fate :
    ∃! fate, Fate.IsOf (compile settings policy) policy.name validation index fate := by
  have compiled := isOf_compiled_iff settings index given stated listed
  have unread := isOf_unread_iff settings index given stated
  have refused := isOf_refused_iff settings index given stated listed
  have cut := isOf_cut_iff settings index given stated listed
  by_cases reads : ∃ compiled, validationCondition source = .ok compiled
  swap
  · refine ⟨.unread, unread.mpr reads, fun fate isOf => ?_⟩
    cases fate <;> grind
  by_cases arrives : Arrives rules.zipIdx rule index
  swap
  · refine ⟨.cut, cut.mpr ⟨reads, arrives⟩, fun fate isOf => ?_⟩
    cases fate <;> grind
  by_cases yields : rule.operations ≠ [] ∧ rule.IsMatchable
  · refine ⟨.compiled, compiled.mpr ⟨reads, arrives, yields⟩, fun fate isOf => ?_⟩
    cases fate <;> grind
  · refine ⟨.refused, refused.mpr ⟨reads, arrives, yields⟩, fun fate isOf => ?_⟩
    cases fate <;> grind

end

/-- Each validation with each rule has one fate, and there is nothing else. -/
structure Compilation.IsAccounted (c : Compilation) (policy : Policy) : Prop where
  fates : ∀ rules, policy.rules = some rules → ∀ validation < policy.validations.length,
    ∀ rule < rules.length, ∃! fate, Fate.IsOf c policy.name validation rule fate
  policies : ∀ p ∈ c.collection.policies.values, ∃ rules, policy.rules = some rules ∧
    ∃ validation < policy.validations.length, ∃ rule < rules.length,
      p.id = policyId policy.name validation rule
  unread : ∀ d ∈ c.errors, d.rule = none → ∃ source,
    policy.validations[d.validation]? = some source ∧ validationCondition source = .error d.reason
  unrepeated : ∀ d ∈ c.errors, ∀ id, d.reason ≠ .duplicatePolicy id
  unmatched : policy.rules = none → c.collection.policies.values = [] ∧ c.errors = [] ∧ c.warnings = []

theorem duplicatePolicy_ne_of_unread {source : String} {reason : SkipReason}
    (fails : validationCondition source = .error reason) (id : String) : reason ≠ .duplicatePolicy id := by
  rintro rfl
  unfold validationCondition at fails
  split at fails
  · cases fails
  · cases fails
  · split at fails <;> cases fails

theorem accounts_compile (settings : Settings) (policy : Policy) :
    (compile settings policy).IsAccounted policy where
  fates rules given validation inValidations index inRules :=
    exists_unique_fate settings index given (List.getElem?_eq_getElem inValidations) (List.getElem?_eq_getElem inRules)
  policies p mem := by
    obtain ⟨validation, index, emits⟩ := emits_of_mem mem
    obtain ⟨given, listed, stated, -, -, -⟩ := emits
    exact ⟨_, given, validation, (List.getElem?_eq_some_iff.mp stated).1, index,
      (List.getElem?_eq_some_iff.mp listed).1, rfl⟩
  unread d mem none := by
    obtain ⟨rules, source, validation, given, stated, reports⟩ := mem_errors_compile.mp mem
    cases reports with
    | unread fails => exact ⟨source, stated, fails⟩
    | refused => cases none
  unrepeated d mem id := by
    obtain ⟨rules, source, validation, given, stated, reports⟩ := mem_errors_compile.mp mem
    cases reports with
    | unread fails => exact duplicatePolicy_ne_of_unread fails id
    | refused _ _ refused => exact refused.ne rfl
  unmatched none := by
    simp [compile, none, Compilation.new, PolicyCollection.new, SortedMap.values, SortedMap.empty]

theorem validationCondition_eq_overflow {source : String} :
    validationCondition source = .error .overflow ↔ Cel.parse source = .error .overflow := by
  unfold validationCondition
  cases Cel.parse source with
  | error failure => cases failure <;> simp
  | ok e => cases compiled : e.compile <;> simp [compiled]

/-- No compilation is returned if a validation negates the least integer, and only then. -/
theorem compile?_eq_none {settings : Settings} {policy : Policy} : compile? settings policy = none ↔
    policy.rules.isSome ∧ ∃ source ∈ policy.validations, Cel.parse source = .error .overflow := by
  have ended : compile? settings policy = none ↔
      ∃ d ∈ (compile settings policy).errors, d.reason = .overflow := by
    simp [compile?, Compilation.overflows]
  rw [ended]
  constructor
  · rintro ⟨d, mem, overflow⟩
    obtain ⟨rules, source, validation, given, stated, reports⟩ := mem_errors_compile.mp mem
    cases reports with
    | unread fails =>
      cases overflow
      rw [given]
      exact ⟨rfl, source, List.mem_of_getElem? stated, validationCondition_eq_overflow.mp fails⟩
    | refused _ _ refused => exact absurd overflow (refused.ne rfl)
  · rintro ⟨isSome, source, mem, overflow⟩
    obtain ⟨rules, given⟩ := Option.isSome_iff_exists.mp isSome
    obtain ⟨validation, stated⟩ := List.mem_iff_getElem?.mp mem
    exact ⟨_, mem_errors_compile.mpr ⟨rules, source, validation, given, stated,
      .unread (validationCondition_eq_overflow.mpr overflow)⟩, rfl⟩

/-! ## Several policies -/

theorem name_eq_of_contains {settings : Settings} {policy : Policy} {id : String}
    (h : (compile settings policy).collection.policies.contains id = true) :
    ∃ validation index, id = policyId policy.name validation index := by
  obtain ⟨validation, index, -, -, same⟩ := contains_compile.mp h
  exact ⟨validation, index, same⟩

/-- Policies that differ in name share no id, whatever dots and digits their names hold. -/
theorem apart_compile {settings : Settings} {p q : Policy} (differ : p.name ≠ q.name) :
    (compile settings p).collection.Apart (compile settings q).collection := by
  intro id inFirst
  rw [Bool.eq_false_iff]
  intro inSecond
  obtain ⟨_, _, isFirst⟩ := name_eq_of_contains inFirst
  obtain ⟨_, _, isSecond⟩ := name_eq_of_contains inSecond
  exact differ (policyId_injective (isFirst.symm.trans isSecond)).1

end ClusterPolicy.Admission

namespace ClusterPolicy.Command

open Admission (compile apart_compile policyId)

section
variable {readers : Manifest.Readers} {files : Files} {options : ConvertOptions} {m : Manifests}

end

end ClusterPolicy.Command

namespace ClusterPolicy.Admission

open Command (Conversion convert loadManifests)

end ClusterPolicy.Admission
