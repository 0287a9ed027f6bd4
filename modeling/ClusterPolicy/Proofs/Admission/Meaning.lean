import ClusterPolicy.Proofs.Admission.Compilation
import ClusterPolicy.Proofs.Admission.Match
import ClusterPolicy.Proofs.Cel.Proper
import ClusterPolicy.Proofs.Cel.RoundTrip
import ClusterPolicy.Proofs.CompiledPolicy.Application

namespace ClusterPolicy.Admission

open Cedar (Entities Request Value)

/-- A rule is about an operation on the object of a request. -/
structure Rule.Concerns (settings : Settings) (rule : Rule) (operation : String) (request : Request)
    (graph : Entities) : Prop where
  operation : MatchesOperation rule.operations graph operation
  type : MatchesType settings rule request.resource.type
  name : MatchesName rule.resourceNames request graph

/-- A rule is about a request, whatever kind of action it asks for. -/
structure Rule.Selects (settings : Settings) (rule : Rule) (request : Request) (graph : Entities) :
    Prop where
  action : MatchesAction rule.operations graph request.action
  type : MatchesType settings rule request.resource.type
  name : MatchesName rule.resourceNames request graph

theorem Rule.selects_iff {settings : Settings} {rule : Rule} {operation : String} {request : Request}
    {graph : Entities} (asks : request.action = EntityBuilders.admissionAction operation) :
    rule.Selects settings request graph ↔ rule.Concerns settings operation request graph := by
  constructor
  · rintro ⟨action, type, name⟩
    rw [asks] at action
    exact ⟨matchesAction_admissionAction.mp action, type, name⟩
  · rintro ⟨operation, type, name⟩
    refine ⟨?_, type, name⟩
    rw [asks]
    exact matchesAction_admissionAction.mpr operation

/-! ## Policies that can be written -/

/-- A rule is about all types, or about types that are names. -/
def Rule.NamesTypes (settings : Settings) (rule : Rule) : Prop :=
  (IsAny rule.apiGroups ∧ IsAny rule.apiVersions ∧ IsAny rule.resources) ∨
    ∀ group ∈ rule.apiGroups, ∀ version ∈ rule.apiVersions, ∀ resource ∈ rule.resources,
      Cedar.isName (typeName settings group version resource) = true

theorem isProper_of_validationCondition {source : String} {condition : Condition}
    {warnings : List Cel.Warning} (h : validationCondition source = .ok (condition, warnings)) :
    condition.isProper = true := by
  unfold validationCondition at h
  cases read : Cel.parse source with
  | error failure =>
    rw [read] at h
    cases failure <;> cases h
  | ok e =>
    rw [read] at h
    dsimp only at h
    split at h
    · cases h
    · rename_i compiled isCompiled
      cases h
      exact Condition.isProper_of_isPlain (e.ensures_compile condition warnings isCompiled)

theorem actionIsValid_actionScope? {operations : List String} {action : Cedar.ActionScope}
    (acts : actionScope? operations = some action) : CompiledPolicy.actionIsValid action = true := by
  have type : CompiledPolicy.isActionType EntityType.admissionAction = true := by decide
  unfold actionScope? at acts
  split at acts
  · cases acts
  · cases acts
    split
    · rfl
    · exact type
  · cases acts
    exact List.all_eq_true.mpr (List.forall_mem_map.mpr fun _ _ => type)

theorem isWritable_namesCondition (names : List String) : (namesCondition names).IsWritable := by
  by_cases none : names = []
  · exact .inl (by rw [none]; rfl)
  · rw [namesCondition_eq none]
    exact .both (.inr rfl) (Rbac.isWritable_equalsAny rfl names)

section
variable {settings : Settings} {rule : Rule} {resource : Cedar.Scope} {c : Condition}
  {inferred : List Warning}

theorem isWritable_typeMatch (matched : typeMatch settings rule = .ok ((resource, c), inferred))
    (names : rule.NamesTypes settings) :
    c.IsWritable ∧ CompiledPolicy.scopeIsValid resource = true := by
  rcases typeMatch_eq_ok matched with ⟨-, -, -, rfl, rfl⟩ | ⟨groups, versions, resources, selects⟩
  · exact ⟨.inl rfl, rfl⟩
  · have each : ∀ type ∈ typeNames settings rule, Cedar.isName type = true := by
      intro type mem
      obtain ⟨group, inGroups, version, inVersions, resource, inResources, rfl⟩ :=
        (mem_typeNames groups versions resources).mp mem
      rcases names with ⟨any, -⟩ | names
      · exact absurd any groups
      · exact names group inGroups version inVersions resource inResources
    rcases selects with ⟨type, single, rfl, rfl⟩ | ⟨-, rfl, rfl⟩
    · exact ⟨.inl rfl, each type (by simp [single])⟩
    · refine ⟨.any (List.forall_mem_map.mpr fun type mem => .inr ?_), rfl⟩
      simp [Condition.isProper, Condition.resource, each type mem]

end

/-- Whatever the rule names, its policy can be written up to the resource. -/
theorem hasProperHead_forbid {operations : List String} {action : Cedar.ActionScope}
    (acts : actionScope? operations = some action) (name : String) (validation rule : Nat)
    (resource : Cedar.Scope) (condition : Condition) :
    (forbid name validation rule action resource condition).HasProperHead := by
  refine ⟨?_, rfl, actionIsValid_actionScope? acts⟩
  intro e he _
  have mem := (SortedMap.mem_insertAll he).resolve_left List.not_mem_nil
  simp only [List.mem_cons, List.not_mem_nil, or_false] at mem
  rcases mem with rfl | rfl | rfl
  · exact (by decide : Cedar.isIdent "ValidatingAdmissionPolicy".toList = true)
  · exact (by decide : Cedar.isIdent "ResourceRule".toList = true)
  · exact (by decide : Cedar.isIdent "Validation".toList = true)

/-- A policy can be written if the types that its rule names are names. -/
theorem isProper_forbid {settings : Settings} {r : Rule} {condition typeCondition : Condition}
    {action : Cedar.ActionScope} {resource : Cedar.Scope} {inferred : List Warning}
    (acts : actionScope? (operations r.operations) = some action)
    (typed : typeMatch settings r = .ok ((resource, typeCondition), inferred))
    (names : r.NamesTypes settings) (proper : condition.isProper = true) (name : String)
    (validation rule : Nat) : (forbid name validation rule action resource
      (refusal typeCondition r.resourceNames condition)).IsProper := by
  obtain ⟨writable, valid⟩ := isWritable_typeMatch typed names
  obtain ⟨keys, principal, action⟩ := hasProperHead_forbid acts name validation rule resource
    (refusal typeCondition r.resourceNames condition)
  refine ⟨keys, principal, action, valid, ?_⟩
  apply Condition.IsWritable.all
  intro c mem
  simp only [List.mem_cons, List.not_mem_nil, or_false] at mem
  rcases mem with rfl | rfl | rfl
  · exact writable
  · exact isWritable_namesCondition r.resourceNames
  · exact .inr proper

theorem isProper_compile {settings : Settings} {policy : Policy}
    (names : ∀ rule ∈ policy.rules.getD [], rule.NamesTypes settings) :
    (compile settings policy).collection.IsProper := by
  intro p hp
  obtain ⟨validation, index, emits⟩ := emits_of_mem hp
  obtain @⟨_, _, _, _, _, _, _, _, _, given, listed, -, compiled, acts, typed⟩ := emits
  have named := names _ (by rw [given]; exact List.mem_of_getElem? listed)
  exact isProper_forbid acts typed named (isProper_of_validationCondition compiled) ..

/-! ## Answers -/

theorem refusal_eq (typeCondition : Condition) (names : List String) (condition : Condition) :
    refusal typeCondition names condition =
      .both (.both typeCondition (namesCondition names)) (.not condition) := by
  simp [refusal, Condition.all]

/-- Where the whole can be written, so can its parts. -/
theorem exists_toExpr?_refusal {typeCondition condition : Condition} {names : List String}
    {t : Cedar.Test} (written : (refusal typeCondition names condition).test? = some t) :
    ∃ u e, typeCondition.test? = some u ∧ condition.toExpr? = some e := by
  rw [refusal_eq, Condition.test?_both] at written
  obtain ⟨front, negated, isFront, isNegated, -⟩ := Option.map₂_eq_some_iff.mp written
  rw [Condition.test?_both] at isFront
  obtain ⟨u, -, isType, -, -⟩ := Option.map₂_eq_some_iff.mp isFront
  rw [Condition.test?_not] at isNegated
  obtain ⟨s, isTest, -⟩ := Option.map_eq_some_iff.mp isNegated
  obtain ⟨e, isExpr, -⟩ := Option.map_eq_some_iff.mp isTest
  exact ⟨u, e, isType, isExpr⟩

/-- Behind another type nothing is asked. -/
theorem test_refusal_of_type {typeCondition condition : Condition} {names : List String}
    {request : Request} {graph : Entities} (other : typeCondition.Decides request graph false)
    {t : Cedar.Test} (written : (refusal typeCondition names condition).test? = some t) :
    t request graph = .ok false := by
  obtain ⟨u, isType, isFalse⟩ := other
  rw [refusal_eq, Condition.test?_both, Condition.test?_both, isType] at written
  obtain ⟨front, negated, isFront, -, rfl⟩ := Option.map₂_eq_some_iff.mp written
  obtain ⟨_, named, ⟨⟩, -, rfl⟩ := Option.map₂_eq_some_iff.mp isFront
  simp only [Cedar.Test.both, isFalse]
  rfl

section
variable {settings : Settings} {r : Rule} {condition typeCondition : Condition}
  {action : Cedar.ActionScope} {resource : Cedar.Scope} {inferred : List Warning} {name : String}
  {validation rule : Nat} {operation : String} {request : Request} {graph : Entities}
  (acts : actionScope? (operations r.operations) = some action)
  (typed : typeMatch settings r = .ok ((resource, typeCondition), inferred))
include typed

/-- The object is asked for its type and for its name, which never fails, and only an object that has
both right is asked for the validation. -/
theorem test_refusal (isRecord : MetadataIsRecord request graph) {t : Cedar.Test}
    (written : (refusal typeCondition r.resourceNames condition).test? = some t) {e : Cedar.Expr}
    (isExpr : condition.toExpr? = some e) :
    ∃ b, (resource.holds graph request.resource = true ∧ b = true ↔
        MatchesType settings r request.resource.type ∧ MatchesName r.resourceNames request graph) ∧
      t request graph = if b then e.test.negation request graph else .ok false := by
  obtain ⟨u, -, isType, -⟩ := exists_toExpr?_refusal written
  obtain ⟨x, decidesType, ofType⟩ := decides_typeMatch typed isType request graph
  obtain ⟨y, decidesNames, ofNames⟩ := decides_namesCondition isRecord r.resourceNames
  have negated : (Condition.not condition).test? = some e.test.negation := by
    rw [Condition.test?_not, Condition.test?, isExpr]
    rfl
  obtain ⟨v, isV, answer⟩ := (decidesType.both decidesNames).exists_test?_both negated
  rw [refusal_eq] at written
  cases isV.symm.trans written
  refine ⟨x && y, ?_, answer⟩
  rw [Bool.and_eq_true, ← and_assoc, ofType, ofNames]

include acts

omit typed in
theorem scopesHold_forbid : (forbid name validation rule action resource
      (refusal typeCondition r.resourceNames condition)).asCedar.scopesHold request graph = true ↔
    MatchesAction r.operations graph request.action ∧
      resource.holds graph request.resource = true := by
  rw [Cedar.Policy.scopesHold, Bool.and_eq_true, Bool.and_eq_true, ← holds_operations acts]
  exact and_congr_left fun _ => and_iff_right rfl

variable (proper : (forbid name validation rule action resource
  (refusal typeCondition r.resourceNames condition)).IsProper)
include proper

/-- A policy asks for the validation where its rule is about the request, and answers no elsewhere. -/
theorem satisfied_of_isRecord (isRecord : MetadataIsRecord request graph) {e : Cedar.Expr}
    (isExpr : condition.toExpr? = some e) :
    (r.Selects settings request graph → (forbid name validation rule action resource
      (refusal typeCondition r.resourceNames condition)).asCedar.satisfied request graph =
        e.test.negation request graph) ∧
    (¬r.Selects settings request graph → (forbid name validation rule action resource
      (refusal typeCondition r.resourceNames condition)).asCedar.satisfied request graph = .ok false) := by
  obtain ⟨t, written, asked⟩ :=
    CompiledPolicy.allHold_clauses (CompiledPolicy.clauses?_of_isProper proper)
  obtain ⟨b, about, answer⟩ := test_refusal typed isRecord written isExpr
  rw [Cedar.Policy.satisfied, asked, answer]
  constructor
  · rintro ⟨onAction, type, name⟩
    obtain ⟨onResource, isAbout⟩ := about.mpr ⟨type, name⟩
    rw [if_pos ((scopesHold_forbid acts).mpr ⟨onAction, onResource⟩), isAbout, if_pos rfl]
  · intro foreign
    split
    · rename_i holds
      obtain ⟨onAction, onResource⟩ := (scopesHold_forbid acts).mp holds
      have unasked : b ≠ true := by
        intro isAbout
        obtain ⟨type, name⟩ := about.mp ⟨onResource, isAbout⟩
        exact foreign ⟨onAction, type, name⟩
      rw [if_neg unasked]
    · rfl

/-- A policy asks for the validation where its rule is about the request, and answers no elsewhere. -/
theorem satisfied_forbid (asks : request.action = EntityBuilders.admissionAction operation)
    (isRecord : MetadataIsRecord request graph) {e : Cedar.Expr}
    (isExpr : condition.toExpr? = some e) :
    (r.Concerns settings operation request graph → (forbid name validation rule action resource
      (refusal typeCondition r.resourceNames condition)).asCedar.satisfied request graph =
        e.test.negation request graph) ∧
    (¬r.Concerns settings operation request graph → (forbid name validation rule action resource
      (refusal typeCondition r.resourceNames condition)).asCedar.satisfied request graph = .ok false) := by
  rw [← Rule.selects_iff asks]
  exact satisfied_of_isRecord acts typed proper isRecord isExpr

/-- Whatever the graph says, a policy answers no where the action or the type is not one of its rule. -/
theorem satisfied_of_foreign (foreign : ¬(MatchesAction r.operations graph request.action ∧
      MatchesType settings r request.resource.type)) : (forbid name validation rule action resource
      (refusal typeCondition r.resourceNames condition)).asCedar.satisfied request graph = .ok false := by
  obtain ⟨t, written, asked⟩ :=
    CompiledPolicy.allHold_clauses (CompiledPolicy.clauses?_of_isProper proper)
  obtain ⟨u, -, isType, -⟩ := exists_toExpr?_refusal written
  obtain ⟨b, decides, ofType⟩ := decides_typeMatch typed isType request graph
  rw [Cedar.Policy.satisfied, asked]
  split
  · rename_i holds
    obtain ⟨onAction, onResource⟩ := (scopesHold_forbid acts).mp holds
    have otherType : b = false := by
      rw [← Bool.not_eq_true]
      exact fun isType => foreign ⟨onAction, ofType.mp ⟨onResource, isType⟩⟩
    subst otherType
    rw [test_refusal_of_type decides written]
  · rfl

end

/-- A policy denies the objects of its rule that the expression is false of, and it fails on those
of its objects for which the expression is neither true nor false. -/
structure Rule.Denies (settings : Settings) (r : Rule) (e : Cedar.Expr) (q : Cedar.Policy)
    (operation : String) (request : Request) (graph : Entities) : Prop where
  applies : q.applies request graph = true ↔
    r.Concerns settings operation request graph ∧ e.evaluate request graph = .ok (.bool false)
  fails : q.fails request graph = true ↔
    r.Concerns settings operation request graph ∧ ∀ b, e.evaluate request graph ≠ .ok (.bool b)

/-- What stands under the id of a validation and a rule is a forbid. If the types that the rule names
are names, then the engine takes it, and it denies the objects of the rule for which the validation is
false; no other object makes it fail. -/
theorem denies_of_find? {settings : Settings} {policy : Policy} {validation rule : Nat}
    {p : CompiledPolicy}
    (found : (compile settings policy).collection.policies.find?
      (policyId policy.name validation rule) = some p) :
    ∃ rules r source condition warnings e, policy.rules = some rules ∧ rules[rule]? = some r ∧
      policy.validations[validation]? = some source ∧
      validationCondition source = .ok (condition, warnings) ∧ condition.toExpr? = some e ∧
      p.effect = .forbid ∧
      (r.NamesTypes settings → ∃ q, p.toCedar? = some q ∧ ∀ operation request graph,
        request.action = EntityBuilders.admissionAction operation → MetadataIsRecord request graph →
        r.Denies settings e q operation request graph) := by
  obtain @⟨_, r, _, _, _, _, _, _, _, given, listed, stated, compiled, acts, typed⟩ :=
    emits_of_find? found
  have proper := isProper_of_validationCondition compiled
  obtain ⟨e, isExpr⟩ := Condition.toExpr?_of_isProper proper
  refine ⟨_, _, _, _, _, e, given, listed, stated, compiled, isExpr, rfl, fun names => ?_⟩
  have whole := isProper_forbid acts typed names proper policy.name validation rule
  refine ⟨_, CompiledPolicy.toCedar?_of_isProper whole, fun operation request graph asks isRecord => ?_⟩
  obtain ⟨own, foreign⟩ := satisfied_forbid acts typed whole asks isRecord isExpr
  by_cases concerns : r.Concerns settings operation request graph
  · refine ⟨?_, ?_⟩
    · rw [Cedar.Policy.applies_iff_satisfied, own concerns, and_iff_right concerns]
      exact Cedar.Expr.negation_test_eq_true
    · rw [Cedar.Policy.fails_iff_satisfied, own concerns, and_iff_right concerns]
      exact Cedar.Expr.negation_test_eq_error
  · refine ⟨?_, ?_⟩
    · rw [Cedar.Policy.applies_iff_satisfied, foreign concerns]
      exact iff_of_false nofun fun h => concerns h.1
    · rw [Cedar.Policy.fails_iff_satisfied, foreign concerns]
      exact iff_of_false nofun fun h => concerns h.1

theorem validationCondition_paused :
    validationCondition "object.paused" = .ok (.access .resource "paused", []) := by
  let paused := (Cel.Printed.word "object").selected "paused"
  have reads : paused.Reads (.select (.ident "object") "paused" false) :=
    (Cel.Printed.Reads.word (by decide)).selected (by decide)
  have text : String.ofList paused.chars = "object.paused" := by decide +kernel
  have read := Cel.Expr.parse_of_reads reads (by decide)
  rw [text] at read
  unfold validationCondition
  rw [read]
  rfl

/-- A deployment that runs is not updated where only paused ones may be. -/
theorem denies_update_of_running :
    let rule : Rule := ⟨["UPDATE"], ["apps"], ["v1"], ["deployments"], ["web"]⟩
    let policy : Policy := ⟨"only-paused", some [rule], ["object.paused"]⟩
    let web : Cedar.EntityUid := ⟨"apps::v1::Deployment", "web"⟩
    let graph : Entities :=
      ⟨[⟨web, [("metadata", .record [("name", .string "web")]), ("paused", .bool false)], []⟩]⟩
    let request : Request :=
      ⟨⟨EntityType.user, "alice"⟩, EntityBuilders.admissionAction "UPDATE", web, []⟩
    ∃ p q, (compile .default policy).collection.policies.find? (policyId policy.name 0 0) = some p ∧
      p.toCedar? = some q ∧ q.applies request graph = true := by
  intro rule policy web graph request
  have typeIs : typeName .default "apps" "v1" "deployments" = web.type := by rfl
  have names : rule.NamesTypes .default := by
    refine .inr ?_
    simp only [rule, List.forall_mem_singleton, typeIs]
    decide
  have named : MatchesName rule.resourceNames request graph := .inr ⟨"web", by decide, rfl⟩
  have isRecord : MetadataIsRecord request graph := by
    rintro _ _ ⟨⟩ ⟨⟩
    exact ⟨_, rfl⟩
  have type : MatchesType .default rule request.resource.type :=
    .named (List.mem_singleton.mpr rfl) (List.mem_singleton.mpr rfl) (List.mem_singleton.mpr rfl)
      typeIs.symm
  have concerns : rule.Concerns .default "UPDATE" request graph := ⟨.listed (by decide), type, named⟩
  have acts : actionScope? (operations rule.operations) = some (.equal (actionUid "update")) := by
    have single : operations ["UPDATE"] = ["update"] := by
      have lowered : ["UPDATE"].map Text.lowercase = ["update"] := by decide
      have alone : sorted (Rbac.distinct ["update"]) = ["update"] := sorted_singleton "update"
      rw [operations, lowered, Rbac.reduceWildcard_of_notMem (by decide), alone]
      rfl
    rw [show rule.operations = ["UPDATE"] from rfl, single]
    rfl
  have typed : typeMatch .default rule = .ok ((.ofType web.type, .empty), []) := by
    have single (item : String) (plain : "*" ≠ item) : sortedOrAny [item] = [item] := by
      simp [sortedOrAny, Rbac.reduceWildcard, Rbac.distinct, sorted, plain]
    unfold typeMatch
    simp only [rule, single "apps" (by decide), single "v1" (by decide),
      single "deployments" (by decide)]
    rfl
  have found : (compile .default policy).collection.policies.find? (policyId policy.name 0 0) =
      some (forbid policy.name 0 0 (.equal (actionUid "update")) (.ofType web.type)
        (refusal .empty rule.resourceNames (.access .resource "paused"))) :=
    find?_compile_single rfl rfl validationCondition_paused acts typed
  obtain ⟨_, _, _, condition, warnings, e, given, listed, stated, compiled, isExpr, -, denies⟩ :=
    denies_of_find? found
  obtain rfl := Option.some.inj given
  obtain rfl := Option.some.inj listed
  obtain rfl := Option.some.inj stated
  cases validationCondition_paused.symm.trans compiled
  obtain rfl := Option.some.inj isExpr
  obtain ⟨q, converted, denied⟩ := denies names
  exact ⟨_, q, found, converted, (denied "UPDATE" request graph rfl isRecord).applies.mpr ⟨concerns, rfl⟩⟩

/-- Where two operations are listed, the graph may put a third one below them. And a blank within a type
is lost between the policy's text and the type that the engine reads. -/
theorem denies_create_below_update :
    let rule : Rule := ⟨["UPDATE", "DELETE"], [], [], [], []⟩
    let policy (rule : Rule) : Policy := ⟨"only-paused", some [rule], ["object.paused"]⟩
    let web : Cedar.EntityUid := ⟨"apps::v1::Deployment", "web"⟩
    let graph : Entities :=
      ⟨[⟨web, [("paused", .bool false)], []⟩, ⟨actionUid "create", [], [actionUid "update"]⟩]⟩
    let request (operation : String) : Request :=
      ⟨⟨EntityType.user, "alice"⟩, EntityBuilders.admissionAction operation, web, []⟩
    let refused (rule : Rule) (operation : String) : Prop := ∃ p q,
      (compile .default (policy rule)).collection.policies.find?
        (policyId "only-paused" 0 0) = some p ∧
      p.toCedar? = some q ∧ q.applies (request operation) graph = true
    (∀ operation, MetadataIsRecord (request operation) graph) ∧
      (refused rule "CREATE" ∧
        ¬("*" ∈ rule.operations ∨
          (∀ o, o ∈ rule.operations.map Text.lowercase ↔ o ∈ allOperations) ∨
          Text.lowercase "CREATE" ∈ rule.operations.map Text.lowercase)) ∧
      refused ⟨["UPDATE"], ["apps"], ["v1 "], ["deployments"], []⟩ "UPDATE" ∧
        typeName .default "apps" "v1 " "deployments" ≠ web.type := by
  intro rule policy web graph request refused
  have lowered : rule.operations.map Text.lowercase = ["update", "delete"] := by decide
  have isRecord (operation : String) : MetadataIsRecord (request operation) graph := by
    rintro _ _ ⟨⟩ ⟨⟩
  refine ⟨isRecord, ⟨?_, ?_⟩, ?_, by decide⟩
  · have acts : actionScope? (operations rule.operations) =
        some (.within [actionUid "delete", actionUid "update"]) := by
      have ordered : sorted (Rbac.distinct ["update", "delete"]) = ["delete", "update"] :=
        (sorted_eq_iff (Rbac.nodup_distinct _) (by decide) (by decide)).mpr (by simp [or_comm])
      have both : operations rule.operations = ["delete", "update"] := by
        rw [operations, lowered, Rbac.reduceWildcard_of_notMem (by decide), ordered]
        decide
      rw [both]
      rfl
    have typed : typeMatch .default rule = .ok ((.any, .empty), []) :=
      typeMatch_of_isAny (.inl rfl) (.inl rfl) (.inl rfl)
    have proper : (Condition.access .resource "paused").isProper = true := by rfl
    have names : rule.NamesTypes .default := .inl ⟨.inl rfl, .inl rfl, .inl rfl⟩
    have given : (policy rule).rules = some [rule] := rfl
    have found := find?_compile_single given rfl validationCondition_paused acts typed
    have whole := isProper_forbid acts typed names proper (policy rule).name 0 0
    have within :
        graph.reaches (EntityBuilders.admissionAction "CREATE") (actionUid "update") = true := by
      decide
    have concerns : rule.Concerns .default "CREATE" (request "CREATE") graph := by
      refine ⟨?_, .any (.inl rfl) (.inl rfl) (.inl rfl), .inl rfl⟩
      refine @MatchesOperation.member _ _ _ "update" "delete" ?_ ?_ (by decide) within
      · simp [lowered]
      · simp [lowered]
    have own := (satisfied_forbid acts typed whole rfl (isRecord "CREATE") rfl).1 concerns
    refine ⟨_, _, found, CompiledPolicy.toCedar?_of_isProper whole,
      Cedar.Policy.applies_iff_satisfied.mpr (own.trans ?_)⟩
    exact Cedar.Expr.negation_test_eq_true.mpr rfl
  · rw [lowered]
    rintro (wild | all | listed)
    · exact absurd wild (by decide)
    · exact absurd ((all "create").mpr (by decide)) (by decide)
    · exact absurd listed (by decide)
  · have applies : ((compile .default
        (policy ⟨["UPDATE"], ["apps"], ["v1 "], ["deployments"], []⟩)).collection.policies.find?
          (policyId "only-paused" 0 0)).any
        (fun p => p.toCedar?.any fun q => q.applies (request "UPDATE") graph) = true := by
      simp only [CompiledPolicy.toCedar?_eq]
      decide +kernel
    simp only [Option.any_eq_true_iff_get] at applies
    obtain ⟨isFound, isTaken, applies⟩ := applies
    exact ⟨_, _, (Option.some_get isFound).symm, (Option.some_get isTaken).symm, applies⟩

end ClusterPolicy.Admission
