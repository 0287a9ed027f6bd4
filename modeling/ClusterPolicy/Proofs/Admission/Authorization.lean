import ClusterPolicy.Proofs.Admission.Loading
import ClusterPolicy.Proofs.EntityBuilders
import ClusterPolicy.Proofs.Tier.Precedence

/-! What admission policies have to say on requests for the API server. Such a request concerns only
rules about all types, of operations that leave open what is done. -/

namespace ClusterPolicy.Admission

open Cedar (Entities Entity EntityUid Request)
open EntityBuilders (Made madeTypes)

/-! ## Types -/

/-- A type that a rule names has a group, a version and a kind. -/
theorem four_le_count_typeName (settings : Settings) (group version resource : String) :
    4 ≤ (typeName settings group version resource).toList.count ':' := by
  simp only [typeName, String.toList_append, List.count_append]
  have path : "::".toList.count ':' = 2 := by decide
  omega

/-- The types of the cluster's schema have a name in `k8s` each, and no rule names them. -/
theorem isUntyped_of_matchesType {settings : Settings} {rule : Rule} {e : Entity} (made : Made e)
    (h : MatchesType settings rule e.uid.type) : rule.IsUntyped := by
  have short : ∀ type ∈ madeTypes, type.toList.count ':' = 2 := by decide
  cases h with
  | any groups versions resources => exact ⟨groups, versions, resources⟩
  | @named group version resource inGroups inVersions inResources same =>
    have long := four_le_count_typeName settings group version resource
    rw [← same, short _ made.type_mem] at long
    omega

/-! ## Open rules -/

/-- The actions of requests for the API server are no operations, and are left open or not asked for. -/
theorem matchesAction_iff_leavesOpen {given : List String} {graph : Entities} {uid : EntityUid}
    (asks : uid.type = EntityType.action) :
    MatchesAction given graph uid ↔ LeavesOpen given graph uid := by
  refine or_iff_right ?_
  rintro ⟨o, -, rfl⟩
  exact absurd asks (by decide : EntityType.admissionAction ≠ EntityType.action)

/-- The graph knows metadata of what is asked about, as only objects have it. -/
def HasMetadata (request : Request) (graph : Entities) : Prop :=
  ∃ e v, graph.find? request.resource = some e ∧ e.attrs.lookup "metadata" = some v

/-- A rule is about all objects, and leaves open what is done. -/
structure Rule.IsOpen (rule : Rule) (request : Request) (graph : Entities) : Prop where
  untyped : rule.IsUntyped
  action : LeavesOpen rule.operations graph request.action
  names : rule.resourceNames = [] ∨ HasMetadata request graph

/-- A policy stands for a rule and for the expression of a validation. -/
inductive StandsFor (policy : Policy) (p : CompiledPolicy) (rule : Rule) (e : Cedar.Expr) : Prop
  | intro {validation index : Nat} {rules : List Rule} {source : String} {condition : Condition}
      {warnings : List Cel.Warning} (given : policy.rules = some rules)
      (listed : rules[index]? = some rule) (stated : policy.validations[validation]? = some source)
      (compiled : validationCondition source = .ok (condition, warnings))
      (isExpr : condition.toExpr? = some e) (id : p.id = policyId policy.name validation index)

/-- A policy applies where an expression is false, and fails where it is neither true nor false. -/
structure Refuses (q : Cedar.Policy) (e : Cedar.Expr) (request : Request) (graph : Entities) : Prop where
  applies : q.applies request graph = true ↔ e.evaluate request graph = .ok (.bool false)
  fails : q.fails request graph = true ↔ ∀ b, e.evaluate request graph ≠ .ok (.bool b)

section
variable {request : Request} {graph : Entities}

theorem not_hasMetadata {e : Entity} (made : Made e) (about : request.resource = e.uid)
    (known : graph.find? e.uid = some e ∨ graph.find? e.uid = none) : ¬HasMetadata request graph := by
  rintro ⟨f, v, found, metadata⟩
  rw [about] at found
  rcases known with known | unknown
  · cases known.symm.trans found
    rw [made.lookup_metadata] at metadata
    cases metadata
  · rw [unknown] at found
    cases found

theorem metadataIsRecord_of_not_hasMetadata (plain : ¬HasMetadata request graph) :
    MetadataIsRecord request graph :=
  fun e v found metadata => absurd ⟨e, v, found, metadata⟩ plain

theorem matchesName_of_not_hasMetadata (plain : ¬HasMetadata request graph) {names : List String} :
    MatchesName names request graph ↔ names = [] := by
  have unnamed : objectName? request graph = none := by
    cases found : graph.find? request.resource with
    | none => simp [objectName?, found]
    | some e =>
      cases metadata : e.attrs.lookup "metadata" with
      | none => simp [objectName?, found, metadata]
      | some v => exact absurd ⟨e, v, found, metadata⟩ plain
  simp [MatchesName, unnamed]

theorem refuses_forbid {settings : Settings} {r : Rule} {condition typeCondition : Condition}
    {action : Cedar.ActionScope} {resource : Cedar.Scope} {inferred : List Warning} {name : String}
    {validation rule : Nat} {e : Cedar.Expr}
    (acts : actionScope? (operations r.operations) = some action)
    (typed : typeMatch settings r = .ok ((resource, typeCondition), inferred))
    (proper : (forbid name validation rule action resource
      (refusal typeCondition r.resourceNames condition)).IsProper)
    (isExpr : condition.toExpr? = some e) (plain : ¬HasMetadata request graph)
    (selects : r.Selects settings request graph) :
    Refuses (forbid name validation rule action resource
      (refusal typeCondition r.resourceNames condition)).asCedar e request graph := by
  have asked := (satisfied_of_isRecord acts typed proper
    (metadataIsRecord_of_not_hasMetadata plain) isExpr).1 selects
  constructor
  · rw [Cedar.Policy.applies_iff_satisfied, asked]
    exact Cedar.Expr.negation_test_eq_true
  · rw [Cedar.Policy.fails_iff_satisfied, asked]
    exact Cedar.Expr.negation_test_eq_error

theorem silent_of_satisfied {q : Cedar.Policy} (no : q.satisfied request graph = .ok false) :
    q.applies request graph = false ∧ q.fails request graph = false := by
  simp [Cedar.Policy.applies, Cedar.Policy.fails, no]

variable {settings : Settings} {policy : Policy} {e : Entity}
  (asks : request.action.type = EntityType.action) (made : Made e) (about : request.resource = e.uid)
include asks made about

/-- What the rule of a policy and its validation have to say. -/
theorem exists_standsFor {p : CompiledPolicy}
    (mem : p ∈ (compile settings policy).collection.policies.values) :
    ∃ rule expr, StandsFor policy p rule expr ∧ (rule.NamesTypes settings →
      ∃ q, p.toCedar? = some q ∧
        (¬rule.IsOpen request graph →
          q.applies request graph = false ∧ q.fails request graph = false) ∧
        (¬HasMetadata request graph → rule.IsOpen request graph → Refuses q expr request graph)) := by
  obtain ⟨validation, index, emits⟩ := emits_of_mem mem
  obtain @⟨_, rule, _, _, _, _, _, _, _, given, listed, stated, compiled, acts, typed⟩ := emits
  have written := isProper_of_validationCondition compiled
  obtain ⟨expr, isExpr⟩ := Condition.toExpr?_of_isProper written
  refine ⟨rule, expr, .intro given listed stated compiled isExpr rfl, fun names => ?_⟩
  have proper := isProper_forbid acts typed names written policy.name validation index
  refine ⟨_, CompiledPolicy.toCedar?_of_isProper proper, ?_, ?_⟩
  · intro closed
    apply silent_of_satisfied
    by_cases foreign : MatchesAction rule.operations graph request.action ∧
        MatchesType settings rule request.resource.type
    · -- The rule is about all types and leaves the action open, so it must list names.
      obtain ⟨action, type⟩ := foreign
      have untyped := isUntyped_of_matchesType made (about ▸ type)
      have opens := (matchesAction_iff_leavesOpen asks).mp action
      have named : ¬(rule.resourceNames = [] ∨ HasMetadata request graph) :=
        fun names => closed ⟨untyped, opens, names⟩
      obtain ⟨some, plain⟩ := not_or.mp named
      refine (satisfied_of_isRecord acts typed proper (metadataIsRecord_of_not_hasMetadata plain)
        isExpr).2 fun selects => some ?_
      exact (matchesName_of_not_hasMetadata plain).mp selects.name
    · exact satisfied_of_foreign acts typed proper foreign
  · rintro plain ⟨⟨groups, versions, resources⟩, opens, names⟩
    have action := (matchesAction_iff_leavesOpen asks).mpr opens
    have name := (matchesName_of_not_hasMetadata plain).mpr (names.resolve_right plain)
    exact refuses_forbid acts typed proper isExpr plain
      ⟨action, .any groups versions resources, name⟩

end

/-- On a request for the API server, of the policies whose rules name types only those of open rules have
a say. A collection of other policies changes nothing in front of other stores. -/
theorem silent_unless_open (settings : Settings) (policy : Policy) {request : Request} {e : Entity}
    (asks : request.action.type = EntityType.action) (made : Made e)
    (about : request.resource = e.uid) (graph : Entities) :
    (∀ p ∈ (compile settings policy).collection.policies.values,
      ∃ rule expr, StandsFor policy p rule expr ∧ (rule.NamesTypes settings →
        ∃ q, p.toCedar? = some q ∧
          (¬rule.IsOpen request graph →
            q.applies request graph = false ∧ q.fails request graph = false) ∧
          (¬HasMetadata request graph → rule.IsOpen request graph →
            Refuses q expr request graph))) ∧
    (graph.find? e.uid = some e ∨ graph.find? e.uid = none → ¬HasMetadata request graph) ∧
    ∀ store, Store.ofCollection (compile settings policy).collection = .ok store →
      (∀ p ∈ (compile settings policy).collection.policies.values, ∀ rule expr,
        StandsFor policy p rule expr → rule.NamesTypes settings ∧ ¬rule.IsOpen request graph) →
      ∀ stores, stores ≠ [] →
        evaluate (store :: stores) request graph =
          { evaluate stores request graph with
            tier := (evaluate stores request graph).tier.map (· + 1) } := by
  refine ⟨fun p hp => exists_standsFor asks made about hp, not_hasMetadata made about, ?_⟩
  intro store loaded closed stores others
  have quiet : ¬store.Speaks request graph := by
    rintro ⟨q, hq, speaks⟩
    obtain ⟨p, hp, converted⟩ := (Store.mem_values_of_ofCollection loaded).mp hq
    obtain ⟨rule, expr, stands, answers⟩ := exists_standsFor asks made about hp
    obtain ⟨names, shut⟩ := closed p hp rule expr stands
    obtain ⟨q', converted', silent, -⟩ := answers names
    cases converted.symm.trans converted'
    obtain ⟨applies, fails⟩ := silent shut
    simp [applies, fails] at speaks
  have behind : shifted 0 = (· + 1) := by
    funext tier
    simp [shifted]
  rw [← behind]
  exact @evaluate_insert _ _ [] stores store quiet others

/-- A rule about updates of all objects has no say, though its expression is false of everything. -/
theorem silent_updates :
    let rule : Rule := ⟨["UPDATE"], [], [], [], []⟩
    let policy : Policy := ⟨"freeze", some [rule], ["false"]⟩
    let alice := EntityBuilders.Asker.user "alice" ["devs"]
    let pods := EntityBuilders.resource ⟨"", "pods", none, none, none⟩
    let graph : Entities := ⟨alice.entities ++ [pods]⟩
    let request : Request := ⟨alice.entity.uid, EntityBuilders.action "update", pods.uid, []⟩
    Made pods ∧ graph.find? pods.uid = some pods ∧ ∃ store,
      Store.ofCollection (compile .default policy).collection = .ok store ∧
      evaluate [store, .new "rbac"] request graph = ⟨.deny, [], [], some 1⟩ := by
  intro rule policy alice pods graph request
  have made : Made pods := .resource _
  have names : rule.NamesTypes .default := .inl ⟨.inl rfl, .inl rfl, .inl rfl⟩
  have proper : (compile .default policy).collection.IsProper :=
    isProper_compile (List.forall_mem_singleton.mpr names)
  have closed : ¬rule.IsOpen request graph := by
    rintro ⟨-, action, -⟩
    have lowered : rule.operations.map Text.lowercase = ["update"] := by decide
    cases action with
    | any wild => exact absurd wild (by decide)
    | every all =>
      rw [lowered] at all
      exact absurd ((all "create").mpr (by decide)) (by decide)
    | member mem more different =>
      rw [lowered, List.mem_singleton] at mem more
      exact different (more.trans mem.symm)
  have asks : request.action.type = EntityType.action := rfl
  obtain ⟨-, -, silent⟩ := silent_unless_open .default policy asks made rfl graph
  obtain ⟨store, loaded⟩ := Store.ofCollection_of_isProper proper
  refine ⟨made, rfl, store, loaded, ?_⟩
  have shut : ∀ p ∈ (compile .default policy).collection.policies.values, ∀ r expr,
      StandsFor policy p r expr → r.NamesTypes .default ∧ ¬r.IsOpen request graph := by
    rintro p - r expr ⟨given, listed⟩
    obtain rfl := Option.some.inj given
    obtain rfl := List.mem_singleton.mp (List.mem_of_getElem? listed)
    exact ⟨names, closed⟩
  have quiet := silent store loaded shut [.new "rbac"] (by simp)
  rw [quiet]
  rfl

/-- The policy of a single validation and a single rule about all types. -/
theorem exists_refuses (settings : Settings) (name : String) (rule : Rule) {source : String}
    {condition : Condition} {warnings : List Cel.Warning} {expr : Cedar.Expr}
    (compiled : validationCondition source = .ok (condition, warnings))
    (isExpr : condition.toExpr? = some expr) (some : rule.operations ≠ []) (untyped : rule.IsUntyped)
    (unnamed : rule.resourceNames = []) :
    ∃ p q, (compile settings ⟨name, .some [rule], [source]⟩).collection.policies.find?
        (policyId name 0 0) = .some p ∧ p.toCedar? = .some q ∧
      ∀ request graph, ¬HasMetadata request graph →
        MatchesAction rule.operations graph request.action → Refuses q expr request graph := by
  obtain ⟨action, acts⟩ := exists_actionScope? some
  obtain ⟨groups, versions, resources⟩ := untyped
  have typed : typeMatch settings rule = .ok ((.any, .empty), []) :=
    typeMatch_of_isAny groups versions resources
  have proper := isProper_of_validationCondition compiled
  have whole := isProper_forbid acts typed (.inl ⟨groups, versions, resources⟩) proper name 0 0
  refine ⟨_, _, find?_compile_single rfl rfl compiled acts typed,
    CompiledPolicy.toCedar?_of_isProper whole, ?_⟩
  intro request graph plain asked
  exact refuses_forbid acts typed whole isExpr plain
    ⟨asked, .any groups versions resources, .inl unnamed⟩

/-- A rule about everything denies what the store behind it permits. So does a rule whose version holds
the start of a comment, since its type ends there: it is read as that of all resources. And a policy of a
rule about two operations fails where the graph puts the action below one of them. -/
theorem denies_get_of_pods :
    let freeze (rule : Rule) : Policy := ⟨"freeze", some [rule], ["false"]⟩
    let everything : Rule := ⟨["*"], ["*"], ["*"], ["*"], []⟩
    let commented : Rule := ⟨["*"], ["k8s"], ["Resource //"], ["pods"], []⟩
    let changes : Rule := ⟨["CREATE", "UPDATE"], [], [], [], []⟩
    let binding : Rbac.Binding := ⟨"viewers", .clusterRoleBinding, ⟨"ClusterRole", "view"⟩,
      [⟨.group, "devs", none⟩], none⟩
    let role : Rbac.Role := ⟨"ClusterRole", "view", none, [⟨["get"], [""], ["pods"], [], []⟩]⟩
    let alice := EntityBuilders.Asker.user "alice" ["devs"]
    let pods := EntityBuilders.resource ⟨"", "pods", none, none, none⟩
    let get := EntityBuilders.action "get"
    let graph : Entities := ⟨alice.entities ++ [pods]⟩
    let below : Entities := ⟨graph.all ++ [⟨get, [], [actionUid "update"]⟩]⟩
    let request : Request := ⟨alice.entity.uid, get, pods.uid, []⟩
    (∀ rule ∈ [everything, commented], ∃ admission rbac,
      Store.ofCollection (compile .default (freeze rule)).collection = .ok admission ∧
      Store.ofCollection (Rbac.compile .default binding role none).collection = .ok rbac ∧
      (∃ q ∈ admission.snapshot.policies.values, q.applies request graph = true) ∧
      (evaluate [rbac] request graph).verdict = .allow ∧
      (evaluate [admission, rbac] request graph).verdict = .deny) ∧
    ¬commented.IsUntyped ∧
    ∃ p q, (compile .default ⟨"only-paused", some [changes], ["object.paused"]⟩).collection.policies.find?
        (policyId "only-paused" 0 0) = some p ∧
      p.toCedar? = some q ∧ q.fails request below = true := by
  intro freeze everything commented changes binding role alice pods get graph below request
  refine ⟨?_, by decide, ?_⟩
  · let permits := (Rbac.compile .default binding role none).collection
    let rbac := Store.ofPolicySet permits.name permits.asCedar
    have loadsRbac : Store.ofCollection permits = .ok rbac :=
      Store.ofCollection_asCedar (Rbac.isProper_compile (by decide : Cedar.isIdent "ClusterRole".toList = true))
    let answers (admission : Store) : Bool × Verdict × Verdict :=
      (admission.snapshot.policies.values.any (·.applies request graph),
        (evaluate [rbac] request graph).verdict, (evaluate [admission, rbac] request graph).verdict)
    suffices each : ∀ rule ∈ [everything, commented], ∃ admission,
        Store.ofCollection (compile .default (freeze rule)).collection = .ok admission ∧
          answers admission = (true, .allow, .deny) by
      intro rule listed
      obtain ⟨admission, loads, answered⟩ := each rule listed
      simp only [answers, Prod.mk.injEq, List.any_eq_true] at answered
      exact ⟨admission, rbac, loads, loadsRbac, answered⟩
    -- Only the text of the rule with the comment has to be read.
    refine List.forall_mem_cons.mpr ⟨?_, List.forall_mem_singleton.mpr ?_⟩
    · have proper : (compile .default (freeze everything)).collection.IsProper :=
        isProper_compile (List.forall_mem_singleton.mpr (.inl (by decide)))
      exact ⟨_, Store.ofCollection_asCedar proper, by decide +kernel⟩
    · let policies := (compile .default (freeze commented)).collection.policies.values
      let reading (p : CompiledPolicy) : Cedar.Policy := p.toCedar?.getD p.asCedar
      have isRead : ∀ p ∈ policies, p.toCedar?.isSome = true := by
        simp only [CompiledPolicy.toCedar?_eq]
        decide +kernel
      have each : ∀ p ∈ policies, p.toCedar? = some (reading p) := by
        intro p hp
        obtain ⟨q, read⟩ := Option.isSome_iff_exists.mp (isRead p hp)
        simp only [reading, read, Option.getD_some]
      refine ⟨_, Store.ofCollection_of each, ?_⟩
      simp only [reading, CompiledPolicy.toCedar?_eq]
      decide +kernel
  · obtain ⟨p, q, found, converted, refuses⟩ := exists_refuses .default "only-paused" changes
      validationCondition_paused rfl (List.cons_ne_nil _ _) ⟨.inl rfl, .inl rfl, .inl rfl⟩ rfl
    have plain : ¬HasMetadata request below := not_hasMetadata (.resource _) rfl (.inl rfl)
    have within : below.reaches get (actionUid "update") = true := by decide
    have lowered : ["CREATE", "UPDATE"].map Text.lowercase = ["create", "update"] := by decide
    have leaves : LeavesOpen ["CREATE", "UPDATE"] below get := by
      refine @LeavesOpen.member _ _ _ "update" "create" ?_ ?_ (by decide) within
      all_goals simp [lowered]
    exact ⟨p, q, found, converted, (refuses request below plain (.inr leaves)).fails.mpr nofun⟩

end ClusterPolicy.Admission
