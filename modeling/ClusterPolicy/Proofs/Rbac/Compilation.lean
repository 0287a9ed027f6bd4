import ClusterPolicy.Proofs.Collection
import ClusterPolicy.Proofs.Rbac.Impersonation
import ClusterPolicy.Rbac.Compilation

namespace ClusterPolicy.Rbac

open Cedar (Scope)

/-! ## Ids -/

theorem notMem_repr {c : Char} (other : c.isDigit = false) (n : Nat) : c ∉ n.repr.toList := by
  rw [Nat.toList_repr]
  intro mem
  have digit := Nat.isDigit_of_mem_toDigits (by decide) (by decide) mem
  rw [other] at digit
  cases digit

theorem repr_injective {m n : Nat} (h : m.repr.toList = n.repr.toList) : m = n := by
  have read : ∀ k : Nat, Text.natural? 10 k.repr.toList = some k := by
    intro k
    rw [Nat.toList_repr]
    exact Text.natural?_toDigits (by decide) (by decide) k
  exact Option.some.inj ((read m).symm.trans (h ▸ read n))

theorem toList_policyId (binding kind : String) (i j : Nat) :
    (policyId binding kind i j).toList =
      ((binding.toList ++ ':' :: kind.toList) ++ ':' :: i.repr.toList) ++ '.' :: j.repr.toList := by
  simp [policyId]

/-- Ids are told apart by their kind and their indices. -/
theorem policyId_injective {binding binding' kind kind' : String} {i i' j j' : Nat}
    (plain : ':' ∉ kind.toList) (plain' : ':' ∉ kind'.toList)
    (h : policyId binding kind i j = policyId binding' kind' i' j') :
    binding = binding' ∧ kind = kind' ∧ i = i' ∧ j = j' := by
  have point : ∀ n : Nat, '.' ∉ n.repr.toList := notMem_repr (by decide)
  have colon : ∀ n : Nat, ':' ∉ n.repr.toList := notMem_repr (by decide)
  have texts := congrArg String.toList h
  rw [toList_policyId, toList_policyId] at texts
  obtain ⟨front, rule⟩ := Text.append_cons_inj (point j) (point j') texts
  obtain ⟨front, subject⟩ := Text.append_cons_inj (colon i) (colon i') front
  obtain ⟨front, last⟩ := Text.append_cons_inj plain plain' front
  exact ⟨String.toList_injective front, String.toList_injective last,
    repr_injective subject, repr_injective rule⟩

/-- What sets the three kinds of policies apart. -/
def suffixes : List String := ["", "/nonresource", "/impersonate"]

theorem plain_kind (kind : BindingKind) : ∀ suffix ∈ suffixes, ':' ∉ (kind.name ++ suffix).toList := by
  cases kind <;> decide

namespace Origin

theorem id_injective {o p : Origin} (same : o.binding = p.binding) {s t : String}
    (hs : s ∈ suffixes) (ht : t ∈ suffixes) (h : o.id s = p.id t) :
    s = t ∧ o.subjectIndex = p.subjectIndex ∧ o.ruleIndex = p.ruleIndex := by
  unfold id at h
  rw [same] at h
  obtain ⟨-, kind, subject, rule⟩ :=
    policyId_injective (plain_kind _ s hs) (plain_kind _ t ht) h
  exact ⟨(String.append_right_inj _).mp kind, subject, rule⟩

end Origin

/-! ## Policies of one rule -/

/-- A rule that is about resources, with something in each of its lists. -/
structure Rule.IsComplete (rule : Rule) : Prop where
  verbs : rule.verbs ≠ []
  noUrls : rule.nonResourceUrls = []
  resources : rule.resources ≠ []
  groups : rule.apiGroups ≠ []

/-- Whether a rule's lists grant impersonation. -/
def Rule.impersonates (settings : Settings) (rule : Rule) : Bool :=
  isImpersonation settings (reduceWildcard rule.verbs) (reduceWildcard rule.resources)
    (reduceWildcard rule.apiGroups)

section
variable (settings : Settings) (origin : Origin) (principals : Principals) (rule : Rule)

def urlPermit : CompiledPolicy :=
  origin.permit principals "/nonresource" (actionScope (reduceWildcard rule.verbs))
    (.ofType EntityType.nonResourceUrl) (urlsCondition rule.nonResourceUrls)

def impersonationPermit (target : Impersonation) : CompiledPolicy :=
  origin.permit principals "/impersonate" (.equal (actionUid impersonateVerb)) target.resource
    target.condition

def resourcePermit : CompiledPolicy :=
  origin.permit principals "" (actionScope (reduceWildcard rule.verbs))
    (.ofType EntityType.resource)
    (resourceRuleCondition (reduceWildcard rule.apiGroups) (reduceWildcard rule.resources)
      (distinct rule.resourceNames) origin.namespaceName)

/-- The policies that a rule yields for the principals of a subject. -/
inductive Emits : CompiledPolicy → Prop
  | urls (verbs : rule.verbs ≠ []) (listed : rule.nonResourceUrls ≠ []) :
      Emits (urlPermit origin principals rule)
  | impersonation {target : Impersonation} (complete : rule.IsComplete)
      (impersonates : rule.impersonates settings = true)
      (selects : Impersonation.of (reduceWildcard rule.resources) (distinct rule.resourceNames) =
        .ok target) :
      Emits (impersonationPermit origin principals target)
  | resources (complete : rule.IsComplete)
      (more : ¬(rule.impersonates settings = true ∧ reduceWildcard rule.verbs = [impersonateVerb])) :
      Emits (resourcePermit origin principals rule)

end

section
variable {settings : Settings} {origin : Origin} {principals : Principals} {rule : Rule}
  {p : CompiledPolicy}

theorem ruleEmissions_of_isComplete (complete : rule.IsComplete) :
    ruleEmissions settings origin principals rule =
      if rule.impersonates settings then
        impersonationEmission origin principals (reduceWildcard rule.resources)
          (distinct rule.resourceNames) ::
          (if reduceWildcard rule.verbs = [impersonateVerb] then []
            else [.ok (resourcePermit origin principals rule)])
      else [.ok (resourcePermit origin principals rule)] := by
  obtain ⟨verbs, noUrls, resources, groups⟩ := complete
  simp [ruleEmissions, noUrls, verbs, resources, groups, Rule.impersonates, resourcePermit]
  rfl

theorem ruleEmissions_of_urls (verbs : rule.verbs ≠ []) (listed : rule.nonResourceUrls ≠ []) :
    ruleEmissions settings origin principals rule = [.ok (urlPermit origin principals rule)] := by
  simp [ruleEmissions, listed, verbs, urlPermit]

theorem ok_mem_impersonationEmission {resources names : List String} :
    (.ok p : Emission) = impersonationEmission origin principals resources names ↔
      ∃ target, Impersonation.of resources names = .ok target ∧
        p = impersonationPermit origin principals target := by
  unfold impersonationEmission
  split
  · rename_i target selects
    simp [selects, impersonationPermit]
  · rename_i resource fails
    simp [fails]

theorem ok_mem_ruleEmissions : (.ok p : Emission) ∈ ruleEmissions settings origin principals rule ↔
    Emits settings origin principals rule p := by
  constructor
  · intro mem
    by_cases verbs : rule.verbs = []
    · simp [ruleEmissions, verbs] at mem
    by_cases urls : rule.nonResourceUrls = []
    swap
    · rw [ruleEmissions_of_urls verbs urls, List.mem_singleton] at mem
      cases mem
      exact .urls verbs urls
    by_cases resources : rule.resources = []
    · simp [ruleEmissions, verbs, urls, resources] at mem
    by_cases groups : rule.apiGroups = []
    · simp [ruleEmissions, verbs, urls, resources, groups] at mem
    have complete : rule.IsComplete := ⟨verbs, urls, resources, groups⟩
    rw [ruleEmissions_of_isComplete complete] at mem
    split at mem
    · rename_i impersonates
      rcases List.mem_cons.mp mem with mem | mem
      · obtain ⟨target, selects, rfl⟩ := ok_mem_impersonationEmission.mp mem
        exact .impersonation complete impersonates selects
      · split at mem
        · cases mem
        · rename_i more
          cases List.mem_singleton.mp mem
          exact .resources complete fun h => more h.2
    · rename_i ordinary
      cases List.mem_singleton.mp mem
      exact .resources complete fun h => ordinary h.1
  · intro emits
    cases emits with
    | urls verbs listed => simp [ruleEmissions_of_urls verbs listed]
    | impersonation complete impersonates selects =>
      rw [ruleEmissions_of_isComplete complete, if_pos impersonates]
      exact List.mem_cons.mpr (.inl (ok_mem_impersonationEmission.mpr ⟨_, selects, rfl⟩))
    | resources complete more =>
      rw [ruleEmissions_of_isComplete complete]
      split
      · rename_i impersonates
        rw [if_neg fun alone => more ⟨impersonates, alone⟩]
        exact List.mem_cons_of_mem _ List.mem_cons_self
      · exact List.mem_cons_self

end

/-! ## Policies of a binding -/

namespace Compilation

/-- A policy is taken in, or reported if its id is taken. -/
def place (refusal : Diagnostic) (c : Compilation) (p : CompiledPolicy) : Compilation :=
  match c.collection.insert p with
  | .ok collection => { c with collection }
  | .error _ => c.skip refusal

theorem find?_place (refusal : Diagnostic) (c : Compilation) (p : CompiledPolicy) (id : String) :
    (c.place refusal p).collection.policies.find? id =
      (c.collection.policies.find? id).or (if p.id = id then some p else none) := by
  unfold place PolicyCollection.insert
  by_cases taken : c.collection.policies.contains p.id = true
  · simp only [taken, ↓reduceIte, skip]
    split
    · rename_i own
      rw [own] at taken
      exact (Option.or_of_isSome taken).symm
    · exact Option.or_none.symm
  · simp only [taken, Bool.false_eq_true, ↓reduceIte]
    rw [SortedMap.find?_insert]
    by_cases own : p.id = id
    · have free : c.collection.policies.find? id = none := by
        simpa [SortedMap.contains, own] using taken
      simp [own, free]
    · simp [own, Ne.symm own]

theorem emit_ok (c : Compilation) (origin : Origin) (p : CompiledPolicy) :
    c.emit origin (.ok p) = c.place (origin.diagnostic (.duplicatePolicy p.id)) p := rfl

end Compilation

theorem increasing_zipIdx {α : Type} (items : List α) :
    items.zipIdx.Pairwise fun e f => e.2 < f.2 := by
  have indices : (items.zipIdx.map Prod.snd).Pairwise (· < ·) := by
    rw [List.zipIdx_map_snd]
    exact List.pairwise_lt_range'
  exact List.pairwise_map.mp indices

/-- All that the subjects and rules of a binding yield, each with where it comes from. -/
def allEmissions (settings : Settings) (binding : Binding) (role : Role) (ns : Option String) :
    List (Origin × Emission) :=
  (origins binding role ns).flatMap fun (subject, rule, origin) =>
    (emissions settings subject rule origin).map fun emission => (origin, emission)

section
variable {settings : Settings} {binding : Binding} {role : Role} {ns : Option String}
  {p : CompiledPolicy}

theorem compile_eq_foldl : compile settings binding role ns =
    (allEmissions settings binding role ns).foldl (fun c e => c.emit e.1 e.2)
      (.new binding.idName) := by
  simp only [allEmissions, List.foldl_flatMap, List.foldl_map]
  rfl

theorem mem_origins {subject : Subject} {rule : Rule} {origin : Origin} :
    (subject, rule, origin) ∈ origins binding role ns ↔
      ∃ i j, binding.subjects[i]? = some subject ∧ role.rules[j]? = some rule ∧
        origin = ⟨binding, role, ns, i, j⟩ := by
  simp only [origins, List.mem_flatMap, List.mem_map, Prod.exists, List.mem_zipIdx_iff_getElem?,
    Prod.mk.injEq]
  constructor
  · rintro ⟨_, i, hi, _, j, hj, rfl, rfl, rfl⟩
    exact ⟨i, j, hi, hj, rfl⟩
  · rintro ⟨i, j, hi, hj, rfl⟩
    exact ⟨subject, i, hi, rule, j, hj, rfl, rfl, rfl⟩

/-- The policies of one subject and one rule. -/
theorem ok_mem_emissions {subject : Subject} {rule : Rule} {origin : Origin} :
    (.ok p : Emission) ∈ emissions settings subject rule origin ↔
      ∃ principals, Principals.of subject = .ok principals ∧
        Emits settings origin principals rule p := by
  unfold emissions
  split
  · rename_i principals stands
    simp [stands, ok_mem_ruleEmissions]
  · rename_i reason fails
    simp [fails]

theorem Emits.id {origin : Origin} {principals : Principals} {rule : Rule}
    (h : Emits settings origin principals rule p) : ∃ suffix ∈ suffixes, p.id = origin.id suffix := by
  cases h with
  | urls => exact ⟨"/nonresource", by decide, rfl⟩
  | impersonation => exact ⟨"/impersonate", by decide, rfl⟩
  | resources => exact ⟨"", by decide, rfl⟩

/-- A rule yields at most one policy of a kind. -/
theorem Emits.unique {origin : Origin} {principals : Principals} {rule : Rule} {q : CompiledPolicy}
    (hp : Emits settings origin principals rule p) (hq : Emits settings origin principals rule q)
    (same : p.id = q.id) : p = q := by
  have told : ∀ s ∈ suffixes, ∀ t ∈ suffixes, origin.id s = origin.id t → s = t :=
    fun s hs t ht h => (Origin.id_injective rfl hs ht h).1
  cases hp with
  | urls verbs listed =>
    cases hq with
    | urls => rfl
    | impersonation complete => exact absurd complete.noUrls listed
    | resources complete => exact absurd complete.noUrls listed
  | impersonation complete impersonates selects =>
    cases hq with
    | urls verbs listed => exact absurd complete.noUrls listed
    | impersonation _ _ selects' =>
      cases selects.symm.trans selects'
      rfl
    | resources => exact absurd (told _ (by decide) _ (by decide) same) (by decide)
  | resources complete more =>
    cases hq with
    | urls verbs listed => exact absurd complete.noUrls listed
    | impersonation => exact absurd (told _ (by decide) _ (by decide) same) (by decide)
    | resources => rfl

theorem mem_allEmissions {origin : Origin} {e : Emission} :
    (origin, e) ∈ allEmissions settings binding role ns ↔
      ∃ subject rule, (subject, rule, origin) ∈ origins binding role ns ∧
        e ∈ emissions settings subject rule origin := by
  simp only [allEmissions, List.mem_flatMap, Prod.exists, List.mem_map, Prod.mk.injEq]
  constructor
  · rintro ⟨subject, rule, _, place, _, mem, rfl, rfl⟩
    exact ⟨subject, rule, place, mem⟩
  · rintro ⟨subject, rule, place, mem⟩
    exact ⟨subject, rule, origin, place, e, mem, rfl, rfl⟩

theorem ok_mem_allEmissions {origin : Origin} :
    (origin, .ok p) ∈ allEmissions settings binding role ns ↔
      ∃ subject rule principals, (subject, rule, origin) ∈ origins binding role ns ∧
        Principals.of subject = .ok principals ∧ Emits settings origin principals rule p := by
  simp only [mem_allEmissions, ok_mem_emissions, exists_and_left]

/-- No two policies of a binding share an id. -/
theorem unique_allEmissions {o o' : Origin} {q : CompiledPolicy}
    (hp : (o, .ok p) ∈ allEmissions settings binding role ns)
    (hq : (o', .ok q) ∈ allEmissions settings binding role ns) (same : p.id = q.id) : p = q := by
  obtain ⟨subject, rule, principals, place, stands, emits⟩ := ok_mem_allEmissions.mp hp
  obtain ⟨subject', rule', principals', place', stands', emits'⟩ := ok_mem_allEmissions.mp hq
  obtain ⟨i, j, hi, hj, rfl⟩ := mem_origins.mp place
  obtain ⟨i', j', hi', hj', rfl⟩ := mem_origins.mp place'
  obtain ⟨s, hs, isS⟩ := emits.id
  obtain ⟨t, ht, isT⟩ := emits'.id
  rw [isS, isT] at same
  obtain ⟨rfl, sameSubject, sameRule⟩ := Origin.id_injective (Eq.refl binding) hs ht same
  obtain rfl : i = i' := sameSubject
  obtain rfl : j = j' := sameRule
  cases hi.symm.trans hi'
  cases hj.symm.trans hj'
  cases stands.symm.trans stands'
  exact emits.unique emits' (isS.trans isT.symm)

/-- The policy under an id that an emission holds. -/
def emitted (id : String) (e : Origin × Emission) : Option CompiledPolicy :=
  match e.2 with
  | .ok p => if p.id = id then some p else none
  | .error _ => none

theorem emitted_eq_some {id : String} {e : Origin × Emission} :
    emitted id e = some p ↔ e.2 = .ok p ∧ p.id = id := by
  unfold emitted
  split
  · rename_i q isQ
    rw [isQ, Option.ite_none_right_eq_some, Option.some.injEq, Except.ok.injEq]
    constructor
    · rintro ⟨rfl, rfl⟩
      exact ⟨rfl, rfl⟩
    · rintro ⟨rfl, rfl⟩
      exact ⟨rfl, rfl⟩
  · rename_i reason fails
    simp [fails]

/-- Of several policies under an id the first stays. -/
theorem find?_emit (c : Compilation) (e : Origin × Emission) (id : String) :
    (c.emit e.1 e.2).collection.policies.find? id =
      (c.collection.policies.find? id).or (emitted id e) := by
  obtain ⟨origin, emission⟩ := e
  cases emission with
  | error reason => simp [Compilation.emit, Compilation.skip, emitted]
  | ok p => rw [Compilation.emit_ok, Compilation.find?_place, emitted]

theorem find?_foldl_emit (l : List (Origin × Emission)) (c : Compilation) (id : String) :
    (l.foldl (fun c e => c.emit e.1 e.2) c).collection.policies.find? id =
      (c.collection.policies.find? id).or (l.findSome? (emitted id)) := by
  induction l generalizing c with
  | nil => simp
  | cons e l ih =>
    rw [List.foldl_cons, ih, find?_emit, Option.or_assoc, List.findSome?_cons]
    cases emitted id e <;> rfl

/-- The policies of a compilation are what the subjects and rules of the binding yield. -/
theorem mem_compile : p ∈ (compile settings binding role ns).collection.policies.values ↔
    ∃ subject rule origin principals, (subject, rule, origin) ∈ origins binding role ns ∧
      Principals.of subject = .ok principals ∧ Emits settings origin principals rule p := by
  rw [PolicyCollection.mem_values_iff, compile_eq_foldl, find?_foldl_emit]
  have fresh : (Compilation.new binding.idName).collection.policies.find? p.id = none := rfl
  rw [fresh, Option.none_or]
  constructor
  · intro found
    obtain ⟨⟨origin, emission⟩, mem, isP⟩ := List.exists_of_findSome?_eq_some found
    obtain ⟨ok, -⟩ := emitted_eq_some.mp isP
    simp only at ok
    subst ok
    obtain ⟨subject, rule, principals, rest⟩ := ok_mem_allEmissions.mp mem
    exact ⟨subject, rule, origin, principals, rest⟩
  · rintro ⟨subject, rule, origin, principals, rest⟩
    have mem : (origin, .ok p) ∈ allEmissions settings binding role ns :=
      ok_mem_allEmissions.mpr ⟨subject, rule, principals, rest⟩
    cases found : (allEmissions settings binding role ns).findSome? (emitted p.id) with
    | none =>
      have absent := List.findSome?_eq_none_iff.mp found _ mem
      simp [emitted] at absent
    | some q =>
      obtain ⟨⟨origin', emission⟩, mem', isQ⟩ := List.exists_of_findSome?_eq_some found
      obtain ⟨ok, same⟩ := emitted_eq_some.mp isQ
      simp only at ok
      subst ok
      rw [unique_allEmissions mem mem' same.symm]

theorem effect_compile (h : p ∈ (compile settings binding role ns).collection.policies.values) :
    p.effect = .permit := by
  obtain ⟨_, _, _, _, -, -, emits⟩ := mem_compile.mp h
  cases emits <;> rfl

end

/-! ## Policies that can be written -/

theorem isWritable_resourceRuleCondition (groups resources names : List String) (ns : Option String) :
    (resourceRuleCondition groups resources names ns).IsWritable := by
  apply Condition.IsWritable.all
  intro c hc
  simp only [List.mem_cons, List.not_mem_nil, or_false] at hc
  rcases hc with rfl | rfl | rfl | rfl | rfl
  · exact isWritable_apiGroupsCondition groups
  · exact isWritable_resourcesCondition resources
  · exact isWritable_presentAndAny "name" names
  · exact isWritable_namespaceCondition ns
  · split
    · exact .inl rfl
    · exact .inr rfl

theorem actionIsValid_actionScope (verbs : List String) :
    CompiledPolicy.actionIsValid (actionScope verbs) = true := by
  have type : CompiledPolicy.isActionType EntityType.action = true := by decide
  unfold actionScope
  split
  · split
    · rfl
    · exact type
  · exact List.all_eq_true.mpr (List.forall_mem_map.mpr fun _ _ => type)

theorem Principals.isWritable_of {subject : Subject} {principals : Principals}
    (h : Principals.of subject = .ok principals) : principals.condition.IsWritable ∧
      CompiledPolicy.scopeIsValid principals.scope = true := by
  unfold Principals.of at h
  split at h
  · cases h
    exact ⟨.inl rfl, (by decide : Cedar.isName EntityType.group = true)⟩
  · cases h
    exact ⟨.inr rfl, (by decide : Cedar.isName EntityType.user = true)⟩
  · simp only at h
    split at h
    · cases h
    · cases h
      exact ⟨.both (.inr rfl) (.inr rfl), (by decide : Cedar.isName EntityType.serviceAccount = true)⟩

theorem BindingKind.isIdent_name (kind : BindingKind) : Cedar.isIdent kind.name.toList = true := by
  cases kind <;> decide

theorem Origin.isProper_permit {origin : Origin} {principals : Principals} {suffix : String}
    {action : Cedar.ActionScope} {resource : Scope} {condition : Condition}
    (kind : Cedar.isIdent origin.role.kind.toList = true)
    (principal : principals.condition.IsWritable ∧
      CompiledPolicy.scopeIsValid principals.scope = true)
    (validAction : CompiledPolicy.actionIsValid action = true)
    (validResource : CompiledPolicy.scopeIsValid resource = true) (writable : condition.IsWritable) :
    (origin.permit principals suffix action resource condition).IsProper := by
  refine ⟨fun e he _ => ?_, principal.2, validAction, validResource, principal.1.both writable⟩
  have mem : e ∈ origin.annotations := (SortedMap.mem_insertAll he).resolve_left List.not_mem_nil
  simp only [Origin.annotations, List.mem_append, List.mem_cons, List.not_mem_nil, or_false,
    List.mem_map] at mem
  rcases mem with (rfl | rfl | rfl) | ⟨ns, -, rfl⟩
  · exact origin.binding.kind.isIdent_name
  · exact kind
  · exact (by decide : Cedar.isIdent "policyRule".toList = true)
  · exact (by decide : Cedar.isIdent "namespace".toList = true)

section
variable {settings : Settings} {binding : Binding} {role : Role} {ns : Option String}
  (kind : Cedar.isIdent role.kind.toList = true)
include kind

/-- Every policy that a binding compiles to can be written, if the role's kind is an identifier. -/
theorem isProper_compile : (compile settings binding role ns).collection.IsProper := by
  intro p hp
  obtain ⟨subject, rule, origin, principals, place, stands, emits⟩ := mem_compile.mp hp
  obtain ⟨i, j, -, -, rfl⟩ := mem_origins.mp place
  have principal := Principals.isWritable_of stands
  cases emits with
  | urls =>
    exact Origin.isProper_permit kind principal (actionIsValid_actionScope _)
      (by decide : Cedar.isName EntityType.nonResourceUrl = true) (isWritable_urlsCondition _)
  | impersonation _ _ selects =>
    obtain ⟨writable, valid⟩ := Impersonation.isWritable_of selects
    exact Origin.isProper_permit kind principal
      (by decide : CompiledPolicy.isActionType EntityType.action = true) valid writable
  | resources =>
    exact Origin.isProper_permit kind principal (actionIsValid_actionScope _)
      (by decide : Cedar.isName EntityType.resource = true)
      (isWritable_resourceRuleCondition _ _ _ _)

end

end ClusterPolicy.Rbac
