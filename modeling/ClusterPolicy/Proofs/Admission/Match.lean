import ClusterPolicy.Admission
import ClusterPolicy.Cedar.Authorization
import ClusterPolicy.EntityBuilders
import ClusterPolicy.Proofs.Cedar.Graph
import ClusterPolicy.Proofs.Condition.Evaluation
import ClusterPolicy.Proofs.Rbac.Match
import ClusterPolicy.Proofs.Text.LetterCase

/-! Which operations and objects a resource rule is about. No object makes the conditions fail, if its
metadata is a record. -/

namespace ClusterPolicy.Admission

open Cedar (Entities EntityUid Request Value)
open Rbac (distinct mem_distinct nodup_distinct reduceWildcard reduceWildcard_of_mem
  reduceWildcard_of_notMem)

/-! ## Sorted lists -/

section
variable {items : List String} {item : String}

@[simp] theorem mem_sorted : item ∈ sorted items ↔ item ∈ items := List.mem_mergeSort

theorem sorted_singleton (item : String) : sorted [item] = [item] := List.mergeSort_singleton item

theorem perm_sorted (items : List String) : (sorted items).Perm items := List.mergeSort_perm items _

theorem increasing_sorted (items : List String) : (sorted items).Pairwise (· ≤ ·) := by
  have ordered : (sorted items).Pairwise (fun a b => decide (a ≤ b) = true) := by
    apply List.pairwise_mergeSort
    · intro a b c first second
      exact decide_eq_true (String.le_trans (of_decide_eq_true first) (of_decide_eq_true second))
    · intro a b
      simpa using String.le_total a b
  exact ordered.imp of_decide_eq_true

/-- A list without repetitions is known by its entries once it is sorted. -/
theorem sorted_eq_iff {other : List String} (nodup : items.Nodup) (distinct : other.Nodup)
    (increasing : other.Pairwise (· ≤ ·)) : sorted items = other ↔ ∀ i, i ∈ items ↔ i ∈ other := by
  constructor
  · rintro rfl i
    exact mem_sorted.symm
  · intro same
    have perm : (sorted items).Perm other :=
      (perm_sorted items).trans ((List.perm_ext_iff_of_nodup nodup distinct).mpr same)
    exact perm.eq_of_pairwise (fun a b _ _ => String.le_antisymm) (increasing_sorted items) increasing

end

/-! ## Operations -/

/-- A rule's operations are asked for by an operation. Where several are listed, it is also asked
whether the operation is a member of one of them. -/
inductive MatchesOperation (given : List String) (graph : Entities) (operation : String) : Prop
  | any (mem : "*" ∈ given)
  | every (all : ∀ o, o ∈ given.map Text.lowercase ↔ o ∈ allOperations)
  | listed (mem : Text.lowercase operation ∈ given.map Text.lowercase)
  | member {group other : String} (mem : group ∈ given.map Text.lowercase)
      (more : other ∈ given.map Text.lowercase) (different : other ≠ group)
      (within : graph.reaches (EntityBuilders.admissionAction operation) (actionUid group) = true)

theorem star_mem_lowered {given : List String} : "*" ∈ given.map Text.lowercase ↔ "*" ∈ given := by
  simp [Text.lowercase_eq_star]

/-- A rule's operations leave an action open: all are listed, or the graph puts the action below one of
several. -/
inductive LeavesOpen (given : List String) (graph : Entities) (uid : EntityUid) : Prop
  | any (mem : "*" ∈ given)
  | every (all : ∀ o, o ∈ given.map Text.lowercase ↔ o ∈ allOperations)
  | member {group other : String} (mem : group ∈ given.map Text.lowercase)
      (more : other ∈ given.map Text.lowercase) (different : other ≠ group)
      (within : graph.reaches uid (actionUid group) = true)

/-- An action is one that a rule's operations ask for: it is listed, or left open. -/
def MatchesAction (given : List String) (graph : Entities) (uid : EntityUid) : Prop :=
  (∃ o ∈ given.map Text.lowercase, uid = actionUid o) ∨ LeavesOpen given graph uid

theorem matchesAction_admissionAction {given : List String} {graph : Entities} {operation : String} :
    MatchesAction given graph (EntityBuilders.admissionAction operation) ↔
      MatchesOperation given graph operation := by
  constructor
  · rintro (⟨o, mem, same⟩ | wild | all | ⟨mem, more, different, within⟩)
    · cases same
      exact .listed mem
    · exact .any wild
    · exact .every all
    · exact .member mem more different within
  · rintro (wild | all | mem | ⟨mem, more, different, within⟩)
    · exact .inr (.any wild)
    · exact .inr (.every all)
    · exact .inl ⟨_, mem, rfl⟩
    · exact .inr (.member mem more different within)

/-- One operation is compared with the action, several are asked for as groups that it may be in. -/
theorem holds_actionScope? {listed : List String} (nodup : listed.Nodup) (plain : "*" ∉ listed)
    {action : Cedar.ActionScope} (acts : actionScope? listed = some action) {graph : Entities}
    {uid : EntityUid} : action.holds graph uid = true ↔ (∃ o ∈ listed, uid = actionUid o) ∨
      ∃ group ∈ listed, (∃ other ∈ listed, other ≠ group) ∧
        graph.reaches uid (actionUid group) = true := by
  unfold actionScope? at acts
  split at acts
  · cases acts
  · rename_i only
    have other : only ≠ "*" := by simpa [eq_comm] using plain
    rw [if_neg other] at acts
    cases acts
    simp [Cedar.ActionScope.holds]
  · rename_i several single
    cases acts
    rw [Cedar.ActionScope.holds, List.any_map, List.any_eq_true]
    constructor
    · rintro ⟨group, mem, within⟩
      refine .inr ⟨group, mem, ?_, within⟩
      -- Several operations are two at least, and one of the two is not `group`.
      have two : ∃ a b rest, listed = a :: b :: rest := by
        match listed, mem with
        | [a], _ => exact absurd rfl (single a)
        | a :: b :: rest, _ => exact ⟨a, b, rest, rfl⟩
      obtain ⟨a, b, rest, rfl⟩ := two
      have apart : a ≠ b := by
        rintro rfl
        simp at nodup
      by_cases first : a = group
      · exact ⟨b, by simp, fun same => apart (first.trans same.symm)⟩
      · exact ⟨a, by simp, first⟩
    · rintro (⟨o, mem, rfl⟩ | ⟨group, mem, -, within⟩)
      · exact ⟨o, mem, Cedar.Entities.reaches_iff.mpr .refl⟩
      · exact ⟨group, mem, within⟩

/-- The action of a rule's policies holds for the actions that the rule's operations ask for. -/
theorem holds_operations {given : List String} {graph : Entities} {uid : EntityUid}
    {action : Cedar.ActionScope} (acts : actionScope? (operations given) = some action) :
    action.holds graph uid = true ↔ MatchesAction given graph uid := by
  by_cases wild : "*" ∈ given
  · have all : operations given = ["*"] := by
      rw [operations, reduceWildcard_of_mem (star_mem_lowered.mpr wild), sorted_singleton]
      decide
    rw [all] at acts
    cases acts
    exact iff_of_true rfl (.inr (.any wild))
  -- Without a star the operations are sorted, and compared with the sorted list of all of them.
  have plain : "*" ∉ given.map Text.lowercase := fun mem => wild (star_mem_lowered.mp mem)
  have nodup := nodup_distinct (given.map Text.lowercase)
  have complete : sorted (distinct (given.map Text.lowercase)) = allOperations ↔
      ∀ o, o ∈ given.map Text.lowercase ↔ o ∈ allOperations := by
    rw [sorted_eq_iff nodup (by decide) (by decide)]
    simp only [mem_distinct]
  by_cases every : ∀ o, o ∈ given.map Text.lowercase ↔ o ∈ allOperations
  · have all : operations given = ["*"] := by
      rw [operations, reduceWildcard_of_notMem plain]
      exact if_pos (complete.mpr every)
    rw [all] at acts
    cases acts
    exact iff_of_true rfl (.inr (.every every))
  · have some : operations given = sorted (distinct (given.map Text.lowercase)) := by
      rw [operations, reduceWildcard_of_notMem plain]
      exact if_neg fun all => every (complete.mp all)
    rw [some] at acts
    have unstarred : "*" ∉ sorted (distinct (given.map Text.lowercase)) := by
      simpa only [mem_sorted, mem_distinct] using plain
    rw [holds_actionScope? ((perm_sorted _).nodup_iff.mpr nodup) unstarred acts]
    simp only [mem_sorted, mem_distinct]
    refine or_congr_right ?_
    constructor
    · rintro ⟨group, mem, ⟨other, more, different⟩, within⟩
      exact .member mem more different within
    · rintro (wild' | every' | ⟨mem, more, different, within⟩)
      · exact absurd wild' wild
      · exact absurd every' every
      · exact ⟨_, mem, ⟨_, more, different⟩, within⟩

theorem operations_ne_nil {given : List String} (some : given ≠ []) : operations given ≠ [] := by
  have nonempty : reduceWildcard (given.map Text.lowercase) ≠ [] := by
    obtain ⟨o, mem⟩ := List.exists_mem_of_ne_nil given some
    by_cases wild : "*" ∈ given.map Text.lowercase
    · simp [reduceWildcard_of_mem wild]
    · rw [reduceWildcard_of_notMem wild]
      exact List.ne_nil_of_mem (mem_distinct.mpr (List.mem_map_of_mem mem))
  obtain ⟨o, mem⟩ := List.exists_mem_of_ne_nil _ nonempty
  unfold operations
  simp only
  split
  · exact List.cons_ne_nil _ _
  · exact List.ne_nil_of_mem (mem_sorted.mpr mem)

theorem actionScope?_nil : actionScope? (operations []) = none := by
  simp [operations, sorted, reduceWildcard, distinct, allOperations, actionScope?]

theorem exists_actionScope? {given : List String} (some : given ≠ []) :
    ∃ action, actionScope? (operations given) = .some action := by
  have nonempty := operations_ne_nil some
  unfold actionScope?
  split
  · rename_i none
    exact absurd none nonempty
  · exact ⟨_, rfl⟩
  · exact ⟨_, rfl⟩

/-! ## Types -/

/-- A list that names nothing in particular. -/
def IsAny (items : List String) : Prop := items = [] ∨ "*" ∈ items

instance (items : List String) : Decidable (IsAny items) :=
  inferInstanceAs (Decidable (items = [] ∨ "*" ∈ items))

/-- The entity type of a resource: its kind, within its group and version. -/
def typeName (settings : Settings) (group version resource : String) : String :=
  groupPath group ++ "::" ++ version ++ "::" ++
    (settings.kindOf? resource).getD (Text.capitalize resource)

/-- A rule is about the objects of a type. -/
inductive MatchesType (settings : Settings) (rule : Rule) (type : String) : Prop
  | any (groups : IsAny rule.apiGroups) (versions : IsAny rule.apiVersions)
      (resources : IsAny rule.resources)
  | named {group version resource : String} (inGroups : group ∈ rule.apiGroups)
      (inVersions : version ∈ rule.apiVersions) (inResources : resource ∈ rule.resources)
      (same : type = typeName settings group version resource)

section
variable {items : List String}

theorem sortedOrAny_of_isAny (h : IsAny items) : sortedOrAny items = ["*"] := by
  rcases h with rfl | wild
  · simp [sortedOrAny, reduceWildcard, distinct, sorted]
  · simp [sortedOrAny, reduceWildcard_of_mem wild, sorted_singleton]

theorem exists_mem_of_not_isAny (h : ¬IsAny items) : ∃ item, item ∈ items :=
  List.exists_mem_of_ne_nil items fun none => h (.inl none)

theorem mem_sortedOrAny (h : ¬IsAny items) {item : String} : item ∈ sortedOrAny items ↔ item ∈ items := by
  have plain : "*" ∉ items := fun wild => h (.inr wild)
  have listed : (sorted (distinct items)).isEmpty = false := by
    obtain ⟨first, mem⟩ := exists_mem_of_not_isAny h
    rw [List.isEmpty_eq_false_iff_exists_mem]
    exact ⟨first, mem_sorted.mpr (mem_distinct.mpr mem)⟩
  rw [sortedOrAny, reduceWildcard_of_notMem plain]
  simp only [listed, Bool.false_eq_true, ↓reduceIte, mem_sorted, mem_distinct]

theorem head?_sortedOrAny : (sortedOrAny items).head? = some "*" ↔ IsAny items := by
  constructor
  · intro first
    by_contra notAny
    have mem := (mem_sortedOrAny notAny).mp (List.mem_of_mem_head? first)
    exact notAny (.inr mem)
  · intro any
    rw [sortedOrAny_of_isAny any]
    rfl

end

/-- A rule is about all types. -/
def Rule.IsUntyped (rule : Rule) : Prop :=
  IsAny rule.apiGroups ∧ IsAny rule.apiVersions ∧ IsAny rule.resources

instance (rule : Rule) : Decidable rule.IsUntyped := inferInstanceAs (Decidable (_ ∧ _))

/-- A rule names groups, versions and resources. -/
structure Rule.IsTyped (rule : Rule) : Prop where
  groups : ¬IsAny rule.apiGroups
  versions : ¬IsAny rule.apiVersions
  resources : ¬IsAny rule.resources

/-- A rule is about all types, or about named ones of which none is a part of another. -/
def Rule.IsMatchable (rule : Rule) : Prop :=
  rule.IsUntyped ∨ rule.IsTyped ∧ ∀ resource ∈ rule.resources, '/' ∉ resource.toList

/-- What the types of a rule lead to. -/
inductive TypeMatched (rule : Rule) :
    Except SkipReason ((Cedar.Scope × Condition) × List Warning) → Prop
  | matched {m : (Cedar.Scope × Condition) × List Warning} (matchable : rule.IsMatchable) :
      TypeMatched rule (.ok m)
  | mixed {groups versions resources : List String} (some : ¬rule.IsUntyped) (other : ¬rule.IsTyped) :
      TypeMatched rule (.error (.partialWildcard groups versions resources))
  | part {resource : String} (typed : rule.IsTyped) (mem : resource ∈ rule.resources)
      (slash : '/' ∈ resource.toList) : TypeMatched rule (.error (.subresource resource))

theorem countP_eq_three_iff {rule : Rule} : [sortedOrAny rule.apiGroups,
    sortedOrAny rule.apiVersions, sortedOrAny rule.resources].countP (·.head? = some "*") = 3 ↔
      rule.IsUntyped := by
  refine (List.countP_eq_length (p := fun items : List String => decide (items.head? = some "*"))).trans ?_
  simp [head?_sortedOrAny, Rule.IsUntyped]

theorem countP_eq_zero_iff {rule : Rule} : [sortedOrAny rule.apiGroups,
    sortedOrAny rule.apiVersions, sortedOrAny rule.resources].countP (·.head? = some "*") = 0 ↔
      rule.IsTyped := by
  rw [List.countP_eq_zero]
  simp only [List.forall_mem_cons, decide_eq_true_eq, head?_sortedOrAny]
  exact ⟨fun ⟨groups, versions, resources, _⟩ => ⟨groups, versions, resources⟩,
    fun ⟨groups, versions, resources⟩ => ⟨groups, versions, resources, nofun⟩⟩

theorem typeMatched_typeMatch (settings : Settings) (rule : Rule) :
    TypeMatched rule (typeMatch settings rule) := by
  unfold typeMatch
  simp only
  split
  · rename_i three
    exact .matched (.inl (countP_eq_three_iff.mp three))
  · rename_i some
    split
    · rename_i nonzero
      exact .mixed (countP_eq_three_iff.not.mp some) (countP_eq_zero_iff.not.mp nonzero)
    · rename_i zero
      have typed := countP_eq_zero_iff.mp (not_not.mp zero)
      split
      · rename_i resource found
        exact .part typed ((mem_sortedOrAny typed.resources).mp (List.mem_of_find?_eq_some found))
          (by simpa using List.find?_some found)
      · rename_i none
        have whole : ∀ resource ∈ rule.resources, '/' ∉ resource.toList := by
          intro resource mem
          simpa using List.find?_eq_none.mp none resource ((mem_sortedOrAny typed.resources).mpr mem)
        split <;> exact .matched (.inr ⟨typed, whole⟩)

theorem entityType_fst (settings : Settings) (group version resource : String) :
    (entityType settings group version resource).1 = typeName settings group version resource := by
  unfold entityType typeName
  cases settings.kindOf? resource <;> rfl

/-- The types that a rule names, each group with each version and each resource. -/
def typeNames (settings : Settings) (rule : Rule) : List String :=
  ((sortedOrAny rule.apiGroups).flatMap fun group =>
    (sortedOrAny rule.apiVersions).flatMap fun version =>
      (sortedOrAny rule.resources).map (entityType settings group version)).map (·.1)

section
variable {settings : Settings} {rule : Rule} {resource : Cedar.Scope} {c : Condition}
  {inferred : List Warning}

theorem typeMatch_eq_ok (h : typeMatch settings rule = .ok ((resource, c), inferred)) :
    (IsAny rule.apiGroups ∧ IsAny rule.apiVersions ∧ IsAny rule.resources ∧
      resource = .any ∧ c = .empty) ∨
    (¬IsAny rule.apiGroups ∧ ¬IsAny rule.apiVersions ∧ ¬IsAny rule.resources ∧
      ((∃ type, typeNames settings rule = [type] ∧ resource = .ofType type ∧ c = .empty) ∨
        (∀ type, typeNames settings rule ≠ [type]) ∧ resource = .any ∧
          c = .any ((typeNames settings rule).map (Condition.is .resource)))) := by
  unfold typeMatch at h
  simp only at h
  split at h
  · rename_i three
    obtain ⟨groups, versions, resources⟩ := countP_eq_three_iff.mp three
    cases h
    exact .inl ⟨groups, versions, resources, rfl, rfl⟩
  · split at h
    · cases h
    · rename_i nonzero
      obtain ⟨groups, versions, resources⟩ := countP_eq_zero_iff.mp (not_not.mp nonzero)
      refine .inr ⟨groups, versions, resources, ?_⟩
      split at h
      · cases h
      · split at h
        · rename_i type single
          cases h
          exact .inl ⟨type, single, rfl, rfl⟩
        · rename_i several
          cases h
          exact .inr ⟨several, rfl, rfl⟩

theorem typeMatch_of_isAny (groups : IsAny rule.apiGroups)
    (versions : IsAny rule.apiVersions) (resources : IsAny rule.resources) :
    typeMatch settings rule = .ok ((.any, .empty), []) := by
  unfold typeMatch
  simp only [sortedOrAny_of_isAny groups, sortedOrAny_of_isAny versions,
    sortedOrAny_of_isAny resources]
  rfl

theorem mem_typeNames (groups : ¬IsAny rule.apiGroups) (versions : ¬IsAny rule.apiVersions)
    (resources : ¬IsAny rule.resources) {type : String} : type ∈ typeNames settings rule ↔
      ∃ group ∈ rule.apiGroups, ∃ version ∈ rule.apiVersions, ∃ resource ∈ rule.resources,
        type = typeName settings group version resource := by
  simp only [typeNames, List.mem_map, List.mem_flatMap, mem_sortedOrAny groups,
    mem_sortedOrAny versions, mem_sortedOrAny resources]
  constructor
  · rintro ⟨_, ⟨group, inGroups, version, inVersions, resource, inResources, rfl⟩, rfl⟩
    exact ⟨group, inGroups, version, inVersions, resource, inResources, entityType_fst ..⟩
  · rintro ⟨group, inGroups, version, inVersions, resource, inResources, rfl⟩
    exact ⟨_, ⟨group, inGroups, version, inVersions, resource, inResources, rfl⟩, entityType_fst ..⟩

/-- Where several types are asked for one by one, each must be a name. -/
theorem isName_of_test? {types : List String} {t : Cedar.Test}
    (h : (Condition.any (types.map (Condition.is .resource))).test? = some t) :
    ∀ type ∈ types, Cedar.isName type = true := by
  intro type mem
  obtain ⟨s, isTest⟩ := Condition.exists_test?_any h _ (List.mem_map_of_mem mem)
  by_contra other
  simp [Condition.test?, Condition.toExpr?, other] at isTest

/-- The scope and the condition of a rule select the objects of the types that it is about, and no
object makes them fail. -/
theorem decides_typeMatch (matched : typeMatch settings rule = .ok ((resource, c), inferred))
    {t : Cedar.Test} (written : c.test? = some t) (request : Request) (graph : Entities) :
    ∃ b, c.Decides request graph b ∧ (resource.holds graph request.resource = true ∧ b = true ↔
      MatchesType settings rule request.resource.type) := by
  rcases typeMatch_eq_ok matched with ⟨groups, versions, resources, rfl, rfl⟩ |
    ⟨groups, versions, resources, selects⟩
  · exact ⟨true, Condition.decides_empty, iff_of_true ⟨rfl, rfl⟩ (.any groups versions resources)⟩
  · have named : MatchesType settings rule request.resource.type ↔
        request.resource.type ∈ typeNames settings rule := by
      rw [mem_typeNames groups versions resources]
      constructor
      · rintro (any | ⟨inGroups, inVersions, inResources, same⟩)
        · exact absurd any groups
        · exact ⟨_, inGroups, _, inVersions, _, inResources, same⟩
      · rintro ⟨_, inGroups, _, inVersions, _, inResources, same⟩
        exact .named inGroups inVersions inResources same
    rw [named]
    rcases selects with ⟨type, single, rfl, rfl⟩ | ⟨-, rfl, rfl⟩
    · refine ⟨true, Condition.decides_empty, ?_⟩
      rw [single, List.mem_singleton, Cedar.Scope.holds, beq_iff_eq]
      exact and_iff_left rfl
    · have names := isName_of_test? written
      have each : ∀ type ∈ typeNames settings rule,
          (Condition.is .resource type).Decides request graph (request.resource.type == type) := by
        intro type mem
        exact (Condition.yields_var .resource).is (names type mem)
      have proper : ∀ type ∈ typeNames settings rule,
          (Condition.is .resource type).isProper = true := by
        intro type mem
        simp [Condition.isProper, Condition.resource, names type mem]
      have nonempty : typeNames settings rule ≠ [] := by
        obtain ⟨group, inGroups⟩ := exists_mem_of_not_isAny groups
        obtain ⟨version, inVersions⟩ := exists_mem_of_not_isAny versions
        obtain ⟨resource, inResources⟩ := exists_mem_of_not_isAny resources
        exact List.ne_nil_of_mem ((mem_typeNames groups versions resources).mpr
          ⟨group, inGroups, version, inVersions, resource, inResources, rfl⟩)
      refine ⟨_, Condition.Decides.any proper each nonempty, ?_⟩
      simp [Cedar.Scope.holds]

end

/-! ## Names -/

/-- What the metadata of the object that is asked about has under `name`. -/
def objectName? (request : Request) (graph : Entities) : Option Value := do
  match (← graph.find? request.resource).attrs.lookup "metadata" with
  | some (.record metadata) => metadata.lookup "name"
  | _ => none

/-- The object's metadata, if there is any, is a record. -/
def MetadataIsRecord (request : Request) (graph : Entities) : Prop :=
  ∀ e v, graph.find? request.resource = some e → e.attrs.lookup "metadata" = some v →
    ∃ fields, v = .record fields

/-- A list of names asks for the object's name to be among them, if there is one. -/
def MatchesName (names : List String) (request : Request) (graph : Entities) : Prop :=
  names = [] ∨ ∃ name ∈ names, objectName? request graph = some (.string name)

def metadataCondition : Condition :=
  .both (.has .resource "metadata") (.has (.access .resource "metadata") "name")

def nameAccess : Condition := .access (.access .resource "metadata") "name"

theorem namesCondition_eq {names : List String} (nonempty : names ≠ []) :
    namesCondition names = .both metadataCondition (Rbac.equalsAny nameAccess names) := by
  match names with
  | [] => exact absurd rfl nonempty
  | [one] => rfl
  | one :: two :: more => rfl

section
variable {request : Request} {graph : Entities} (isRecord : MetadataIsRecord request graph)
include isRecord

theorem decides_metadataCondition :
    metadataCondition.Decides request graph (objectName? request graph).isSome ∧
      ∀ v, objectName? request graph = some v → nameAccess.Yields request graph v := by
  have writable : (Condition.has (.access .resource "metadata") "name").IsWritable := .inr rfl
  cases found : graph.find? request.resource with
  | none =>
    have absent : (Condition.has .resource "metadata").Decides request graph false := by
      apply (Condition.yields_var .resource).has
      simp [Request.value, Value.hasAttr, found]
    have unnamed : objectName? request graph = none := by simp [objectName?, found]
    rw [unnamed]
    exact ⟨absent.guards (y := false) writable (by simp), by simp⟩
  | some e =>
    have present := Rbac.decides_hasAttr found "metadata"
    cases metadata : e.attrs.lookup "metadata" with
    | none =>
      have unnamed : objectName? request graph = none := by simp [objectName?, found, metadata]
      rw [metadata] at present
      rw [unnamed]
      exact ⟨present.guards (y := false) writable (by simp), by simp⟩
    | some v =>
      obtain ⟨fields, rfl⟩ := isRecord e v found metadata
      have named : objectName? request graph = fields.lookup "name" := by
        simp [objectName?, found, metadata]
      have yields : (Condition.access .resource "metadata").Yields request graph (.record fields) :=
        Rbac.yields_attr found metadata
      have asked : (Condition.has (.access .resource "metadata") "name").Decides request graph
          (fields.lookup "name").isSome := yields.has rfl
      rw [metadata] at present
      rw [named]
      refine ⟨present.both asked, fun v isName => yields.access ?_⟩
      simp [Value.get, Value.ofAttr, isName]

/-- The condition for the names never fails. -/
theorem decides_namesCondition (names : List String) : ∃ b,
    (namesCondition names).Decides request graph b ∧ (b = true ↔ MatchesName names request graph) := by
  by_cases none : names = []
  · subst none
    exact ⟨true, Condition.decides_empty, iff_of_true rfl (.inl rfl)⟩
  · obtain ⟨present, yields⟩ := decides_metadataCondition isRecord
    have writable : (Rbac.equalsAny nameAccess names).IsWritable :=
      Rbac.isWritable_equalsAny rfl names
    rw [namesCondition_eq none, MatchesName, or_iff_right none]
    cases named : objectName? request graph with
    | none =>
      rw [named] at present
      exact ⟨_, present.guards (y := false) writable (by simp), by simp⟩
    | some v =>
      rw [named] at present
      have among := Rbac.decides_equalsAny_value (yields v named) names
      refine ⟨_, present.both among, ?_⟩
      simp [none, Rbac.string_same]

end

end ClusterPolicy.Admission
