import ClusterPolicy.Proofs.Condition.Evaluation
import ClusterPolicy.Proofs.EntityBuilders
import ClusterPolicy.Proofs.Rbac.Rule
import ClusterPolicy.Rbac.Match

namespace ClusterPolicy.Rbac

open Cedar (Entities Entity Request Value)
open Condition (both either)
open EntityBuilders (ResourceAttributes)

section
variable {request : Request} {entities : Entities}

/-! ## Values -/

section
variable {value : Condition} {names : List String} {s : String}

theorem isProper_strings (items : List String) : (Condition.strings items).isProper = true := by
  rw [Condition.strings, Condition.isProper, Condition.itemsAreProper_iff]
  exact List.forall_mem_map.mpr fun _ _ => rfl

theorem isProper_equalsAny (proper : value.isProper = true) (nonempty : names ≠ []) :
    (equalsAny value names).isProper = true := by
  unfold equalsAny
  split
  · exact absurd rfl nonempty
  · simp [Condition.equal, Condition.isProper, proper]
  · simp [Condition.contains, Condition.isProper, proper, isProper_strings]

theorem isWritable_equalsAny (proper : value.isProper = true) (names : List String) :
    (equalsAny value names).IsWritable := by
  by_cases none : names = []
  · exact .inl (by rw [none]; rfl)
  · exact .inr (isProper_equalsAny proper none)

theorem same_string {v : Value} {s : String} : v.same (.string s) = true ↔ v = .string s := by
  cases v <;> simp [Value.same]

theorem string_same {v : Value} {s : String} : (Value.string s).same v = true ↔ v = .string s := by
  cases v with
  | string t =>
    simp only [Value.same, beq_iff_eq, Value.string.injEq]
    exact eq_comm
  | _ => simp [Value.same]

/-- A value of any kind is among the strings that it is the same as. -/
theorem decides_equalsAny_value {v : Value} (h : value.Yields request entities v) (names : List String) :
    (equalsAny value names).Decides request entities
      (names.isEmpty || names.any fun n => (Value.string n).same v) := by
  match names with
  | [] => exact Condition.decides_empty
  | [one] =>
    have same : v.same (.string one) = (Value.string one).same v := by
      rw [Bool.eq_iff_iff, same_string, string_same]
    simpa [equalsAny, same] using h.equal (Condition.yields_string one)
  | one :: two :: more =>
    have strings : (Condition.strings (one :: two :: more)).Yields request entities _ :=
      Condition.yields_strings _
    have among : Cedar.Operator.apply entities .contains
        (.set ((one :: two :: more).map .string)) v =
          .ok (.bool ((one :: two :: more).any fun n => (Value.string n).same v)) := by
      rw [← Function.comp_def (fun item : Value => item.same v) Value.string, ← List.any_map]
      rfl
    exact (strings.binary h among).decides

/-- A value is asked to be one of some names, and without any names every value will do. -/
theorem decides_equalsAny (h : value.Yields request entities (.string s)) (names : List String) :
    (equalsAny value names).Decides request entities (names.isEmpty || names.contains s) := by
  have among : (names.any fun n => (Value.string n).same (.string s)) = names.contains s := by
    rw [Bool.eq_iff_iff]
    simp [Value.same]
  rw [← among]
  exact decides_equalsAny_value h names

end

/-! ## Attributes of the resource -/

theorem isWritable_presentAndAny (name : String) (values : List String) :
    (presentAndAny name values).IsWritable := by
  unfold presentAndAny
  split
  · exact .inl rfl
  · exact .both (.inr rfl) (isWritable_equalsAny rfl values)

section
variable {e : Entity} (found : entities.find? request.resource = some e) {name : String}
include found

theorem yields_attr {v : Value} (h : e.attrs.lookup name = some v) :
    (attr name).Yields request entities v := by
  apply (Condition.yields_var .resource).access
  simp [Request.value, Value.get, found, Value.ofAttr, h]

theorem decides_hasAttr (name : String) :
    (Condition.has .resource name).Decides request entities (e.attrs.lookup name).isSome := by
  apply (Condition.yields_var .resource).has
  simp [Request.value, Value.hasAttr, found]

theorem decides_presentAndAny {value : Option String} (h : e.attrs.lookup name = value.map .string)
    (names : List String) : (presentAndAny name names).Decides request entities
      (names.isEmpty || value.any names.contains) := by
  unfold presentAndAny
  split
  · rename_i none
    rw [none]
    exact Condition.decides_empty
  · rename_i notEmpty
    have nonempty : names.isEmpty = false := by simpa using notEmpty
    have present := decides_hasAttr found name
    rw [h, Option.isSome_map] at present
    have writable : (equalsAny (attr name) names).IsWritable :=
      .inr (isProper_equalsAny rfl (by simpa using notEmpty))
    rw [nonempty, Bool.false_or]
    cases value with
    | none => exact present.guards (y := false) writable nofun
    | some s =>
      have among := decides_equalsAny (yields_attr found h) names
      rw [nonempty, Bool.false_or] at among
      exact present.both among

end

/-! ## Resources -/

theorem splitSlash_eq_none {resource : String} :
    splitSlash resource = none ↔ '/' ∉ resource.toList := by
  simp [splitSlash, Text.cut?_eq_none_iff]

theorem eq_of_splitSlash {resource parent child : String}
    (h : splitSlash resource = some (parent, child)) :
    resource = parent ++ "/" ++ child ∧ '/' ∉ parent.toList := by
  obtain ⟨⟨before, after⟩, cut, halves⟩ := Option.map_eq_some_iff.mp h
  simp only [Prod.mk.injEq] at halves
  obtain ⟨rfl, rfl⟩ := halves
  obtain ⟨whole, absent⟩ := Text.eq_of_cut? cut
  refine ⟨String.toList_injective ?_, by simpa using absent⟩
  simp [whole]

theorem splitSlash_append {parent : String} (absent : '/' ∉ parent.toList) (child : String) :
    splitSlash (parent ++ "/" ++ child) = some (parent, child) := by
  have cut := Text.cut?_append absent child.toList
  have whole : (parent ++ "/" ++ child).toList = parent.toList ++ '/' :: child.toList := by simp
  simp [splitSlash, whole, cut]

theorem hasSlash_eq (resource : String) : hasSlash resource = (splitSlash resource).isSome := by
  rw [Bool.eq_iff_iff, ← not_iff_not, Bool.not_eq_true, Bool.not_eq_true, Option.isSome_eq_false_iff,
    Option.isNone_iff_eq_none, splitSlash_eq_none]
  simp [hasSlash]

theorem isWritable_apiGroupsCondition (groups : List String) :
    (apiGroupsCondition groups).IsWritable := by
  unfold apiGroupsCondition
  split
  · exact .inl rfl
  · exact isWritable_equalsAny rfl groups

theorem isWritable_namespaceCondition (ns : Option String) : (namespaceCondition ns).IsWritable := by
  cases ns with
  | none => exact .inl rfl
  | some ns => exact isWritable_presentAndAny "namespace" [ns]

theorem isWritable_urlsCondition (urls : List String) : (urlsCondition urls).IsWritable := by
  unfold urlsCondition
  simp only
  split
  · exact .inl rfl
  · exact .either (.anyOf fun _ _ => .inr rfl) (isWritable_equalsAny rfl _)

/-- What the entry `parent/child` asks of the resource. -/
def parentCondition (parent : String) : Condition :=
  if parent = "*" then .empty else .equal (attr "resource") (.string parent)

/-- And of its subresource, if it has one. -/
def childCondition (child : String) : Condition :=
  if child = "*" then .binary .notEqual (attr "subresource") (.string "")
  else .equal (attr "subresource") (.string child)

theorem resourceCondition_eq {resource : String} (other : resource ≠ "*") :
    resourceCondition resource = match splitSlash resource with
      | none => .equal (attr "resource") (.string resource)
      | some (parent, child) =>
        both (both (parentCondition parent) (.has .resource "subresource")) (childCondition child) := by
  rw [resourceCondition, if_neg other]
  cases splitSlash resource with
  | none => rfl
  | some halves => simp [parentCondition, childCondition, Condition.all]

theorem isWritable_parentCondition (parent : String) : (parentCondition parent).IsWritable := by
  unfold parentCondition
  split
  · exact .inl rfl
  · exact .inr rfl

theorem isProper_childCondition (child : String) : (childCondition child).isProper = true := by
  unfold childCondition
  split <;> rfl

theorem isProper_resourceCondition {resource : String} (other : resource ≠ "*") :
    (resourceCondition resource).isProper = true := by
  rw [resourceCondition_eq other]
  split
  · rfl
  · rename_i parent child _
    refine Condition.isProper_both ?_ (isProper_childCondition child)
    rcases isWritable_parentCondition parent with none | proper
    · rw [none]
      rfl
    · exact Condition.isProper_both proper rfl

theorem isWritable_resourceCondition (resource : String) : (resourceCondition resource).IsWritable := by
  by_cases wild : resource = "*"
  · exact .inl (by rw [wild]; rfl)
  · exact .inr (isProper_resourceCondition wild)

theorem isWritable_resourcesCondition (resources : List String) :
    (resourcesCondition resources).IsWritable := by
  unfold resourcesCondition
  split
  · exact isWritable_resourceCondition _
  · refine .either ?_ (.anyOf fun r _ => isWritable_resourceCondition r)
    have named : ∀ names, (equalsAny (attr "resource") names).IsWritable :=
      isWritable_equalsAny rfl
    split
    · exact named _
    · exact (named _).both (.inr rfl)

def parentAnswer (attrs : ResourceAttributes) (parent : String) : Bool :=
  parent == "*" || attrs.resource == parent

def childAnswer (child s : String) : Bool := if child = "*" then s != "" else s == child

/-- The answer of an entry's condition. -/
def entryAnswer (attrs : ResourceAttributes) (resource : String) : Bool :=
  match splitSlash resource with
  | none => attrs.resource == resource
  | some (parent, child) => parentAnswer attrs parent && attrs.subresource.any (childAnswer child)

section
variable {attrs : ResourceAttributes}
  (found : entities.find? request.resource = some (EntityBuilders.resource attrs))
include found

theorem decides_hasSubresource : (Condition.has .resource "subresource").Decides request entities
    attrs.subresource.isSome := by
  simpa [EntityBuilders.lookup_subresource] using decides_hasAttr found "subresource"

theorem decides_noSubresource :
    noSubresource.Decides request entities attrs.subresource.isNone := by
  have absent := (decides_hasSubresource found).not
  rwa [Option.not_isSome] at absent

theorem decides_parentCondition (parent : String) :
    (parentCondition parent).Decides request entities (parentAnswer attrs parent) := by
  have name := yields_attr found (EntityBuilders.lookup_resource attrs)
  by_cases any : parent = "*"
  · simpa [parentCondition, parentAnswer, any] using Condition.decides_empty
  · simpa [parentCondition, parentAnswer, any, beq_false_of_ne any] using name.equalString parent

theorem decides_childCondition {s : String} (child : String) (h : attrs.subresource = some s) :
    (childCondition child).Decides request entities (childAnswer child s) := by
  have sub : (attr "subresource").Yields request entities (.string s) :=
    yields_attr found (by rw [EntityBuilders.lookup_subresource, h]; rfl)
  by_cases any : child = "*"
  · have different : (Condition.binary .notEqual (attr "subresource") (.string "")).Decides request
        entities !(Value.string s).same (.string "") :=
      (sub.binary (Condition.yields_string "") rfl).decides
    simpa [childCondition, childAnswer, any, Value.same, bne] using different
  · simpa [childCondition, childAnswer, any] using sub.equalString child

/-- One entry asks for its resource, and for its subresource if there is one. -/
theorem decides_resourceCondition {resource : String} (other : resource ≠ "*") :
    (resourceCondition resource).Decides request entities (entryAnswer attrs resource) := by
  rw [resourceCondition_eq other]
  cases split : splitSlash resource with
  | none =>
    have name := yields_attr found (EntityBuilders.lookup_resource attrs)
    simpa [entryAnswer, split] using name.equalString resource
  | some halves =>
    obtain ⟨parent, child⟩ := halves
    have named := (decides_parentCondition found parent).both (decides_hasSubresource found)
    have writable : (childCondition child).IsWritable := .inr (isProper_childCondition child)
    simp only [entryAnswer, split]
    cases sub : attrs.subresource with
    | none =>
      rw [sub, Option.isSome_none, Bool.and_false] at named
      simpa using named.guards (y := false) writable nofun
    | some s =>
      rw [sub, Option.isSome_some, Bool.and_true] at named
      simpa using named.both (decides_childCondition found child sub)

theorem decides_children {resources : List String} (nonempty : resources ≠ [])
    (other : ∀ r ∈ resources, r ≠ "*") :
    (Condition.any (resources.map resourceCondition)).Decides request entities
      (resources.any (entryAnswer attrs)) :=
  Condition.Decides.any (fun r hr => isProper_resourceCondition (other r hr))
    (fun r hr => decides_resourceCondition found (other r hr)) nonempty

theorem decides_plain {resources : List String} (nonempty : resources ≠ [])
    (plain : ∀ r ∈ resources, hasSlash r = false) :
    (equalsAny (attr "resource") resources).Decides request entities
      (resources.any (entryAnswer attrs)) := by
  have named := decides_equalsAny (yields_attr found (EntityBuilders.lookup_resource attrs)) resources
  have each : ∀ r ∈ resources, entryAnswer attrs r = (attrs.resource == r) := by
    intro r hr
    have unsplit := plain r hr
    rw [hasSlash_eq, Option.isSome_eq_false_iff, Option.isNone_iff_eq_none] at unsplit
    simp [entryAnswer, unsplit]
  have whole : (resources.isEmpty || resources.contains attrs.resource) =
      resources.any (entryAnswer attrs) := by
    rw [List.isEmpty_eq_false_iff.mpr nonempty, Bool.false_or, List.contains_eq_any_beq,
      Bool.eq_iff_iff, List.any_eq_true, List.any_eq_true]
    exact exists_congr fun r => and_congr_right fun hr => by rw [each r hr]
  rwa [whole] at named

/-- Beside subresources, a plain entry stands for itself alone. -/
theorem decides_lists {plain withChild : List String} (nonempty : plain ≠ [] ∨ withChild ≠ [])
    (isPlain : ∀ r ∈ plain, hasSlash r = false) (other : ∀ r ∈ withChild, r ≠ "*") :
    (either (if plain.isEmpty || withChild.isEmpty then equalsAny (attr "resource") plain
        else both (equalsAny (attr "resource") plain) noSubresource)
      (.any (withChild.map resourceCondition))).Decides request entities
      ((plain.any (entryAnswer attrs) && (attrs.subresource.isNone || withChild.isEmpty)) ||
        withChild.any (entryAnswer attrs)) := by
  by_cases noChild : withChild = []
  · subst noChild
    have somePlain : plain ≠ [] := nonempty.resolve_right (absurd rfl)
    simpa [Condition.any] using decides_plain found somePlain isPlain
  · have children := decides_children found noChild other
    have properChildren : (Condition.any (withChild.map resourceCondition)).isProper = true :=
      Condition.isProper_any noChild fun r hr => isProper_resourceCondition (other r hr)
    by_cases noPlain : plain = []
    · subst noPlain
      simpa [equalsAny] using children
    · have named := (decides_plain found noPlain isPlain).both (decides_noSubresource found)
      have properNamed : (both (equalsAny (attr "resource") plain) noSubresource).isProper = true :=
        Condition.isProper_both (isProper_equalsAny rfl noPlain) rfl
      have mixed : (plain.isEmpty || withChild.isEmpty) = false := by simp [noChild, noPlain]
      have someChild : withChild.isEmpty = false := by simp [noChild]
      rw [if_neg (by simp [mixed]), someChild, Bool.or_false]
      exact named.either children properNamed properChildren

/-- Entries without a subresource ask that there be none only where they stand beside entries with one.
-/
theorem decides_resourcesCondition {resources : List String} (nonempty : resources ≠ [])
    (wild : "*" ∉ resources) : (resourcesCondition resources).Decides request entities
      (((resources.filter (!hasSlash ·)).any (entryAnswer attrs) &&
          (attrs.subresource.isNone || (resources.filter hasSlash).isEmpty)) ||
        (resources.filter hasSlash).any (entryAnswer attrs)) := by
  have other : ∀ r ∈ resources, r ≠ "*" := fun r hr same => wild (same ▸ hr)
  unfold resourcesCondition
  split
  · rename_i one
    have answered := decides_resourceCondition found (other one List.mem_cons_self)
    cases h : hasSlash one <;> simpa [h] using answered
  · rename_i many
    refine decides_lists found ?_ (by simp) fun r hr => other r (List.mem_filter.mp hr).1
    by_contra none
    push Not at none
    obtain ⟨r, hr⟩ := List.exists_mem_of_ne_nil _ nonempty
    cases h : hasSlash r with
    | true => exact absurd (List.mem_filter.mpr ⟨hr, h⟩) (none.2 ▸ List.not_mem_nil)
    | false => exact absurd (List.mem_filter.mpr ⟨hr, by simp [h]⟩) (none.1 ▸ List.not_mem_nil)

end

end

end ClusterPolicy.Rbac
