import ClusterPolicy.Manifest.Reading
import ClusterPolicy.Proofs.SortedMap

/-! The leaves of documents, and what is added for them in whatever lists they stand. -/

namespace ClusterPolicy

namespace Manifest

/-! ## Leaves -/

/-- The items of a list, of which there are none unless they come in a sequence. -/
def listed (node : Yaml) : List Yaml := ((node.get? "items").bind Yaml.items?).getD []

mutual

/-- A document holds leaves in this order, which are neither null nor lists. -/
inductive Flattens : Yaml → List Yaml → Prop
  | null {node : Yaml} (null : node.isNull = true) : Flattens node []
  | leaf {node : Yaml} (full : node.isNull = false) (single : kind? node ≠ some "List") :
      Flattens node [node]
  | list {node : Yaml} {leaves : List Yaml} (kind : kind? node = some "List")
      (each : FlattenAll (listed node) leaves) : Flattens node leaves

inductive FlattenAll : List Yaml → List Yaml → Prop
  | nil : FlattenAll [] []
  | cons {node : Yaml} {rest leaves more : List Yaml} (first : Flattens node leaves)
      (others : FlattenAll rest more) : FlattenAll (node :: rest) (leaves ++ more)

end

mutual

theorem exists_flattens : (node : Yaml) → ∃ leaves, Flattens node leaves
  | .mapping entries => by
    by_cases kind : kind? (.mapping entries) = some "List"
    · obtain ⟨leaves, each⟩ := exists_flattenAll_entries entries
      exact ⟨leaves, .list kind each⟩
    · exact ⟨_, .leaf rfl kind⟩
  | .sequence items => ⟨_, .leaf rfl nofun⟩
  | .scalar text plain => by
    cases null : (Yaml.scalar text plain).isNull
    · exact ⟨_, .leaf null nofun⟩
    · exact ⟨_, .null null⟩

theorem exists_flattenAll_entries : (entries : List (String × Yaml)) →
    ∃ leaves, FlattenAll (((entries.lookup "items").bind Yaml.items?).getD []) leaves
  | [] => ⟨_, .nil⟩
  | (key, node) :: rest => by
    rw [SortedMap.lookup_cons_ite]
    by_cases own : "items" = key
    · rw [if_pos own]
      cases node with
      | sequence items => exact exists_flattenAll items
      | scalar | mapping => exact ⟨_, .nil⟩
    · rw [if_neg own]
      exact exists_flattenAll_entries rest

theorem exists_flattenAll : (nodes : List Yaml) → ∃ leaves, FlattenAll nodes leaves
  | [] => ⟨_, .nil⟩
  | node :: rest => by
    obtain ⟨leaves, first⟩ := exists_flattens node
    obtain ⟨more, others⟩ := exists_flattenAll rest
    exact ⟨_, .cons first others⟩

end

mutual

theorem Flattens.single {node : Yaml} {leaves : List Yaml} :
    Flattens node leaves → ∀ leaf ∈ leaves, leaf.isNull = false ∧ kind? leaf ≠ some "List"
  | .null _ => nofun
  | .leaf full single => List.forall_mem_singleton.mpr ⟨full, single⟩
  | .list _ each => each.single

theorem FlattenAll.single {nodes leaves : List Yaml} :
    FlattenAll nodes leaves → ∀ leaf ∈ leaves, leaf.isNull = false ∧ kind? leaf ≠ some "List"
  | .nil => nofun
  | .cons first others => List.forall_mem_append.mpr ⟨first.single, others.single⟩

end

/-- Leaves that stand in no list. -/
theorem flattenAll_self {leaves : List Yaml}
    (single : ∀ leaf ∈ leaves, leaf.isNull = false ∧ kind? leaf ≠ some "List") :
    FlattenAll leaves leaves := by
  induction leaves with
  | nil => exact .nil
  | cons leaf leaves ih =>
    obtain ⟨⟨full, alone⟩, others⟩ := List.forall_mem_cons.mp single
    exact .cons (.leaf full alone) (ih others)

/-! ## What is read of a leaf -/

/-- The kinds of which something is kept. -/
def keptKinds : List String :=
  ["ClusterRole", "Role", "ClusterRoleBinding", "RoleBinding", "ValidatingAdmissionPolicy"]

/-- What the reader of a kind makes of a leaf, and what is kept of it. -/
inductive Reads (readers : Readers) (leaf : Yaml) : String → Except String ClusterObject → Prop
  | clusterRole : Reads readers leaf "ClusterRole"
      ((readers.clusterRole leaf).map fun role => .role (role.toRole "ClusterRole" false))
  | role : Reads readers leaf "Role" ((readers.role leaf).map fun role => .role (role.toRole "Role" true))
  | clusterRoleBinding : Reads readers leaf "ClusterRoleBinding"
      ((readers.clusterRoleBinding leaf).map fun binding => .binding (binding.toBinding .clusterRoleBinding))
  | roleBinding : Reads readers leaf "RoleBinding"
      ((readers.roleBinding leaf).map fun binding => .binding (binding.toBinding .roleBinding))
  | admissionPolicy : Reads readers leaf "ValidatingAdmissionPolicy"
      ((readers.admissionPolicy leaf).map fun policy => .admissionPolicy policy.toPolicy)

/-- A leaf has a kind, and if something is kept of that, its reader takes the leaf. -/
def Fits (readers : Readers) (leaf : Yaml) : Prop :=
  ∃ kind, kind? leaf = some kind ∧ (kind ∈ keptKinds → ∃ object, Reads readers leaf kind (.ok object))

/-- What is wrong with a leaf. -/
inductive Ails (readers : Readers) (leaf : Yaml) : Problem → Prop
  | noKind (missing : kind? leaf = none) : Ails readers leaf .noKind
  | misfit {kind message : String} (known : kind? leaf = some kind)
      (refused : Reads readers leaf kind (.error message)) : Ails readers leaf (.misfit kind message)

/-- The objects of leaves, in order. Leaves of other kinds are passed over. -/
inductive Keeps (readers : Readers) : List Yaml → List ClusterObject → Prop
  | nil : Keeps readers [] []
  | kept {leaf : Yaml} {kind : String} {object : ClusterObject} {leaves : List Yaml}
      {objects : List ClusterObject} (known : kind? leaf = some kind)
      (taken : Reads readers leaf kind (.ok object)) (others : Keeps readers leaves objects) :
      Keeps readers (leaf :: leaves) (object :: objects)
  | passed {leaf : Yaml} {kind : String} {leaves : List Yaml} {objects : List ClusterObject}
      (known : kind? leaf = some kind) (other : kind ∉ keptKinds)
      (others : Keeps readers leaves objects) : Keeps readers (leaf :: leaves) objects

variable {readers : Readers} {leaf : Yaml} {kind : String}

theorem reads_iff {result : Except String ClusterObject} : Reads readers leaf kind result ↔
    ∃ reader, readers.kinds.lookup kind = some reader ∧ reader leaf = result := by
  constructor
  · intro reads
    cases reads <;> exact ⟨_, rfl, rfl⟩
  · rintro ⟨reader, found, rfl⟩
    simp only [Readers.kinds, SortedMap.lookup_cons_ite, List.lookup_nil] at found
    split_ifs at found with own own own own own
    all_goals
      subst own
      cases found
      constructor

theorem Reads.mem_keptKinds {result : Except String ClusterObject}
    (reads : Reads readers leaf kind result) : kind ∈ keptKinds := by
  cases reads <;> decide

theorem lookup_kinds_eq_none_iff : readers.kinds.lookup kind = none ↔ kind ∉ keptKinds := by
  have keys : keptKinds = readers.kinds.map (·.1) := rfl
  simp only [keys, List.lookup_eq_none_iff, List.mem_map, bne_iff_ne, not_exists, not_and]
  exact forall₂_congr fun entry _ => ne_comm

theorem read_of_reads {result : Except String ClusterObject} (known : kind? leaf = some kind)
    (reads : Reads readers leaf kind result) :
    read readers leaf = (result.map some).mapError (.misfit kind) := by
  obtain ⟨reader, found, rfl⟩ := reads_iff.mp reads
  simp only [read, known, found]

theorem read_of_notMem (known : kind? leaf = some kind) (other : kind ∉ keptKinds) :
    read readers leaf = .ok none := by
  simp only [read, known, lookup_kinds_eq_none_iff.mpr other]

theorem read_of_ails {problem : Problem} (ails : Ails readers leaf problem) :
    read readers leaf = .error problem := by
  cases ails with
  | noKind missing => simp only [read, missing]
  | misfit known refused => exact read_of_reads known refused

theorem exists_reads (readers : Readers) (leaf : Yaml) (kept : kind ∈ keptKinds) :
    ∃ result, Reads readers leaf kind result := by
  cases found : readers.kinds.lookup kind with
  | none => exact absurd kept (lookup_kinds_eq_none_iff.mp found)
  | some reader => exact ⟨_, reads_iff.mpr ⟨reader, found, rfl⟩⟩

theorem Ails.not_fits {problem : Problem} (ails : Ails readers leaf problem) : ¬Fits readers leaf := by
  rintro ⟨kind, known, typed⟩
  cases ails with
  | noKind missing => cases known.symm.trans missing
  | misfit other refused =>
    cases known.symm.trans other
    obtain ⟨object, taken⟩ := typed refused.mem_keptKinds
    cases (read_of_reads known taken).symm.trans (read_of_reads known refused)

theorem exists_ails (unfit : ¬Fits readers leaf) : ∃ problem, Ails readers leaf problem := by
  cases known : kind? leaf with
  | none => exact ⟨.noKind, .noKind known⟩
  | some kind =>
    by_cases kept : kind ∈ keptKinds
    · obtain ⟨result, reads⟩ := exists_reads readers leaf kept
      cases result with
      | error message => exact ⟨.misfit kind message, .misfit known reads⟩
      | ok object => exact absurd ⟨kind, known, fun _ => ⟨object, reads⟩⟩ unfit
    · exact absurd ⟨kind, known, fun isKept => absurd isKept kept⟩ unfit

theorem exists_keeps {leaves : List Yaml} (fits : ∀ leaf ∈ leaves, Fits readers leaf) :
    ∃ objects, Keeps readers leaves objects := by
  induction leaves with
  | nil => exact ⟨[], .nil⟩
  | cons leaf leaves ih =>
    obtain ⟨⟨kind, known, typed⟩, each⟩ := List.forall_mem_cons.mp fits
    obtain ⟨objects, others⟩ := ih each
    by_cases kept : kind ∈ keptKinds
    · obtain ⟨object, taken⟩ := typed kept
      exact ⟨object :: objects, .kept known taken others⟩
    · exact ⟨objects, .passed known kept others⟩

namespace ClusterObject

def role? : ClusterObject → Option Rbac.Role
  | .role r => some r
  | _ => none

def binding? : ClusterObject → Option Rbac.Binding
  | .binding b => some b
  | _ => none

def admissionPolicy? : ClusterObject → Option Admission.Policy
  | .admissionPolicy p => some p
  | _ => none

end ClusterObject

end Manifest

namespace Manifests

open Manifest

variable {readers : Readers}

/-- Each kind of object in the order in which the objects come. -/
def ofObjects (objects : List ClusterObject) : Manifests :=
  ⟨objects.filterMap ClusterObject.role?, objects.filterMap ClusterObject.binding?,
    objects.filterMap ClusterObject.admissionPolicy?⟩

theorem ofObjects_concat (objects : List ClusterObject) (object : ClusterObject) :
    ofObjects (objects ++ [object]) = (ofObjects objects).add object := by
  cases object <;>
    simp [ofObjects, add, ClusterObject.role?, ClusterObject.binding?, ClusterObject.admissionPolicy?,
      List.filterMap_cons]

theorem foldl_add_ofObjects (before objects : List ClusterObject) :
    objects.foldl add (ofObjects before) = ofObjects (before ++ objects) := by
  induction objects generalizing before with
  | nil => rw [List.append_nil]; rfl
  | cons object objects ih => rw [List.foldl_cons, ← ofObjects_concat, ih, List.append_assoc]; rfl

/-! ## What is added for a document -/

theorem addItems_cons (key : String) (node : Yaml) (rest : List (String × Yaml)) :
    addItems readers ((key, node) :: rest) =
      if key = "items" then addValues readers (node.items?.getD []) else addItems readers rest := by
  cases node <;> simp [addItems, addValues, Yaml.items?]

theorem addItems_eq (entries : List (String × Yaml)) :
    addItems readers entries = addValues readers (((entries.lookup "items").bind Yaml.items?).getD []) := by
  induction entries with
  | nil => rfl
  | cons entry rest ih =>
    obtain ⟨key, node⟩ := entry
    rw [addItems_cons, SortedMap.lookup_cons_ite, ih]
    by_cases own : key = "items"
    · rw [if_pos own, if_pos own.symm, Option.bind_some]
    · rw [if_neg own, if_neg (Ne.symm own)]

theorem addValue_of_isNull {node : Yaml} (null : node.isNull = true) : addValue readers node = pure () := by
  cases node with
  | scalar => simp [addValue, null]
  | sequence => cases null
  | mapping => cases null

theorem addValue_of_single {node : Yaml} (full : node.isNull = false) (single : kind? node ≠ some "List") :
    addValue readers node = addObject readers node := by
  cases node with
  | scalar => simp [addValue, full]
  | sequence => rfl
  | mapping => simp [addValue, single]

theorem addValue_of_list {node : Yaml} (kind : kind? node = some "List") :
    addValue readers node = addValues readers (listed node) := by
  cases node with
  | scalar => cases kind
  | sequence => cases kind
  | mapping entries => rw [addValue, if_pos kind, addItems_eq]; rfl

mutual

/-- A document adds the objects of its leaves one by one. -/
theorem addValue_of_flattens {node : Yaml} {leaves : List Yaml} :
    Flattens node leaves → addValue readers node = leaves.forM (addObject readers)
  | .null null => addValue_of_isNull null
  | .leaf full single => (addValue_of_single full single).trans (bind_pure_unit).symm
  | .list kind each => (addValue_of_list kind).trans (addValues_of_flattenAll each)

theorem addValues_of_flattenAll {nodes leaves : List Yaml} :
    FlattenAll nodes leaves → addValues readers nodes = leaves.forM (addObject readers)
  | .nil => rfl
  | .cons first others => by
    rw [addValues, addValue_of_flattens first, addValues_of_flattenAll others]
    simp only [List.forM_eq_forM, List.forM_append]

end

theorem addValues_eq (nodes : List Yaml) : addValues readers nodes = nodes.forM (addValue readers) := by
  induction nodes with
  | nil => rfl
  | cons node rest ih => rw [addValues, ih]; rfl

end Manifests

namespace Manifest

/-- The reader delivers these documents of a text. -/
def Delivers (readers : Readers) (text : String) (documents : List Yaml) : Prop :=
  readers.documents text = documents.map .ok

theorem delivers_standard {text : String} {documents : List Yaml}
    (read : Yaml.documents text = documents.map some)
    (distinct : documents.all Yaml.hasDistinctKeys = true) : Delivers .standard text documents := by
  change readDocuments text = _
  rw [readDocuments, read, List.map_map]
  apply List.map_congr_left
  intro document mem
  simp only [Function.comp_apply, List.all_eq_true.mp distinct document mem, if_true]

end Manifest

theorem Manifests.addText_of_flattenAll {readers : Manifest.Readers} {text : String}
    {documents leaves : List Yaml} (delivers : Manifest.Delivers readers text documents)
    (flatten : Manifest.FlattenAll documents leaves) :
    addText readers text = leaves.forM (addObject readers) := by
  rw [← addValues_of_flattenAll flatten, addValues_eq, addText, delivers]
  simp only [List.forM_eq_forM, List.forM_map]

end ClusterPolicy
