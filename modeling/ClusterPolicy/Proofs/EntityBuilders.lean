import ClusterPolicy.EntityBuilders
import ClusterPolicy.Proofs.Cedar.Graph
import ClusterPolicy.Proofs.SortedMap
import Mathlib.Data.List.Nodup

/-! Graphs of the entities that are built for who asks and for a request. -/

namespace ClusterPolicy.EntityBuilders

open Cedar (Entities Entity EntityUid Value)

/-- Who asks. -/
inductive Asker
  | user (name : String) (groups : List String)
  | serviceAccount (ns name : String) (groups : List String)
  deriving DecidableEq, Repr

namespace Asker

def groups : Asker → List String
  | user _ groups | serviceAccount _ _ groups => groups

def entities : Asker → List Entity
  | user name groups => EntityBuilders.user name groups
  | serviceAccount ns name groups => EntityBuilders.serviceAccount ns name groups

/-- The entity that stands behind its groups. -/
def entity : Asker → Entity
  | user name groups => member EntityType.user name [("name", name)] groups
  | serviceAccount ns name groups =>
    member EntityType.serviceAccount ("system:serviceaccount:" ++ ns ++ ":" ++ name)
      [("name", name), ("namespace", ns)] groups

theorem entities_eq (asker : Asker) : asker.entities = asker.groups.map group ++ [asker.entity] := by
  cases asker <;> rfl

theorem parents_entity (asker : Asker) :
    asker.entity.parents = asker.groups.map fun g => ⟨EntityType.group, g⟩ := by
  cases asker <;> rfl

theorem type_entity (asker : Asker) :
    asker.entity.uid.type = EntityType.user ∨ asker.entity.uid.type = EntityType.serviceAccount := by
  cases asker <;> simp [entity, member]

theorem group_ne_entity (asker : Asker) (name : String) :
    (⟨EntityType.group, name⟩ : EntityUid) ≠ asker.entity.uid := by
  intro same
  have type : EntityType.group = asker.entity.uid.type := congrArg EntityUid.type same
  rcases asker.type_entity with h | h <;> rw [h] at type <;> exact absurd type (by decide)

end Asker

/-- The graph holds all that was built for one who asks. -/
def Asker.KnownTo (asker : Asker) (graph : Entities) : Prop :=
  ∀ e ∈ asker.entities, graph.find? e.uid = some e

namespace Asker.KnownTo

variable {graph : Entities} {asker : Asker}

theorem find?_entity (h : asker.KnownTo graph) : graph.find? asker.entity.uid = some asker.entity :=
  h _ (by simp [asker.entities_eq])

theorem parents_group (h : asker.KnownTo graph) {name : String} (mem : name ∈ asker.groups) :
    graph.parents ⟨EntityType.group, name⟩ = [] := by
  have built : group name ∈ asker.entities := by
    rw [asker.entities_eq]
    exact List.mem_append_left _ (List.mem_map_of_mem mem)
  exact Entities.parents_eq (h _ built)

/-- Of the groups, the asker is a member of its own. -/
theorem reaches_group (h : asker.KnownTo graph) (name : String) :
    graph.reaches asker.entity.uid ⟨EntityType.group, name⟩ = true ↔ name ∈ asker.groups := by
  have parents := (Entities.parents_eq h.find?_entity).trans asker.parents_entity
  have shallow : ∀ parent ∈ graph.parents asker.entity.uid, graph.parents parent = [] := by
    intro parent mem
    rw [parents] at mem
    obtain ⟨g, hg, rfl⟩ := List.mem_map.mp mem
    exact h.parents_group hg
  rw [Entities.reaches_of_shallow shallow, or_iff_right (asker.group_ne_entity name), parents]
  simp

end Asker.KnownTo

/-- The graph holds what was built for a request, and its action is in no group. -/
structure Knows (graph : Entities) (asker : Asker) (target : Entity) (verb : String) : Prop where
  asker : ∀ e ∈ asker.entities, graph.find? e.uid = some e
  target : graph.find? target.uid = some target
  action : graph.parents (EntityBuilders.action verb) = []

namespace Knows

variable {graph : Entities} {asker : Asker} {target : Entity} {verb : String}

/-- An action is a member of nothing but itself. -/
theorem reaches_action (h : Knows graph asker target verb) (group : EntityUid) :
    graph.reaches (EntityBuilders.action verb) group = true ↔ group = EntityBuilders.action verb :=
  Entities.reaches_of_orphan h.action

end Knows

/-! ## The graph of just these entities -/

theorem same_texts {attrs : List (String × String)} (distinct : (attrs.map (·.1)).Nodup) :
    Value.same (.record (texts attrs)) (.record (texts attrs)) = true := by
  have covered : ∀ some : List (String × String), some ⊆ attrs →
      Value.fieldsCovered (texts some) (texts attrs) = true := by
    intro some
    induction some with
    | nil => simp [texts, Value.fieldsCovered]
    | cons field some ih =>
      intro subset
      obtain ⟨mem, subset⟩ := List.cons_subset.mp subset
      have keys : (texts attrs).map (·.1) = attrs.map (·.1) := by simp [texts]
      have found := SortedMap.lookup_of_mem (keys ▸ distinct)
        (List.mem_map_of_mem mem : (field.1, Value.string field.2) ∈ texts attrs)
      have others := ih subset
      simp only [texts, List.map_cons, Value.fieldsCovered] at found others ⊢
      simp [found, others, Value.same]
  simp [Value.same, covered attrs (List.Subset.refl _)]

theorem agrees_texts {uid : EntityUid} {attrs : List (String × String)} {parents : List EntityUid}
    (distinct : (attrs.map (·.1)).Nodup) :
    Entity.agrees ⟨uid, texts attrs, parents⟩ ⟨uid, texts attrs, parents⟩ = true := by
  simp [Entity.agrees, same_texts distinct]

namespace Asker

theorem agrees_entities (asker : Asker) : ∀ e ∈ asker.entities, e.agrees e = true := by
  intro e he
  rw [entities_eq, List.mem_append, List.mem_singleton, List.mem_map] at he
  rcases he with ⟨g, -, rfl⟩ | rfl
  · exact agrees_texts (List.nodup_singleton _)
  · cases asker with
    | user name groups => exact agrees_texts (List.nodup_singleton _)
    | serviceAccount ns name groups => exact agrees_texts (by simp)

theorem type_entities (asker : Asker) : ∀ e ∈ asker.entities, e.uid.type = EntityType.user ∨
    e.uid.type = EntityType.serviceAccount ∨ e.uid.type = EntityType.group := by
  intro e he
  rw [entities_eq, List.mem_append, List.mem_singleton, List.mem_map] at he
  rcases he with ⟨g, -, rfl⟩ | rfl
  · exact .inr (.inr rfl)
  · exact asker.type_entity.imp_right .inl

theorem consistent_entities (asker : Asker) :
    ∀ e ∈ asker.entities, ∀ f ∈ asker.entities, e.uid = f.uid → e = f := by
  intro e he f hf same
  rw [entities_eq, List.mem_append, List.mem_singleton, List.mem_map] at he hf
  rcases he with ⟨g, -, rfl⟩ | rfl
  · rcases hf with ⟨k, -, rfl⟩ | rfl
    · exact congrArg (fun uid : EntityUid => group uid.id) same
    · exact absurd same (asker.group_ne_entity g)
  · rcases hf with ⟨k, -, rfl⟩ | rfl
    · exact absurd same.symm (asker.group_ne_entity k)
    · rfl

end Asker

/-- What is asked for is of another kind than those who ask and the actions. -/
def isTarget (type : String) : Bool :=
  !([EntityType.user, EntityType.serviceAccount, EntityType.group, EntityType.action].contains type)

/-- The entities that were built make a graph that knows them. -/
theorem exists_graph (asker : Asker) {target : Entity} (verb : String)
    (kind : isTarget target.uid.type = true) (agrees : target.agrees target = true)
    (orphan : target.parents = []) :
    ∃ graph, Entities.ofList? (asker.entities ++ [target]) = some graph ∧
      Knows graph asker target verb := by
  simp only [isTarget, Bool.not_eq_true', List.contains_eq_mem, decide_eq_false_iff_not,
    List.mem_cons, List.not_mem_nil, or_false, not_or] at kind
  obtain ⟨notUser, notAccount, notGroup, notAction⟩ := kind
  have other : ∀ e ∈ asker.entities, e.uid ≠ target.uid := by
    intro e he same
    rcases asker.type_entities e he with h | h | h <;> rw [same] at h
    · exact notUser h
    · exact notAccount h
    · exact notGroup h
  have consistent : ∀ e ∈ asker.entities ++ [target], ∀ f ∈ asker.entities ++ [target],
      e.uid = f.uid → e = f := by
    intro e he f hf same
    rw [List.mem_append, List.mem_singleton] at he hf
    rcases he with he | rfl
    · rcases hf with hf | rfl
      · exact asker.consistent_entities e he f hf same
      · exact absurd same (other e he)
    · rcases hf with hf | rfl
      · exact absurd same.symm (other f hf)
      · rfl
  have found := fun e he => Entities.find?_firsts_of_mem consistent (e := e) he
  have knows : Knows (Entities.firsts (asker.entities ++ [target])) asker target verb := by
    refine ⟨fun e he => found e (List.mem_append_left _ he), found target (by simp), ?_⟩
    rw [List.eq_nil_iff_forall_not_mem]
    intro parent mem
    obtain ⟨e, he, same⟩ := Entities.mem_all_of_parents mem
    have type : e.uid.type = EntityType.action := congrArg EntityUid.type same
    rcases List.mem_append.mp (Entities.mem_firsts he) with he | he
    · rcases asker.type_entities e he with h | h | h <;> rw [h] at type <;>
        exact absurd type (by decide)
    · exact notAction (List.mem_singleton.mp he ▸ type)
  refine ⟨_, Entities.ofList?_of_shallow consistent ?_ ?_, knows⟩
  · intro e he
    rcases List.mem_append.mp he with he | he
    · exact asker.agrees_entities e he
    · exact List.mem_singleton.mp he ▸ agrees
  · intro e he parent hp
    rw [asker.entities_eq, List.append_assoc, List.mem_append, List.mem_append, List.mem_singleton,
      List.mem_singleton, List.mem_map] at he
    rcases he with ⟨g, -, rfl⟩ | rfl | rfl
    · simp [group] at hp
    · rw [asker.parents_entity] at hp
      obtain ⟨g, hg, rfl⟩ := List.mem_map.mp hp
      exact ⟨asker.group_ne_entity g, Asker.KnownTo.parents_group knows.asker hg⟩
    · simp [orphan] at hp

/-! ## Attributes of a resource -/

section
variable (attrs : ResourceAttributes)

theorem agrees_resource : (resource attrs).agrees (resource attrs) = true := by
  obtain ⟨apiGroup, name, subresource, ns, n⟩ := attrs
  apply agrees_texts
  cases subresource <;> cases ns <;> cases n <;> simp

theorem lookup_apiGroup :
    (resource attrs).attrs.lookup "apiGroup" = some (.string attrs.apiGroup) := rfl

theorem lookup_resource :
    (resource attrs).attrs.lookup "resource" = some (.string attrs.resource) := rfl

theorem lookup_subresource :
    (resource attrs).attrs.lookup "subresource" = attrs.subresource.map .string := by
  obtain ⟨apiGroup, name, subresource, ns, n⟩ := attrs
  cases subresource <;> cases ns <;> cases n <;> rfl

theorem lookup_namespace :
    (resource attrs).attrs.lookup "namespace" = attrs.namespaceName.map .string := by
  obtain ⟨apiGroup, name, subresource, ns, n⟩ := attrs
  cases subresource <;> cases ns <;> cases n <;> rfl

theorem lookup_name : (resource attrs).attrs.lookup "name" = attrs.name.map .string := by
  obtain ⟨apiGroup, name, subresource, ns, n⟩ := attrs
  cases subresource <;> cases ns <;> cases n <;> rfl

end

/-! ## All that is built -/

/-- What the builders make. -/
inductive Made : Entity → Prop
  | asker (asker : Asker) {e : Entity} (mem : e ∈ asker.entities) : Made e
  | resource (attrs : ResourceAttributes) : Made (EntityBuilders.resource attrs)
  | nonResourceUrl (path : String) : Made (EntityBuilders.nonResourceUrl path)
  | principalUid (uid : String) : Made (EntityBuilders.principalUid uid)
  | extra (key : String) (value : Option String) : Made (EntityBuilders.extra key value)

/-- The types of what the builders make. -/
def madeTypes : List String :=
  [EntityType.user, EntityType.serviceAccount, EntityType.group, EntityType.resource,
    EntityType.nonResourceUrl, EntityType.principalUid, EntityType.extra]

theorem Made.type_mem {e : Entity} (h : Made e) : e.uid.type ∈ madeTypes := by
  cases h with
  | asker asker mem => rcases asker.type_entities e mem with h | h | h <;> simp [h, madeTypes]
  | resource attrs => exact List.mem_of_elem_eq_true rfl
  | nonResourceUrl path => exact List.mem_of_elem_eq_true rfl
  | principalUid uid => exact List.mem_of_elem_eq_true rfl
  | extra key value => cases value <;> exact List.mem_of_elem_eq_true rfl

/-- The attributes of objects are for objects alone. -/
theorem Made.lookup_metadata {e : Entity} (h : Made e) : e.attrs.lookup "metadata" = none := by
  cases h with
  | asker asker mem =>
    rw [asker.entities_eq, List.mem_append, List.mem_singleton, List.mem_map] at mem
    rcases mem with ⟨g, -, rfl⟩ | rfl
    · rfl
    · cases asker <;> rfl
  | resource attrs =>
    obtain ⟨apiGroup, name, subresource, ns, n⟩ := attrs
    cases subresource <;> cases ns <;> cases n <;> rfl
  | nonResourceUrl path => rfl
  | principalUid uid => rfl
  | extra key value => cases value <;> rfl

end ClusterPolicy.EntityBuilders
