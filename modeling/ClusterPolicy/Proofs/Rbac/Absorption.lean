import ClusterPolicy.Proofs.Rbac.Compilation

namespace ClusterPolicy.Rbac

/-! ## Absorbing -/

namespace Compilation

/-- No id is taken in both. -/
def Apart (c d : Compilation) : Prop :=
  ∀ id, c.collection.policies.contains id = true → d.collection.policies.contains id = false

section
variable {c other : Compilation} {p : CompiledPolicy} {refusal : Diagnostic}

theorem diagnostics_place (free : c.collection.policies.contains p.id = false) :
    (c.place refusal p).diagnostics = c.diagnostics := by
  simp [place, PolicyCollection.insert, free]

theorem diagnostics_place_of_taken (taken : c.collection.policies.contains p.id = true) :
    (c.place refusal p).diagnostics = c.diagnostics ++ [refusal] := by
  simp [place, PolicyCollection.insert, taken, skip]

theorem contains_place (id : String) : (c.place refusal p).collection.policies.contains id =
    (c.collection.policies.contains id || decide (p.id = id)) := by
  rw [SortedMap.contains, find?_place, Option.isSome_or]
  split <;> simp_all [SortedMap.contains]

theorem name_place : (c.place refusal p).collection.name = c.collection.name := by
  unfold place PolicyCollection.insert
  split
  · rename_i inserted
    split at inserted
    · cases inserted
    · cases inserted
      rfl
  · rfl

variable {refusal : CompiledPolicy → Diagnostic}

theorem find?_foldl_place (policies : List CompiledPolicy) (c : Compilation) (id : String) :
    (policies.foldl (fun c p => c.place (refusal p) p) c).collection.policies.find? id =
      (c.collection.policies.find? id).or (policies.find? fun p => p.id = id) := by
  induction policies generalizing c with
  | nil => simp
  | cons p policies ih =>
    rw [List.foldl_cons, ih, find?_place, Option.or_assoc, List.find?_cons]
    by_cases own : p.id = id <;> simp [own]

/-- Those whose id is taken at first are reported, in their order. -/
theorem diagnostics_foldl_place {policies : List CompiledPolicy}
    (distinct : (policies.map CompiledPolicy.id).Nodup) (c : Compilation) :
    (policies.foldl (fun c p => c.place (refusal p) p) c).diagnostics = c.diagnostics ++
      (policies.filter fun p => c.collection.policies.contains p.id).map refusal := by
  induction policies generalizing c with
  | nil => simp
  | cons p policies ih =>
    obtain ⟨fresh, distinct⟩ := List.nodup_cons.mp distinct
    -- What `p` does to the collection does not matter to the others, which have other ids.
    have others : policies.filter (fun q => (c.place (refusal p) p).collection.policies.contains q.id) =
        policies.filter fun q => c.collection.policies.contains q.id := by
      refine List.filter_congr fun q mem => ?_
      have other : p.id ≠ q.id := fun same => fresh (same ▸ List.mem_map_of_mem mem)
      rw [contains_place, decide_eq_false other, Bool.or_false]
    rw [List.foldl_cons, ih distinct, others]
    cases taken : c.collection.policies.contains p.id with
    | false => rw [diagnostics_place taken, List.filter_cons_of_neg (by simp [taken])]
    | true =>
      rw [diagnostics_place_of_taken taken, List.filter_cons_of_pos (by simp [taken])]
      simp

/-- The policies of the other come one by one, and then what was reported of it. -/
theorem absorb_eq (c other : Compilation) : c.absorb other =
    let placed := other.collection.policies.values.foldl
      (fun c p => c.place ⟨other.collection.name, 0, 0, .duplicatePolicy p.id⟩ p) c
    { placed with diagnostics := placed.diagnostics ++ other.diagnostics } := rfl

end

section
variable {c other : Compilation}

/-- Of several policies under an id the first stays. -/
theorem find?_absorb (c other : Compilation) (id : String) :
    (c.absorb other).collection.policies.find? id =
      (c.collection.policies.find? id).or (other.collection.policies.find? id) := by
  rw [absorb_eq, ← PolicyCollection.find?_values other.collection]
  exact find?_foldl_place _ c id

theorem name_absorb (c other : Compilation) : (c.absorb other).collection.name = c.collection.name := by
  rw [absorb_eq]
  refine List.foldlRecOn (motive := fun d : Compilation => d.collection.name = c.collection.name) _ _
    rfl ?_
  intro d same p _
  rw [name_place, same]

/-- What is reported of a policy of another collection that is not taken in. -/
def repeated (name : String) (p : CompiledPolicy) : Diagnostic := ⟨name, 0, 0, .duplicatePolicy p.id⟩

/-- Every policy under a taken id is reported, in the order of the ids, before what was reported of
the other. -/
theorem diagnostics_absorb (c other : Compilation) : (c.absorb other).diagnostics =
    c.diagnostics ++ (other.collection.policies.values.filter fun p =>
      c.collection.policies.contains p.id).map (repeated other.collection.name) ++
      other.diagnostics := by
  have placed := @diagnostics_foldl_place (repeated other.collection.name) _ other.collection.nodup_ids c
  rw [absorb_eq]
  exact congrArg (· ++ other.diagnostics) placed

theorem diagnostics_absorb_of_apart (apart : c.Apart other) :
    (c.absorb other).diagnostics = c.diagnostics ++ other.diagnostics := by
  have free : (other.collection.policies.values.filter fun p =>
      c.collection.policies.contains p.id) = [] := by
    refine List.filter_eq_nil_iff.mpr fun p mem taken => ?_
    have there := PolicyCollection.contains_of_mem mem
    rw [apart p.id taken] at there
    cases there
  rw [diagnostics_absorb, free, List.map_nil, List.append_nil]

end

/-! ## Several compilations -/

/-- A compilation that holds what its parts hold, which share no id, and that reports what they report
and no repeated id. -/
structure IsUnion (whole : Compilation) (parts : List Compilation) : Prop where
  apart : parts.Pairwise Apart
  policies : ∀ p, p ∈ whole.collection.policies.values ↔
    ∃ part ∈ parts, p ∈ part.collection.policies.values
  diagnostics : whole.diagnostics = parts.flatMap Compilation.diagnostics
  unrepeated : ∀ d ∈ whole.diagnostics, ∀ id, d.reason ≠ .duplicatePolicy id

theorem find?_foldl_absorb (parts : List Compilation) (c : Compilation) (id : String) :
    (parts.foldl absorb c).collection.policies.find? id = (c.collection.policies.find? id).or
      (parts.findSome? fun part => part.collection.policies.find? id) := by
  induction parts generalizing c with
  | nil => simp
  | cons part parts ih =>
    rw [List.foldl_cons, ih, find?_absorb, Option.or_assoc, List.findSome?_cons]
    cases part.collection.policies.find? id <;> rfl

theorem diagnostics_foldl_absorb {parts : List Compilation} {c : Compilation}
    (apart : (c :: parts).Pairwise Apart) :
    (parts.foldl absorb c).diagnostics = c.diagnostics ++ parts.flatMap Compilation.diagnostics := by
  induction parts generalizing c with
  | nil => simp
  | cons part parts ih =>
    obtain ⟨fromC, others⟩ := List.pairwise_cons.mp apart
    obtain ⟨fromPart, rest⟩ := List.pairwise_cons.mp others
    have next : (c.absorb part :: parts).Pairwise Apart := by
      refine List.pairwise_cons.mpr ⟨fun later mem id taken => ?_, rest⟩
      rw [SortedMap.contains, find?_absorb, Option.isSome_or, Bool.or_eq_true] at taken
      rcases taken with taken | taken
      · exact fromC later (List.mem_cons_of_mem _ mem) id taken
      · exact fromPart later mem id taken
    rw [List.foldl_cons, ih next, diagnostics_absorb_of_apart (fromC part List.mem_cons_self),
      List.append_assoc, List.flatMap_cons]

theorem name_foldl_absorb (parts : List Compilation) (c : Compilation) :
    (parts.foldl absorb c).collection.name = c.collection.name := by
  refine List.foldlRecOn (motive := fun d : Compilation => d.collection.name = c.collection.name)
    parts absorb rfl ?_
  intro d same part _
  rw [name_absorb, same]

/-- No other part has anything under the id, so it does not matter which one is asked first. -/
theorem findSome?_of_apart {parts : List Compilation} (apart : parts.Pairwise Apart)
    {part : Compilation} (mem : part ∈ parts) {id : String} {p : CompiledPolicy}
    (found : part.collection.policies.find? id = some p) :
    (parts.findSome? fun part => part.collection.policies.find? id) = some p := by
  induction parts with
  | nil => cases mem
  | cons first parts ih =>
    obtain ⟨fromFirst, apart⟩ := List.pairwise_cons.mp apart
    rw [List.findSome?_cons]
    rcases List.mem_cons.mp mem with rfl | mem
    · rw [found]
    · have there : part.collection.policies.contains id = true := by
        simp [SortedMap.contains, found]
      have free : first.collection.policies.find? id = none := by
        by_contra taken
        have absent := fromFirst part mem id (Option.isSome_iff_ne_none.mpr taken)
        rw [there] at absent
        cases absent
      rw [free]
      exact ih apart mem

/-- Compilations that share no id are all kept whole. -/
theorem isUnion_foldl_absorb (name : String) {parts : List Compilation} (apart : parts.Pairwise Apart)
    (unrepeated : ∀ part ∈ parts, ∀ d ∈ part.diagnostics, ∀ id, d.reason ≠ .duplicatePolicy id) :
    (parts.foldl absorb (new name)).IsUnion parts := by
  have diagnostics : (parts.foldl absorb (new name)).diagnostics =
      parts.flatMap Compilation.diagnostics :=
    diagnostics_foldl_absorb (List.pairwise_cons.mpr ⟨nofun, apart⟩)
  refine ⟨apart, fun p => ?_, diagnostics, fun d mem => ?_⟩
  · have free : (new name).collection.policies.find? p.id = none := rfl
    simp only [PolicyCollection.mem_values_iff, find?_foldl_absorb, free, Option.none_or]
    exact ⟨List.exists_of_findSome?_eq_some,
      fun ⟨_, mem, found⟩ => findSome?_of_apart apart mem found⟩
  · rw [diagnostics] at mem
    obtain ⟨part, hpart, mem⟩ := List.mem_flatMap.mp mem
    exact unrepeated part hpart d mem

/-- It does not matter in which order the parts come. -/
theorem IsUnion.collection_eq {whole whole' : Compilation} {parts parts' : List Compilation}
    (h : whole.IsUnion parts) (h' : whole'.IsUnion parts') (same : parts.Perm parts')
    (name : whole.collection.name = whole'.collection.name) :
    whole.collection = whole'.collection := by
  refine PolicyCollection.ext_values name fun p => ?_
  rw [h.policies, h'.policies]
  exact exists_congr fun part => and_congr_left' same.mem_iff

/-- The order in which compilations are absorbed only orders the diagnostics. -/
theorem IsUnion.diagnostics_perm {whole whole' : Compilation} {parts parts' : List Compilation}
    (h : whole.IsUnion parts) (h' : whole'.IsUnion parts') (same : parts.Perm parts') :
    whole.diagnostics.Perm whole'.diagnostics := by
  rw [h.diagnostics, h'.diagnostics]
  exact same.flatMap_right _

end Compilation

end ClusterPolicy.Rbac
