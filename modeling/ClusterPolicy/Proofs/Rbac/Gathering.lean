import ClusterPolicy.Proofs.Collection.Merging
import ClusterPolicy.Proofs.Rbac.Absorption
import ClusterPolicy.Proofs.Text.Utf8

/-! How policies are gathered, one change after another. A change that is refused does nothing. -/

namespace ClusterPolicy

/-! ## Policies added to a collection -/

/-- The policies come to what there is, and under an id that is taken they are passed over. -/
structure PolicyCollection.Adds (c d : PolicyCollection) (policies : List CompiledPolicy) : Prop where
  name : d.name = c.name
  holds : ∀ id, d.policies.find? id =
    (c.policies.find? id).or (policies.find? fun p => p.id = id)

namespace PolicyCollection

variable {c d e : PolicyCollection} {p : CompiledPolicy} {ps qs : List CompiledPolicy}

theorem adds_nil (c : PolicyCollection) : c.Adds c [] := ⟨rfl, by simp⟩

theorem Adds.append (first : c.Adds d ps) (second : d.Adds e qs) : c.Adds e (ps ++ qs) where
  name := second.name.trans first.name
  holds id := by rw [second.holds, first.holds, List.find?_append, Option.or_assoc]

theorem Adds.keeps (h : c.Adds d ps) {id : String} (there : c.policies.find? id = some p) :
    d.policies.find? id = some p := by
  rw [h.holds, there, Option.some_or]

theorem adds_insert (free : c.policies.contains p.id = false) : ∃ d, c.insert p = .ok d ∧ c.Adds d [p] := by
  have inserted : ∃ d, c.insert p = .ok d ∧ d.name = c.name ∧ d.policies = c.policies.insert p.id p := by
    unfold insert
    rw [if_neg (Bool.eq_false_iff.mp free)]
    exact ⟨_, rfl, rfl, rfl⟩
  obtain ⟨d, isInserted, name, policies⟩ := inserted
  refine ⟨d, isInserted, name, fun id => ?_⟩
  rw [policies, SortedMap.find?_insert, List.find?_singleton]
  by_cases own : id = p.id
  · subst own
    have none : c.policies.find? p.id = none := by simpa [SortedMap.contains] using free
    simp [none]
  · simp [own, Ne.symm own]

theorem insert_of_taken (taken : c.policies.contains p.id = true) :
    c.insert p = .error (.duplicatePolicyId c.name p.id) := by
  rw [insert, taken]
  rfl

theorem adds_merge {other : PolicyCollection} (apart : c.Apart other) :
    ∃ d, c.merge other = .ok d ∧ c.Adds d other.policies.values := by
  obtain ⟨d, merged, name, found⟩ := find?_merge_of_apart apart
  exact ⟨d, merged, name, fun id => by rw [found, find?_values]⟩

end PolicyCollection

namespace Rbac

open PolicyCollection (Adds)

/-! ## Changes -/

/-- What may be done to a compilation. -/
inductive Change
  | insert (policy : CompiledPolicy)
  | merge (other : PolicyCollection)
  | absorb (other : Compilation)

/-- The policies that a change brings. -/
def Change.policies : Change → List CompiledPolicy
  | insert policy => [policy]
  | merge other => other.policies.values
  | absorb other => other.collection.policies.values

namespace Compilation

/-- The compilation with another collection, unless that was refused. -/
def attempt (c : Compilation) : Except Error PolicyCollection → Compilation × Option Error
  | .ok collection => ({ c with collection }, none)
  | .error e => (c, some e)

/-- The compilation after a change, and why the change was refused, if it was. -/
def change (c : Compilation) : Change → Compilation × Option Error
  | .insert policy => c.attempt (c.collection.insert policy)
  | .merge other => c.attempt (c.collection.merge other)
  | .absorb other => (c.absorb other, none)

/-- What a change does: the compilation after it, and the refusal. -/
inductive Outcome (c : Compilation) : Change → Compilation → Option Error → Prop
  | inserted {policy : CompiledPolicy} {d : PolicyCollection}
      (free : c.collection.policies.contains policy.id = false) (adds : c.collection.Adds d [policy]) :
      Outcome c (.insert policy) { c with collection := d } none
  | taken {policy : CompiledPolicy} (taken : c.collection.policies.contains policy.id = true) :
      Outcome c (.insert policy) c (some (.duplicatePolicyId c.collection.name policy.id))
  | merged {other d : PolicyCollection} (apart : c.collection.Apart other)
      (adds : c.collection.Adds d other.policies.values) :
      Outcome c (.merge other) { c with collection := d } none
  | shared {other : PolicyCollection} {id : String} (here : c.collection.policies.contains id = true)
      (there : other.policies.contains id = true)
      (least : ∀ id', c.collection.policies.contains id' = true → other.policies.contains id' = true →
        id ≤ id') :
      Outcome c (.merge other) c (some (.duplicatePolicyId c.collection.name id))
  | absorbed {other d : Compilation} (adds : c.collection.Adds d.collection other.collection.policies.values)
      (reports : d.diagnostics = c.diagnostics ++
        (other.collection.policies.values.filter fun p => c.collection.policies.contains p.id).map
          (fun p => ⟨other.collection.name, 0, 0, .duplicatePolicy p.id⟩) ++ other.diagnostics) :
      Outcome c (.absorb other) d none

/-- A change brings its policies, and one that is refused does nothing. -/
theorem outcome_change (c : Compilation) (change : Change) :
    Outcome c change (c.change change).1 (c.change change).2 := by
  cases change with
  | insert policy =>
    cases taken : c.collection.policies.contains policy.id with
    | true =>
      rw [Compilation.change, PolicyCollection.insert_of_taken taken]
      exact .taken taken
    | false =>
      obtain ⟨d, inserted, adds⟩ := PolicyCollection.adds_insert taken
      rw [Compilation.change, inserted]
      exact .inserted taken adds
  | merge other =>
    by_cases apart : c.collection.Apart other
    · obtain ⟨d, merged, adds⟩ := PolicyCollection.adds_merge apart
      rw [Compilation.change, merged]
      exact .merged apart adds
    · obtain ⟨id, refused, here, there, least⟩ := PolicyCollection.merge_of_not_apart apart
      rw [Compilation.change, refused]
      exact .shared here there least
  | absorb other =>
    refine .absorbed ⟨name_absorb c other, fun id => ?_⟩ (diagnostics_absorb c other)
    rw [PolicyCollection.find?_values]
    exact find?_absorb c other id

/-- What a change brings, if it is not refused. -/
def accepted (c : Compilation) (change : Change) : List CompiledPolicy :=
  if (c.change change).2 = none then change.policies else []

theorem Outcome.adds {c next : Compilation} {change : Change} {refusal : Option Error}
    (h : c.Outcome change next refusal) :
    c.collection.Adds next.collection (if refusal = none then change.policies else []) := by
  cases h with
  | inserted _ adds | merged _ adds | absorbed adds _ => exact adds
  | taken | shared => exact PolicyCollection.adds_nil _

theorem adds_change (c : Compilation) (change : Change) :
    c.collection.Adds (c.change change).1.collection (c.accepted change) :=
  (outcome_change c change).adds

end Compilation

/-! ## Histories -/

/-- A compilation, and all that it accepted, in the order in which it came. -/
structure History where
  state : Compilation
  accepted : List CompiledPolicy

namespace History

def new (name : String) : History := ⟨.new name, []⟩

def step (h : History) (change : Change) : History :=
  ⟨(h.state.change change).1, h.accepted ++ h.state.accepted change⟩

def run (h : History) (changes : List Change) : History := changes.foldl step h

/-- A run adds what it accepts, one change after another. -/
theorem adds_run (h : History) (changes : List Change) : ∃ later,
    (h.run changes).accepted = h.accepted ++ later ∧
    h.state.collection.Adds (h.run changes).state.collection later := by
  induction changes generalizing h with
  | nil => exact ⟨[], (List.append_nil _).symm, PolicyCollection.adds_nil _⟩
  | cons change changes ih =>
    obtain ⟨later, accepted, adds⟩ := ih (h.step change)
    refine ⟨h.state.accepted change ++ later, ?_, (h.state.adds_change change).append adds⟩
    rw [← List.append_assoc]
    exact accepted

/-- An id stands for the policy that was the first accepted under it. -/
theorem find?_run_new (name : String) (changes : List Change) (id : String) :
    ((new name).run changes).state.collection.policies.find? id =
      ((new name).run changes).accepted.find? fun p => p.id = id := by
  obtain ⟨later, accepted, adds⟩ := (new name).adds_run changes
  rw [accepted, adds.holds]
  rfl

/-- Whatever is inserted, merged and absorbed from nothing on: the policies stand under their own ids
and in the order of their bytes, each as it was first accepted, and no later change takes one away. A
further change does all it can or is refused for an id that it names. Collections that share no id can
be merged in any order. -/
theorem gathers (name : String) (changes : List Change) :
    let h := (new name).run changes
    let c := h.state.collection
    (∀ e ∈ c.policies.entries, e.1 = e.2.id) ∧
    (c.policies.values.Pairwise fun p q => p.id.toUTF8.data.toList < q.id.toUTF8.data.toList) ∧
    (∀ id, c.policies.find? id = h.accepted.find? fun p => p.id = id) ∧
    (∀ later id p, c.policies.find? id = some p →
      (h.run later).state.collection.policies.find? id = some p) ∧
    (∀ change, h.state.Outcome change (h.state.change change).1 (h.state.change change).2) ∧
    (∀ other, (∃ d, c.merge other = .ok d) ↔ c.Apart other) ∧
    ∀ others others', others.Perm others' → (c :: others).Pairwise PolicyCollection.Apart →
      ∃ d, c.mergeAll others = .ok d ∧ c.mergeAll others' = .ok d := by
  intro h c
  refine ⟨c.keyed, c.increasing_ids.imp Text.toUTF8_lt, find?_run_new name changes, ?_,
    h.state.outcome_change, fun _ => PolicyCollection.merge_eq_ok_iff,
    fun _ _ => PolicyCollection.mergeAll_perm⟩
  intro later id p there
  obtain ⟨_, -, adds⟩ := h.adds_run later
  exact adds.keeps there

/-- An insertion and a merge are refused for an id that is taken. The policies that were to be merged
are then absorbed, all but one. -/
theorem gathers_clashing :
    let first := CompiledPolicy.new "a" .permit
    let second := CompiledPolicy.new "a" .forbid
    let third := CompiledPolicy.new "b" .permit
    let other : PolicyCollection :=
      ⟨"other", ⟨[("a", second), ("b", third)], List.pairwise_pair.mpr (by decide)⟩,
        by simp [second, third, CompiledPolicy.new]⟩
    let changes := [Change.insert first, .insert second, .merge other, .absorb ⟨other, []⟩]
    let h := (new "rbac").run changes
    h.accepted = [first, second, third] ∧
      h.state.collection.policies.find? "a" = some first ∧
      h.state.collection.policies.find? "b" = some third ∧
      h.state.diagnostics = [⟨"other", 0, 0, .duplicatePolicy "a"⟩] := by
  intro first second third other changes h
  obtain ⟨-, -, holds, -⟩ := gathers "rbac" changes
  have accepted : h.accepted = [first, second, third] := rfl
  exact ⟨accepted, holds "a", holds "b", rfl⟩

end History

end Rbac

end ClusterPolicy
