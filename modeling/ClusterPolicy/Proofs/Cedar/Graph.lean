import ClusterPolicy.Cedar.Entity
import Mathlib.Data.List.Count
import Mathlib.Logic.Relation

/-! Membership of entities in groups. Every widening that is not the last takes in one more of the
entities, so there are enough of them. -/

namespace ClusterPolicy.Cedar.Entities

open Relation (ReflTransGen)

section
variable {entities : Entities} {known : List EntityUid} {u v : EntityUid}

theorem parents_eq {e : Entity} (h : entities.find? u = some e) : entities.parents u = e.parents := by
  simp [parents, h]

theorem mem_all_of_parents (h : v ∈ entities.parents u) : ∃ e ∈ entities.all, e.uid = u := by
  unfold parents find? at h
  cases found : entities.all.find? fun e => decide (e.uid = u) with
  | none => simp [found] at h
  | some e => exact ⟨e, List.mem_of_find?_eq_some found, by simpa using List.find?_some found⟩

theorem mem_widen : v ∈ entities.widen known ↔ v ∈ known ∨ ∃ u ∈ known, v ∈ entities.parents u := by
  have run : ∀ more : List EntityUid, v ∈ more.foldr List.insert known ↔ v ∈ known ∨ v ∈ more := by
    intro more
    induction more with
    | nil => simp
    | cons w more ih =>
      rw [List.foldr_cons, List.mem_insert_iff, ih, List.mem_cons]
      exact or_left_comm
  rw [widen, run, List.mem_flatMap]

/-- Nothing is left to be taken in. -/
def Closed (entities : Entities) (known : List EntityUid) : Prop :=
  ∀ u ∈ known, ∀ v ∈ entities.parents u, v ∈ known

theorem mem_reachedWithin_of_closed (closed : entities.Closed known) (n : Nat) :
    v ∈ entities.reachedWithin n known ↔ v ∈ known := by
  induction n generalizing known with
  | zero => rfl
  | succ n ih =>
    have same : ∀ w, w ∈ entities.widen known ↔ w ∈ known := by
      intro w
      rw [mem_widen]
      constructor
      · rintro (h | ⟨u, hu, hw⟩)
        · exact h
        · exact closed u hu w hw
      · exact .inl
    have closedNext : entities.Closed (entities.widen known) := by
      intro u hu w hw
      exact (same w).mpr (closed u ((same u).mp hu) w hw)
    exact (ih closedNext).trans (same v)

theorem closed_of_closed (closed : entities.Closed known) (n : Nat) :
    entities.Closed (entities.reachedWithin n known) := by
  intro u hu w hw
  rw [mem_reachedWithin_of_closed closed] at hu ⊢
  exact closed u hu w hw

theorem mem_reachedWithin_of_mem (h : v ∈ known) (n : Nat) : v ∈ entities.reachedWithin n known := by
  induction n generalizing known with
  | zero => exact h
  | succ n ih => exact ih (mem_widen.mpr (.inl h))

theorem steps_of_mem_reachedWithin {n : Nat} (h : v ∈ entities.reachedWithin n known) :
    ∃ u ∈ known, ReflTransGen (fun a b => b ∈ entities.parents a) u v := by
  induction n generalizing known with
  | zero => exact ⟨v, h, .refl⟩
  | succ n ih =>
    obtain ⟨w, hw, steps⟩ := ih h
    rcases mem_widen.mp hw with hw | ⟨u, hu, step⟩
    · exact ⟨w, hw, steps⟩
    · exact ⟨u, hu, .head step steps⟩

theorem mem_of_closed (closed : entities.Closed known) (h : u ∈ known)
    (steps : ReflTransGen (fun a b => b ∈ entities.parents a) u v) : v ∈ known := by
  induction steps with
  | refl => exact h
  | tail _ step ih => exact closed _ ih _ step

/-- The entities that are not yet known. -/
def strangers (entities : Entities) (known : List EntityUid) : Nat :=
  entities.all.countP fun e => !known.contains e.uid

theorem strangers_widen_lt {e : Entity} (he : e ∈ entities.all) (stranger : e.uid ∉ known)
    (joins : e.uid ∈ entities.widen known) :
    entities.strangers (entities.widen known) < entities.strangers known := by
  have mono : ∀ l : List Entity, (l.countP fun e => !(entities.widen known).contains e.uid) ≤
      l.countP fun e => !known.contains e.uid := by
    intro l
    apply List.countP_mono_left
    intro e _ unknown
    simp only [Bool.not_eq_true', List.contains_eq_mem, decide_eq_false_iff_not] at unknown ⊢
    intro h
    exact unknown (mem_widen.mpr (.inl h))
  obtain ⟨before, behind, split⟩ := List.append_of_mem he
  have first := mono before
  have last := mono behind
  simp only [strangers, split, List.countP_append, List.countP_cons, List.contains_eq_mem, stranger,
    joins, decide_true, decide_false, Bool.not_true, Bool.not_false] at first last ⊢
  simp only [Bool.false_eq_true, ↓reduceIte]
  omega

/-- A widening that takes in no entity leaves nothing to be taken in. -/
theorem closed_widen (none : ∀ e ∈ entities.all, e.uid ∈ entities.widen known → e.uid ∈ known) :
    entities.Closed (entities.widen known) := by
  intro u hu v hv
  obtain ⟨e, he, rfl⟩ := mem_all_of_parents hv
  exact mem_widen.mpr (.inr ⟨_, none e he hu, hv⟩)

theorem closed_reachedWithin {n : Nat} (enough : entities.strangers known < n) :
    entities.Closed (entities.reachedWithin n known) := by
  induction n generalizing known with
  | zero => omega
  | succ n ih =>
    by_cases none : ∀ e ∈ entities.all, e.uid ∈ entities.widen known → e.uid ∈ known
    · exact closed_of_closed (closed_widen none) n
    · push Not at none
      obtain ⟨e, he, joins, stranger⟩ := none
      have fewer := strangers_widen_lt he stranger joins
      exact ih (by omega)

theorem closed_reached (entities : Entities) (uid : EntityUid) :
    entities.Closed (entities.reachedWithin entities.all.length [uid]) := by
  by_cases known : ∃ e ∈ entities.all, e.uid = uid
  · obtain ⟨e, he, rfl⟩ := known
    apply closed_reachedWithin
    rw [strangers, List.countP_lt_length_iff]
    exact ⟨e, he, by simp⟩
  · apply closed_of_closed
    intro u hu v hv
    exact absurd (List.mem_singleton.mp hu ▸ mem_all_of_parents hv) known

/-- A group is reached if and only if steps to a parent lead to it. -/
theorem reaches_iff {uid group : EntityUid} : entities.reaches uid group = true ↔
    ReflTransGen (fun a b => b ∈ entities.parents a) uid group := by
  rw [reaches, List.contains_iff_mem]
  constructor
  · intro h
    obtain ⟨u, hu, steps⟩ := steps_of_mem_reachedWithin h
    exact List.mem_singleton.mp hu ▸ steps
  · exact mem_of_closed (closed_reached entities uid)
      (mem_reachedWithin_of_mem (List.mem_singleton.mpr rfl) _)

/-- An entity without parents reaches itself alone. -/
theorem reaches_of_orphan {uid group : EntityUid} (orphan : entities.parents uid = []) :
    entities.reaches uid group = true ↔ group = uid := by
  rw [reaches_iff]
  constructor
  · intro steps
    rcases steps.cases_head with same | ⟨parent, step, _⟩
    · exact same.symm
    · simp [orphan] at step
  · rintro rfl
    exact .refl

/-- Where parents have no parents, one step is enough. -/
theorem reaches_of_shallow {uid group : EntityUid}
    (shallow : ∀ parent ∈ entities.parents uid, entities.parents parent = []) :
    entities.reaches uid group = true ↔ group = uid ∨ group ∈ entities.parents uid := by
  rw [reaches_iff]
  constructor
  · intro steps
    rcases steps.cases_head with same | ⟨parent, step, more⟩
    · exact .inl same.symm
    · rw [← reaches_iff, reaches_of_orphan (shallow parent step)] at more
      exact .inr (more ▸ step)
  · rintro (rfl | step)
    · exact .refl
    · exact .single step

end

/-! ## Graphs made of descriptions -/

/-- Of several descriptions of an entity the first stays. -/
def keepFirst (known : List Entity) (e : Entity) : List Entity :=
  if known.any (·.uid == e.uid) then known else known ++ [e]

def firsts (given : List Entity) : Entities := ⟨given.foldl keepFirst []⟩

section
variable {given : List Entity}

theorem mem_keepFirst {known : List Entity} {e f : Entity} (h : f ∈ keepFirst known e) : f ∈ known ∨ f = e := by
  unfold keepFirst at h
  split at h
  · exact .inl h
  · simpa using h

theorem mem_firsts {e : Entity} (h : e ∈ (firsts given).all) : e ∈ given := by
  suffices run : ∀ known : List Entity, e ∈ given.foldl keepFirst known → e ∈ known ∨ e ∈ given by
    simpa using run [] h
  clear h
  induction given with
  | nil =>
    intro known h
    exact .inl h
  | cons f given ih =>
    intro known h
    rcases ih _ h with h | h
    · rcases mem_keepFirst h with h | rfl
      · exact .inl h
      · exact .inr List.mem_cons_self
    · exact .inr (List.mem_cons_of_mem _ h)

theorem find?_keepFirst (known : List Entity) (e : Entity) (uid : EntityUid) :
    (keepFirst known e).find? (fun e => decide (e.uid = uid)) =
      (known ++ [e]).find? fun e => decide (e.uid = uid) := by
  unfold keepFirst
  split
  · rename_i double
    obtain ⟨f, hf, same⟩ := List.any_eq_true.mp double
    by_cases own : e.uid = uid
    · have found : (known.find? fun e => decide (e.uid = uid)).isSome := by
        rw [List.find?_isSome]
        exact ⟨f, hf, by simpa [eq_of_beq same] using own⟩
      rw [List.find?_append, Option.or_of_isSome found]
    · simp [own]
  · rfl

theorem find?_firsts (uid : EntityUid) :
    (firsts given).find? uid = given.find? fun e => decide (e.uid = uid) := by
  suffices run : ∀ known : List Entity,
      (given.foldl keepFirst known).find? (fun e => decide (e.uid = uid)) =
        (known ++ given).find? fun e => decide (e.uid = uid) from run []
  induction given with
  | nil => simp
  | cons e given ih =>
    intro known
    rw [List.foldl_cons, ih, List.find?_append, find?_keepFirst, ← List.find?_append, List.append_assoc]
    rfl

theorem find?_firsts_of_mem (consistent : ∀ e ∈ given, ∀ f ∈ given, e.uid = f.uid → e = f)
    {e : Entity} (he : e ∈ given) : (firsts given).find? e.uid = some e := by
  rw [find?_firsts]
  cases found : given.find? fun f => decide (f.uid = e.uid) with
  | none =>
    rw [List.find?_eq_none] at found
    exact absurd (decide_eq_true rfl) (found e he)
  | some f =>
    have same : f.uid = e.uid := by simpa using List.find?_some found
    rw [consistent f (List.mem_of_find?_eq_some found) e he same]

/-- Descriptions that do not contradict each other, of entities whose parents have no parents, make a
graph. -/
theorem ofList?_of_shallow (consistent : ∀ e ∈ given, ∀ f ∈ given, e.uid = f.uid → e = f)
    (agrees : ∀ e ∈ given, e.agrees e = true)
    (shallow : ∀ e ∈ given, ∀ parent ∈ e.parents, parent ≠ e.uid ∧ (firsts given).parents parent = []) :
    ofList? given = some (firsts given) := by
  have described : given.all (fun e => ((firsts given).find? e.uid).any e.agrees) = true := by
    rw [List.all_eq_true]
    intro e he
    rw [find?_firsts_of_mem consistent he]
    exact agrees e he
  have acyclic : (firsts given).isAcyclic = true := by
    simp only [isAcyclic, List.all_eq_true, Bool.not_eq_true', ← Bool.not_eq_true]
    intro e he parent hp
    obtain ⟨other, orphan⟩ := shallow e (mem_firsts he) parent hp
    rw [reaches_of_orphan orphan]
    exact Ne.symm other
  exact if_pos (Bool.and_eq_true_iff.mpr ⟨described, acyclic⟩)

end

end ClusterPolicy.Cedar.Entities
