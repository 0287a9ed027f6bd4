import ClusterPolicy.Proofs.Condition.Evaluation
import ClusterPolicy.Proofs.Part

namespace ClusterPolicy.Condition

def children : Condition → List Condition
  | empty | var _ | bool _ | long _ | string _ | decimal _ | entity _ => []
  | not a | neg a | like a _ | has a _ | access a _ | is a _ => [a]
  | and a b | or a b | binary _ a b => [a, b]
  | ite c a b => [c, a, b]
  | set items => items
  | record fields => fields.map (·.2)

/-- What a part must not be, whatever stands below it. -/
def IsPlainPart : Condition → Prop
  | empty | entity _ | is .. => False
  | record fields => (fields.map (·.1)).Nodup
  | _ => True

abbrev IsPlain (c : Condition) : Prop := Everywhere children IsPlainPart c

theorem isPlain_of_children {c : Condition} (self : c.IsPlainPart) (below : ∀ d ∈ c.children, d.IsPlain) :
    c.IsPlain :=
  everywhere_iff.mpr ⟨self, below⟩

mutual

/-- A plain condition can be written. -/
theorem isProper_of_isPlain {c : Condition} (h : c.IsPlain) : c.isProper = true := by
  obtain ⟨self, below⟩ := everywhere_iff.mp h
  match c with
  | empty | entity _ | is _ _ => exact self.elim
  | var _ | bool _ | long _ | string _ | decimal _ => rfl
  | not a | neg a | like a _ | has a _ | access a _ =>
    simp only [Condition.isProper]
    exact isProper_of_isPlain (below a (by simp [children]))
  | and a b | or a b | binary _ a b =>
    simp only [Condition.isProper, Bool.and_eq_true]
    exact ⟨isProper_of_isPlain (below a (by simp [children])), isProper_of_isPlain (below b (by simp [children]))⟩
  | ite c a b =>
    simp only [Condition.isProper, Bool.and_eq_true]
    exact ⟨⟨isProper_of_isPlain (below c (by simp [children])), isProper_of_isPlain (below a (by simp [children]))⟩,
      isProper_of_isPlain (below b (by simp [children]))⟩
  | set items => exact itemsAreProper_of_isPlain below
  | record fields =>
    rw [Condition.isProper, Bool.and_eq_true, decide_eq_true_eq]
    exact ⟨self, fieldsAreProper_of_isPlain (List.forall_mem_map.mp below)⟩

theorem itemsAreProper_of_isPlain {items : List Condition} (h : ∀ c ∈ items, c.IsPlain) :
    itemsAreProper items = true := by
  match items with
  | [] => rfl
  | c :: rest =>
    obtain ⟨first, others⟩ := List.forall_mem_cons.mp h
    rw [itemsAreProper, Bool.and_eq_true]
    exact ⟨isProper_of_isPlain first, itemsAreProper_of_isPlain others⟩

theorem fieldsAreProper_of_isPlain {fields : List (String × Condition)} (h : ∀ f ∈ fields, f.2.IsPlain) :
    fieldsAreProper fields = true := by
  match fields with
  | [] => rfl
  | (_, c) :: rest =>
    obtain ⟨first, others⟩ := List.forall_mem_cons.mp h
    rw [fieldsAreProper, Bool.and_eq_true]
    exact ⟨isProper_of_isPlain first, fieldsAreProper_of_isPlain others⟩

end

/-! ## Putting together -/

section
variable {P : Condition → Prop} {a b : Condition}

theorem everywhere_node (k : Connective) : Everywhere children P (k.node a b) ↔
    P (k.node a b) ∧ Everywhere children P a ∧ Everywhere children P b := by
  rw [everywhere_iff]
  cases k <;> simp [Connective.node, children]

theorem everywhere_join (k : Connective)
    (node : ∀ a b, a ≠ empty → b ≠ empty → (∀ c d, b ≠ k.node c d) → P (k.node a b))
    (ha : Everywhere children P a) (hb : Everywhere children P b) :
    Everywhere children P (k.join a b) := by
  refine k.join_of (fun h => ((everywhere_node k).mp h).2) ?_ ha hb
  intro a b a_ne b_ne other ha hb
  exact (everywhere_node k).mpr ⟨node a b a_ne b_ne other, ha, hb⟩

theorem IsPlain.both (ha : a.IsPlain) (hb : b.IsPlain) : (Condition.both a b).IsPlain :=
  everywhere_join .and (fun _ _ _ _ _ => trivial) ha hb

end

end ClusterPolicy.Condition
