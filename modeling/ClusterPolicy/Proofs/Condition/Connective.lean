import ClusterPolicy.Condition

/-! Conjunction and disjunction put conditions together in the same way. -/

namespace ClusterPolicy.Condition

/-- The connectives that chain conditions. -/
inductive Connective
  | and
  | or

namespace Connective

def node : Connective → Condition → Condition → Condition
  | and => Condition.and
  | or => Condition.or

/-- What puts two conditions together: their node, with `empty` as its identity and the chain on the
right re-associated to the left. -/
def join : Connective → Condition → Condition → Condition
  | and => both
  | or => either

def fold (k : Connective) (conditions : List Condition) : Condition := conditions.foldl k.join empty

section
variable (k : Connective)

@[simp] theorem node_ne_empty (a b : Condition) : k.node a b ≠ empty := by
  cases k <;> exact nofun

@[simp] theorem empty_join (a : Condition) : k.join empty a = a := by
  cases k <;> simp [join, both, either]

@[simp] theorem join_empty (a : Condition) : k.join a empty = a := by
  cases k <;> cases a <;> rfl

variable {a b : Condition}

theorem join_node (ha : a ≠ empty) (b c : Condition) :
    k.join a (k.node b c) = k.join (k.join a b) c := by
  cases k with
  | and =>
    simp only [join, node]
    rw [both]
    exact ha
  | or =>
    simp only [join, node]
    rw [either]
    exact ha

theorem join_eq_node (ha : a ≠ empty) (hb : b ≠ empty) (other : ∀ c d, b ≠ k.node c d) :
    k.join a b = k.node a b := by
  cases k with
  | and =>
    simp only [join, node]
    rw [both] <;> assumption
  | or =>
    simp only [join, node]
    rw [either] <;> assumption

/-- Two conditions are put together by recursion on the chain on the right. -/
theorem induct {motive : Condition → Condition → Prop} (left : ∀ b, motive empty b)
    (right : ∀ a, motive a empty)
    (chain : ∀ a b c, a ≠ empty → motive a b → motive (k.join a b) c → motive a (k.node b c))
    (other : ∀ a b, a ≠ empty → b ≠ empty → (∀ c d, b ≠ k.node c d) → motive a b)
    (a b : Condition) : motive a b := by
  cases k with
  | and => exact both.induct motive left (fun a _ => right a) chain other a b
  | or => exact either.induct motive left (fun a _ => right a) chain other a b

theorem join_eq_empty : k.join a b = empty ↔ a = empty ∧ b = empty := by
  induction a, b using k.induct with
  | left b => simp
  | right a => simp
  | chain a b c ha ihb ihc =>
    rw [join_node k ha, ihc, ihb]
    exact iff_of_false (fun none => ha none.1.1) fun none => k.node_ne_empty b c none.2
  | other a b ha hb other =>
    rw [join_eq_node k ha hb other]
    exact iff_of_false (k.node_ne_empty a b) fun none => ha none.1

/-- By induction on the chain on the right of `c`, which is taken apart in the same way on both sides. -/
theorem join_assoc (a b c : Condition) : k.join (k.join a b) c = k.join a (k.join b c) := by
  induction b, c using k.induct generalizing a with
  | left c => rw [join_empty, empty_join]
  | right b => rw [join_empty, join_empty]
  | chain b c d hb ihc ihd =>
    rw [join_node k (fun none => hb (k.join_eq_empty.mp none).2), join_node k hb, ihc, ihd]
  | other b c hb hc other =>
    by_cases ha : a = empty
    · subst ha
      rw [empty_join, empty_join]
    · rw [join_eq_node k hb hc other, join_node k ha]

theorem fold_append (xs ys : List Condition) :
    k.fold (xs ++ ys) = k.join (k.fold xs) (k.fold ys) := by
  have : Std.Associative k.join := ⟨k.join_assoc⟩
  rw [fold, List.foldl_append, ← k.join_empty (xs.foldl k.join empty), List.foldl_assoc]
  rfl

/-- What holds of both conditions and of a node that ends no chain of its own kind on the right holds
of them together. -/
theorem join_of {P : Condition → Prop} (parts : ∀ {a b}, P (k.node a b) → P a ∧ P b)
    (node : ∀ a b, a ≠ empty → b ≠ empty → (∀ c d, b ≠ k.node c d) → P a → P b → P (k.node a b))
    (ha : P a) (hb : P b) : P (k.join a b) := by
  induction a, b using k.induct with
  | left b => rwa [empty_join]
  | right a => rwa [join_empty]
  | chain a b c a_ne ihb ihc =>
    obtain ⟨first, last⟩ := parts hb
    rw [join_node k a_ne]
    exact ihc (ihb ha first) last
  | other a b a_ne b_ne other =>
    rw [join_eq_node k a_ne b_ne other]
    exact node a b a_ne b_ne other ha hb

end

end Connective

end ClusterPolicy.Condition
