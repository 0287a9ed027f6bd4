import ClusterPolicy.Proofs.Condition.Plain

namespace ClusterPolicy.Condition

open Cedar (Entities Evaluation Expr Request Test Value)

/-! ## Nodes -/

/-- A connective has both its operands. -/
def HasOperands : Condition → Prop
  | and a b | or a b => a ≠ empty ∧ b ≠ empty
  | _ => True

/-- A connective goes on with a chain of its own kind only on the left. -/
def ChainsLeft : Condition → Prop
  | and _ (and ..) | or _ (or ..) => False
  | _ => True

theorem hasOperands_node (k : Connective) {a b : Condition} (ha : a ≠ empty) (hb : b ≠ empty) :
    (k.node a b).HasOperands := by
  cases k <;> exact ⟨ha, hb⟩

theorem chainsLeft_node (k : Connective) {a b : Condition} (other : ∀ c d, b ≠ k.node c d) :
    (k.node a b).ChainsLeft := by
  cases k <;> cases b
  case and.and c d | or.or c d => exact other c d rfl
  all_goals trivial

/-- No part of the condition is empty. -/
abbrev IsSolid (c : Condition) : Prop := Everywhere children (· ≠ empty) c

section
variable {a b : Condition}

theorem IsSolid.ne_empty (h : a.IsSolid) : a ≠ empty := (everywhere_iff.mp h).1

theorem isSolid_of_node {k : Connective} (h : (k.node a b).IsSolid) : a.IsSolid ∧ b.IsSolid :=
  ((everywhere_node k).mp h).2

theorem IsSolid.join (k : Connective) (ha : a.IsSolid) (hb : b.IsSolid) : (k.join a b).IsSolid :=
  everywhere_join k (fun a b _ _ _ => k.node_ne_empty a b) ha hb

/-- Two conditions that are not empty become a node. -/
theorem exists_join_eq_node (k : Connective) (ha : a ≠ empty) (hb : b.IsSolid) :
    ∃ x y, k.join a b = k.node x y := by
  induction a, b using k.induct with
  | left b => exact absurd rfl ha
  | right a => exact absurd rfl hb.ne_empty
  | chain a b c a_ne ihb ihc =>
    rw [k.join_node a_ne]
    exact ihc (fun none => ha (k.join_eq_empty.mp none).1) (isSolid_of_node hb).2
  | other a b a_ne b_ne other => exact ⟨a, b, k.join_eq_node a_ne b_ne other⟩

end

/-! ## Meaning -/

/-- What the condition evaluates to on a request, a value or a failure; none if it has no expression. -/
def meaning? (c : Condition) : Option (Request → Entities → Evaluation) :=
  c.toExpr?.map fun e request entities => e.evaluate request entities

section
variable {a b : Condition}

/-- What a test answers, as a value. -/
def answer (t : Test) : Request → Entities → Evaluation :=
  fun request entities => (t request entities).map Value.bool

/-- A node evaluates to what it answers as a test. -/
theorem meaning?_node (k : Connective) (a b : Condition) :
    (k.node a b).meaning? = (k.node a b).test?.map answer := by
  cases k <;>
    simp only [meaning?, test?, Connective.node, toExpr?, Option.bind_eq_bind] <;>
    cases a.toExpr? with
    | none => rfl
    | some ea =>
      cases b.toExpr? with
      | none => rfl
      | some eb =>
        first
        | exact congrArg some (funext₂ fun _ _ => Expr.evaluate_and ..)
        | exact congrArg some (funext₂ fun _ _ => Expr.evaluate_or ..)

/-- Of conditions that are not empty, the tests are put together as their node's. -/
theorem test?_join (k : Connective) (ha : a.IsSolid) (hb : b.IsSolid) :
    (k.join a b).test? = (k.node a b).test? := by
  cases k with
  | and => exact (test?_both a b).trans (test?_and a b).symm
  | or =>
    have same := test?_either_of IsSolid.ne_empty (isSolid_of_node (k := .or)) (.join .or) ha hb
    exact same.trans (test?_or a b).symm

theorem meaning?_join (k : Connective) (ha : a.IsSolid) (hb : b.IsSolid) :
    (k.join a b).meaning? = (k.node a b).meaning? := by
  obtain ⟨x, y, node⟩ := exists_join_eq_node k ha.ne_empty hb
  rw [node, meaning?_node, meaning?_node, ← node, test?_join k ha hb]

end

/-! ## Both connectives -/

/-- `combine` puts two conditions together to what `connective` means of them, and `fold` does so with
the conditions of a list. -/
structure Combines (combine : Condition → Condition → Condition) (fold : List Condition → Condition)
    (connective : Condition → Condition → Condition) : Prop where
  assoc : ∀ a b c, combine (combine a b) c = combine a (combine b c)
  empty_left : ∀ a, combine empty a = a
  empty_right : ∀ a, combine a empty = a
  fold_singleton : ∀ a, fold [a] = a
  fold_append : ∀ xs ys, fold (xs ++ ys) = combine (fold xs) (fold ys)
  operands : ∀ a b, Everywhere children HasOperands a → Everywhere children HasOperands b →
    Everywhere children HasOperands (combine a b)
  chains : ∀ a b, Everywhere children ChainsLeft a → Everywhere children ChainsLeft b →
    Everywhere children ChainsLeft (combine a b)
  meaning : ∀ a b, a.IsSolid → b.IsSolid → (combine a b).meaning? = (connective a b).meaning?

theorem Connective.combines_join (k : Connective) : Combines k.join k.fold k.node where
  assoc := k.join_assoc
  empty_left := k.empty_join
  empty_right := k.join_empty
  fold_singleton := k.empty_join
  fold_append := k.fold_append
  operands _ _ := everywhere_join k fun _ _ ha hb _ => hasOperands_node k ha hb
  chains _ _ := everywhere_join k fun _ _ _ _ other => chainsLeft_node k other
  meaning _ _ := meaning?_join k

/-- Conditions are a monoid under conjunction and under disjunction, as trees, and lists of them are put
together part by part. No connective lacks an operand or goes on with a chain of its own kind on the
right, and a chain evaluates as its connective does, however it was grouped. -/
theorem combines : Combines both all and ∧ Combines either any or :=
  ⟨Connective.and.combines_join, Connective.or.combines_join⟩

/-- A chain on the right is grouped to the left, and fails or answers as before. -/
theorem combines_regrouped :
    let a : Condition := .has .resource "name"
    let b : Condition := .and (.bool true) (.access .resource "name")
    both a b = .and (.and a (.bool true)) (.access .resource "name") ∧
      a.IsSolid ∧ b.IsSolid ∧ (both a b).meaning? = (Condition.and a b).meaning? := by
  intro a b
  have solidResource : resource.IsSolid := everywhere_iff.mpr ⟨nofun, nofun⟩
  have solidTrue : (bool true).IsSolid := everywhere_iff.mpr ⟨nofun, nofun⟩
  have solidName : (access resource "name").IsSolid :=
    everywhere_iff.mpr ⟨nofun, by simpa [children] using solidResource⟩
  have solidA : a.IsSolid := everywhere_iff.mpr ⟨nofun, by simpa [a, children] using solidResource⟩
  have solidB : b.IsSolid :=
    everywhere_iff.mpr ⟨nofun, by simpa [b, children] using ⟨solidTrue, solidName⟩⟩
  exact ⟨by simp [both, a, b], solidA, solidB, combines.1.meaning a b solidA solidB⟩

end ClusterPolicy.Condition
