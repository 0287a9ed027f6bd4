import ClusterPolicy.Proofs.Condition.Evaluation

namespace ClusterPolicy.Condition

open Cedar (Entities Request)

/-- The condition says yes or no, and does not fail. -/
def Answers (request : Request) (entities : Entities) (c : Condition) : Prop :=
  ∃ b, c.Decides request entities b

section
variable {request : Request} {entities : Entities} {a b c : Condition} {x : Bool}

theorem Decides.answers (h : c.Decides request entities x) : c.Answers request entities := ⟨x, h⟩

theorem answers_empty : empty.Answers request entities := decides_empty.answers

/-- Conditions that answer do so together too: the second is asked only where the first is true. -/
theorem Answers.both (ha : a.Answers request entities) (hb : b.Answers request entities) :
    (Condition.both a b).Answers request entities := by
  obtain ⟨x, isX⟩ := ha
  obtain ⟨y, isY⟩ := hb
  exact (isX.both isY).answers

/-- Behind a guard a condition has to answer only where the guard says yes. -/
theorem Answers.guarded (ha : a.Decides request entities x) (writable : b.IsWritable)
    (hb : x = true → b.Answers request entities) : (Condition.both a b).Answers request entities := by
  cases x with
  | false => exact (ha.guards (y := false) writable nofun).answers
  | true =>
    obtain ⟨y, isY⟩ := hb rfl
    exact (ha.both isY).answers

theorem Answers.either (ha : a.Answers request entities) (hb : b.Answers request entities)
    (writableA : a.IsWritable) (writableB : b.IsWritable) :
    (Condition.either a b).Answers request entities := by
  rcases writableA with rfl | properA
  · rwa [empty_either]
  · rcases writableB with rfl | properB
    · rwa [either_empty]
    · obtain ⟨x, isX⟩ := ha
      obtain ⟨y, isY⟩ := hb
      exact (isX.either isY properA properB).answers

theorem Answers.all {cs : List Condition} (h : ∀ c ∈ cs, c.Answers request entities) :
    (Condition.all cs).Answers request entities :=
  List.foldlRecOn cs Condition.both answers_empty fun _ ha c hc => ha.both (h c hc)

theorem Answers.any {cs : List Condition} (writable : ∀ c ∈ cs, c.IsWritable)
    (h : ∀ c ∈ cs, c.Answers request entities) : (Condition.any cs).Answers request entities := by
  refine (List.foldlRecOn (motive := fun a => a.Answers request entities ∧ a.IsWritable)
    cs Condition.either ⟨answers_empty, isWritable_empty⟩ fun a ha c hc => ?_).1
  exact ⟨ha.1.either (h c hc) ha.2 (writable c hc), ha.2.either (writable c hc)⟩

/-- A comparison that answers has two values to compare. -/
theorem Answers.exists_yields {op : Cedar.Operator} (h : (binary op a b).Answers request entities) :
    ∃ v w, a.Yields request entities v ∧ b.Yields request entities w := by
  obtain ⟨x, t, isTest, isX⟩ := h
  simp only [test?, Option.map_eq_some_iff] at isTest
  obtain ⟨e, isExpr, rfl⟩ := isTest
  cases ha : a.toExpr? with
  | none => simp [toExpr?, ha] at isExpr
  | some left =>
    cases hb : b.toExpr? with
    | none => simp [toExpr?, ha, hb] at isExpr
    | some right =>
      simp only [toExpr?, ha, hb, Option.pure_def, Option.bind_eq_bind, Option.bind_some,
        Option.some.injEq] at isExpr
      subst isExpr
      cases isV : left.evaluate request entities with
      | error e =>
        simp only [Cedar.Expr.test, Cedar.Expr.evaluate, isV] at isX
        cases isX
      | ok v =>
        cases isW : right.evaluate request entities with
        | error e =>
          simp only [Cedar.Expr.test, Cedar.Expr.evaluate, isV, isW] at isX
          cases isX
        | ok w => exact ⟨v, w, ⟨left, ha, isV⟩, ⟨right, hb, isW⟩⟩

/-! ## Disjunctions -/

section
variable (properA : a.isProper = true) (properB : b.isProper = true)
include properA properB

end

section
variable {α : Type} {items : List α} {part : α → Condition} {one : α}
  (proper : ∀ i ∈ items, (part i).isProper = true)
  (others : ∀ i ∈ items, i ≠ one → (part i).Decides request entities false)
include proper others

end

end

end ClusterPolicy.Condition
