import ClusterPolicy.Cedar.Evaluation

/-! Expressions as tests of a request. A failure counts as an answer, so that lazy connectives may be
re-associated. -/

namespace ClusterPolicy.Cedar

/-- What is asked of a request: yes, no, or a failure. -/
abbrev Test := Request → Entities → Except EvalError Bool

namespace Test

def always : Test := fun _ _ => .ok true

/-- The second is asked only if the first says yes. -/
def both (s t : Test) : Test := fun request entities =>
  s request entities >>= fun b => if b then t request entities else .ok false

/-- The second is asked only if the first says no. -/
def either (s t : Test) : Test := fun request entities =>
  s request entities >>= fun b => if b then .ok true else t request entities

def negation (t : Test) : Test := fun request entities => (t request entities).map Bool.not

/-- Lazy connectives may be re-associated: what is asked first stays first. -/
theorem both_assoc (s t u : Test) : (s.both t).both u = s.both (t.both u) := by
  funext request entities
  simp only [both]
  rcases s request entities with _ | b
  · rfl
  · cases b <;> rfl

theorem either_assoc (s t u : Test) : (s.either t).either u = s.either (t.either u) := by
  funext request entities
  simp only [either]
  rcases s request entities with _ | b
  · rfl
  · cases b <;> rfl

@[simp] theorem always_both (t : Test) : always.both t = t := rfl

@[simp] theorem both_always (t : Test) : t.both always = t := by
  funext request entities
  simp only [both, always]
  rcases t request entities with _ | b
  · rfl
  · cases b <;> rfl

section
variable {s t : Test} {request : Request} {entities : Entities}

theorem both_eq_ok_true : s.both t request entities = .ok true ↔
    s request entities = .ok true ∧ t request entities = .ok true := by
  simp only [both]
  rcases s request entities with _ | b
  · exact ⟨nofun, fun h => nomatch h.1⟩
  · cases b
    · exact ⟨nofun, fun h => nomatch h.1⟩
    · constructor
      · intro h
        exact ⟨rfl, h⟩
      · intro h
        exact h.2

theorem both_eq_ok {x y : Bool} (hs : s request entities = .ok x)
    (ht : x = true → t request entities = .ok y) : s.both t request entities = .ok (x && y) := by
  simp only [both, hs]
  cases x
  · rfl
  · exact ht rfl

theorem either_eq_ok {x y : Bool} (hs : s request entities = .ok x)
    (ht : t request entities = .ok y) : s.either t request entities = .ok (x || y) := by
  simp only [either, hs]
  cases x
  · exact ht
  · rfl

end

end Test

namespace Expr

/-- The expression as a test; it fails if its value is no boolean. -/
def test (e : Expr) : Test := fun request entities => e.evaluate request entities >>= Value.asBool

@[simp] theorem test_true : (bool true).test = Test.always := rfl

/-- What `&&` asks is what its operands ask, one after the other. -/
theorem test_and (a b : Expr) : (and a b).test = a.test.both b.test := by
  funext request entities
  simp only [test, Test.both, evaluate, bind_assoc]
  apply bind_congr
  intro v
  apply bind_congr
  intro x
  cases x
  · rfl
  · rcases b.evaluate request entities with _ | w
    · rfl
    · cases w <;> rfl

theorem test_or (a b : Expr) : (or a b).test = a.test.either b.test := by
  funext request entities
  simp only [test, Test.either, evaluate, bind_assoc]
  apply bind_congr
  intro v
  apply bind_congr
  intro x
  cases x
  · rcases b.evaluate request entities with _ | w
    · rfl
    · cases w <;> rfl
  · rfl

theorem test_not (a : Expr) : (not a).test = a.test.negation := by
  funext request entities
  simp only [test, Test.negation, evaluate]
  rcases a.evaluate request entities with _ | v
  · rfl
  · cases v <;> rfl

section
variable (request : Request) (entities : Entities) (a b : Expr)

/-- The value of a connective is its answer, if it has one. -/
theorem evaluate_and : (and a b).evaluate request entities =
    ((and a b).test request entities).map Value.bool := by
  simp only [test, evaluate]
  rcases a.evaluate request entities with _ | v
  · rfl
  · cases v with
    | bool x =>
      cases x with
      | false => rfl
      | true =>
        rcases b.evaluate request entities with _ | w
        · rfl
        · cases w <;> rfl
    | _ => rfl

theorem evaluate_or : (or a b).evaluate request entities =
    ((or a b).test request entities).map Value.bool := by
  simp only [test, evaluate]
  rcases a.evaluate request entities with _ | v
  · rfl
  · cases v with
    | bool x =>
      cases x with
      | true => rfl
      | false =>
        rcases b.evaluate request entities with _ | w
        · rfl
        · cases w <;> rfl
    | _ => rfl

end

section
variable {request : Request} {entities : Entities} {e : Expr}

theorem negation_test_eq_true :
    e.test.negation request entities = .ok true ↔ e.evaluate request entities = .ok (.bool false) := by
  unfold Test.negation test
  rcases e.evaluate request entities with _ | v
  · exact ⟨nofun, nofun⟩
  · cases v with
    | bool b =>
      cases b with
      | false => exact iff_of_true rfl rfl
      | true => exact ⟨nofun, nofun⟩
    | _ => exact ⟨nofun, nofun⟩

theorem negation_test_eq_error : (∃ error, e.test.negation request entities = .error error) ↔
    ∀ b, e.evaluate request entities ≠ .ok (.bool b) := by
  unfold Test.negation test
  rcases e.evaluate request entities with error | v
  · exact iff_of_true ⟨error, rfl⟩ nofun
  · cases v with
    | bool b => exact iff_of_false nofun fun none => none b rfl
    | _ => exact iff_of_true ⟨_, rfl⟩ nofun

end

end Expr

end ClusterPolicy.Cedar
