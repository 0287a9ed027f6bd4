import ClusterPolicy.Cedar.Evaluation

/-! Values of expressions, where every failure counts the same. -/

namespace ClusterPolicy.Cedar

namespace Value

def bool? : Value → Option Bool
  | bool b => some b
  | _ => none

def int? : Value → Option Int
  | long n => some n.toInt
  | _ => none

def text? : Value → Option (List Char)
  | string s => some s.toList
  | _ => none

def items? : Value → Option (List Value)
  | set items => some items
  | _ => none

/-- The fields of a record or of an entity. An entity that is not known has none. -/
def fields? (entities : Entities) : Value → Option (List (String × Value))
  | record fields => some fields
  | entity uid => some (((entities.find? uid).map Entity.attrs).getD [])
  | _ => none

/-- An integer, if it fits into 64 bits. -/
def ofInt? (n : Int) : Option Value :=
  if -9223372036854775808 ≤ n ∧ n ≤ 9223372036854775807 then some (.long (.ofInt n)) else none

theorem toOption_ofInt (n : Int) : (ofInt n).toOption = ofInt? n := by
  unfold ofInt ofInt? Number.long?
  simp only [Int64.toInt_minValue, Int64.toInt_maxValue]
  by_cases fits : -9223372036854775808 ≤ n ∧ n ≤ 9223372036854775807
  · rw [if_pos fits, if_pos (by omega)]
    rfl
  · rw [if_neg fits, if_neg (by omega)]
    rfl

theorem toOption_get (entities : Entities) (v : Value) (name : String) :
    (v.get entities name).toOption = (v.fields? entities).bind (List.lookup name) := by
  have attr : ∀ attrs : List (String × Value),
      (ofAttr attrs name).toOption = attrs.lookup name := by
    intro attrs
    unfold ofAttr
    cases attrs.lookup name <;> rfl
  cases v with
  | record fields => exact attr fields
  | entity uid =>
    simp only [get, fields?]
    cases entities.find? uid with
    | none => rfl
    | some e => exact attr e.attrs
  | _ => rfl

end Value

namespace Expr

/-- The value of an expression, if it has one. -/
def outcome (request : Request) (entities : Entities) (e : Expr) : Option Value :=
  (e.evaluate request entities).toOption

section
variable {request : Request} {entities : Entities} {a b c : Expr}

-- The equations are made here, once for all the proofs below.
attribute [local simp] evaluate

/-- The second operand is asked only where the first is true. -/
theorem outcome_and : (and a b).outcome request entities =
    (do
      if ← (← a.outcome request entities).bool? then
        return .bool (← (← b.outcome request entities).bool?)
      else return .bool false) := by
  simp only [outcome, evaluate]
  rcases a.evaluate request entities with _ | v
  · rfl
  · cases v with
    | bool x =>
      cases x with
      | false => rfl
      | true =>
        rcases b.evaluate request entities with _ | w
        · rfl
        · cases w <;> rfl
    | _ => rfl

theorem outcome_or : (or a b).outcome request entities =
    (do
      if ← (← a.outcome request entities).bool? then return .bool true
      else return .bool (← (← b.outcome request entities).bool?)) := by
  simp only [outcome, evaluate]
  rcases a.evaluate request entities with _ | v
  · rfl
  · cases v with
    | bool x =>
      cases x with
      | true => rfl
      | false =>
        rcases b.evaluate request entities with _ | w
        · rfl
        · cases w <;> rfl
    | _ => rfl

theorem outcome_ite : (ite c a b).outcome request entities =
    (do
      if ← (← c.outcome request entities).bool? then a.outcome request entities
      else b.outcome request entities) := by
  simp only [outcome, evaluate]
  rcases c.evaluate request entities with _ | v
  · rfl
  · cases v with
    | bool x => cases x <;> rfl
    | _ => rfl

theorem outcome_not : (not a).outcome request entities =
    (do return .bool !(← (← a.outcome request entities).bool?)) := by
  simp only [outcome, evaluate]
  rcases a.evaluate request entities with _ | v
  · rfl
  · cases v <;> rfl

theorem outcome_neg : (neg a).outcome request entities =
    (do Value.ofInt? (-(← (← a.outcome request entities).int?))) := by
  simp only [outcome, evaluate]
  rcases a.evaluate request entities with _ | v
  · rfl
  · cases v with
    | long n => exact Value.toOption_ofInt (-n.toInt)
    | _ => rfl

theorem outcome_binary {op : Operator} : (binary op a b).outcome request entities =
    (do (op.apply entities (← a.outcome request entities) (← b.outcome request entities)).toOption) := by
  simp only [outcome, evaluate]
  rcases a.evaluate request entities with _ | v
  · rfl
  · rcases b.evaluate request entities with _ | w <;> rfl

theorem outcome_like {pattern : List PatternElem} : (like a pattern).outcome request entities =
    (do return .bool (PatternElem.accepts pattern (← (← a.outcome request entities).text?))) := by
  simp only [outcome, evaluate]
  rcases a.evaluate request entities with _ | v
  · rfl
  · cases v <;> rfl

theorem outcome_access {name : String} : (access a name).outcome request entities =
    (do (← (← a.outcome request entities).fields? entities).lookup name) := by
  simp only [outcome, evaluate]
  rcases a.evaluate request entities with _ | v
  · rfl
  · exact Value.toOption_get entities v name

theorem outcome_has {name : String} : (has a name).outcome request entities =
    (do return .bool ((← (← a.outcome request entities).fields? entities).lookup name).isSome) := by
  simp only [outcome, evaluate]
  rcases a.evaluate request entities with _ | v
  · rfl
  · cases v with
    | entity uid =>
      have present : Value.hasAttr entities (.entity uid) name =
          .ok ((((entities.find? uid).map Entity.attrs).getD []).lookup name).isSome := by
        simp only [Value.hasAttr]
        cases entities.find? uid <;> rfl
      change (Value.hasAttr entities (.entity uid) name >>= fun b => .ok (Value.bool b)).toOption = _
      rw [present]
      rfl
    | _ => rfl

end

end Expr

end ClusterPolicy.Cedar
