import ClusterPolicy.Cedar.Name
import ClusterPolicy.Number.Long
import ClusterPolicy.Text.Cut
import ClusterPolicy.Text.Digits

namespace ClusterPolicy.Cedar

/-- The fields of a record have distinct names, in no order that counts. A decimal is given in
ten-thousandths. -/
inductive Value
  | bool (value : Bool)
  | long (value : Int64)
  | string (value : String)
  | entity (uid : EntityUid)
  | set (items : List Value)
  | record (fields : List (String × Value))
  | decimal (value : Int64)
  deriving Inhabited

namespace Value

mutual

/-- Equality of what values stand for: a set has no order and no repetitions, and a record no order. -/
def same : Value → Value → Bool
  | bool a, bool b => a == b
  | long a, long b => a == b
  | string a, string b => a == b
  | entity a, entity b => a == b
  | decimal a, decimal b => a == b
  | set xs, set ys => covered xs ys && ys.all fun y => anySame xs y
  | record xs, record ys => xs.length == ys.length && fieldsCovered xs ys
  | _, _ => false

/-- Whether each of the first is among the second. -/
def covered : List Value → List Value → Bool
  | [], _ => true
  | x :: xs, ys => (ys.any fun y => same x y) && covered xs ys

def anySame : List Value → Value → Bool
  | [], _ => false
  | x :: xs, y => same x y || anySame xs y

def fieldsCovered : List (String × Value) → List (String × Value) → Bool
  | [], _ => true
  | (key, x) :: xs, ys => ((ys.lookup key).any fun y => same x y) && fieldsCovered xs ys

end

/-- A decimal has one to four digits behind its point. -/
def decimalOf? (text : String) : Option Value := do
  let (sign, magnitude) : Int × List Char :=
    match text.toList with
    | '-' :: rest => (-1, rest)
    | rest => (1, rest)
  let (whole, places) ← Text.cut? '.' magnitude
  if places.isEmpty || 4 < places.length then none
  else
    let whole ← Text.natural? 10 whole
    let behind ← Text.natural? 10 places
    let value : Nat := whole * 10000 + behind * .pow 10 (4 - places.length)
    return .decimal (← Number.long? (sign * value))

end Value

end ClusterPolicy.Cedar
