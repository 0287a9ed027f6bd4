import ClusterPolicy.Cedar.Entity
import ClusterPolicy.Cedar.Expr

namespace ClusterPolicy.Cedar

inductive EvalError
  | typeMismatch
  | missingAttribute (name : String)
  | unknownEntity (uid : EntityUid)
  | overflow
  | invalidDecimal (text : String)
  deriving DecidableEq, Repr

structure Request where
  principal : EntityUid
  action : EntityUid
  resource : EntityUid
  context : List (String × Value)

abbrev Evaluation := Except EvalError Value

namespace Value

def asBool : Value → Except EvalError Bool
  | bool b => .ok b
  | _ => .error .typeMismatch

def asLong : Value → Except EvalError Int64
  | long n => .ok n
  | _ => .error .typeMismatch

def asString : Value → Except EvalError String
  | string s => .ok s
  | _ => .error .typeMismatch

def asEntity : Value → Except EvalError EntityUid
  | entity uid => .ok uid
  | _ => .error .typeMismatch

def asSet : Value → Except EvalError (List Value)
  | set items => .ok items
  | _ => .error .typeMismatch

/-- An entity, or a set of entities. -/
def asGroups : Value → Except EvalError (List EntityUid)
  | entity uid => .ok [uid]
  | set items => items.mapM asEntity
  | _ => .error .typeMismatch

/-- An integer of 64 bits. -/
def ofInt (n : Int) : Evaluation :=
  match Number.long? n with
  | some v => .ok (.long v)
  | none => .error .overflow

def ofAttr (attrs : List (String × Value)) (name : String) : Evaluation :=
  match attrs.lookup name with
  | some v => .ok v
  | none => .error (.missingAttribute name)

def get (entities : Entities) (v : Value) (name : String) : Evaluation :=
  match v with
  | record fields => ofAttr fields name
  | entity uid =>
    match entities.find? uid with
    | some e => ofAttr e.attrs name
    | none => .error (.unknownEntity uid)
  | _ => .error .typeMismatch

/-- An unknown entity has no attributes. -/
def hasAttr (entities : Entities) (v : Value) (name : String) : Except EvalError Bool :=
  match v with
  | record fields => .ok (fields.lookup name).isSome
  | entity uid => .ok ((entities.find? uid).any fun e => (e.attrs.lookup name).isSome)
  | _ => .error .typeMismatch

end Value

namespace PatternElem

/-- Whether `f` accepts what is left after leaving out some first characters. -/
def anySuffix (f : List Char → Bool) : List Char → Bool
  | [] => f []
  | c :: rest => f (c :: rest) || anySuffix f rest

def accepts : List PatternElem → List Char → Bool
  | [], s => s.isEmpty
  | wildcard :: pattern, s => anySuffix (accepts pattern) s
  | char c :: pattern, d :: s => c = d && accepts pattern s
  | char _ :: _, [] => false

end PatternElem

namespace Operator

def compare (a b : Value) (test : Int64 → Int64 → Bool) : Evaluation := do
  let a ← a.asLong
  let b ← b.asLong
  return .bool (test a b)

def compute (a b : Value) (operation : Int → Int → Int) : Evaluation := do
  let a ← a.asLong
  let b ← b.asLong
  Value.ofInt (operation a.toInt b.toInt)

def apply (entities : Entities) (op : Operator) (a b : Value) : Evaluation :=
  match op with
  | equal => .ok (.bool (a.same b))
  | notEqual => .ok (.bool !(a.same b))
  | less => compare a b fun a b => a < b
  | lessOrEqual => compare a b fun a b => a ≤ b
  | greater => compare a b fun a b => b < a
  | greaterOrEqual => compare a b fun a b => b ≤ a
  | add => compute a b (· + ·)
  | subtract => compute a b (· - ·)
  | multiply => compute a b (· * ·)
  | member => do
    let uid ← a.asEntity
    let groups ← b.asGroups
    return .bool (groups.any fun group => entities.reaches uid group)
  | contains => do
    let items ← a.asSet
    return .bool (items.any fun item => item.same b)

end Operator

def Request.value (request : Request) : Var → Value
  | .principal => .entity request.principal
  | .action => .entity request.action
  | .resource => .entity request.resource
  | .context => .record request.context

namespace Expr

variable (request : Request) (entities : Entities)

mutual

def evaluate : Expr → Evaluation
  | bool b => .ok (.bool b)
  | long n => .ok (.long n)
  | string s => .ok (.string s)
  | entity uid => .ok (.entity uid)
  | var v => .ok (request.value v)
  | and a b => do
    if ← (← a.evaluate).asBool then return .bool (← (← b.evaluate).asBool) else return .bool false
  | or a b => do
    if ← (← a.evaluate).asBool then return .bool true else return .bool (← (← b.evaluate).asBool)
  | not a => return .bool !(← (← a.evaluate).asBool)
  | neg a => do Value.ofInt (-(← (← a.evaluate).asLong).toInt)
  | binary op a b => do op.apply entities (← a.evaluate) (← b.evaluate)
  | like a pattern => return .bool (PatternElem.accepts pattern (← (← a.evaluate).asString).toList)
  | has a attr => return .bool (← (← a.evaluate).hasAttr entities attr)
  | access a attr => do (← a.evaluate).get entities attr
  | is a type => return .bool ((← (← a.evaluate).asEntity).type == type)
  | ite c a b => do if ← (← c.evaluate).asBool then a.evaluate else b.evaluate
  | set items => return .set (← evaluateItems items)
  | record fields => return .record (← evaluateFields fields)
  | decimal argument => do
    let text ← (← argument.evaluate).asString
    match Value.decimalOf? text with
    | some v => .ok v
    | none => .error (.invalidDecimal text)

def evaluateItems : List Expr → Except EvalError (List Value)
  | [] => .ok []
  | e :: rest => return (← e.evaluate) :: (← evaluateItems rest)

def evaluateFields : List (String × Expr) → Except EvalError (List (String × Value))
  | [] => .ok []
  | (key, e) :: rest => return (key, ← e.evaluate) :: (← evaluateFields rest)

end

end Expr

end ClusterPolicy.Cedar
