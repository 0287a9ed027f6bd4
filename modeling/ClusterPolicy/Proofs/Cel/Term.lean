import ClusterPolicy.Cel.Expr
import ClusterPolicy.Proofs.Cedar.Outcome
import Mathlib.Data.List.Infix

/-! The part of the expression language that has a meaning of its own here. A list is written only as
what an element may be in. -/

namespace ClusterPolicy.Cel

open Cedar (Entities Request Value)

inductive Order
  | less
  | lessOrEqual
  | greater
  | greaterOrEqual
  deriving DecidableEq, Repr

namespace Order

def operator : Order → Operator
  | less => .less
  | lessOrEqual => .lessOrEqual
  | greater => .greater
  | greaterOrEqual => .greaterOrEqual

def holds : Order → Int → Int → Bool
  | less, m, n => m < n
  | lessOrEqual, m, n => m ≤ n
  | greater, m, n => n < m
  | greaterOrEqual, m, n => n ≤ m

end Order

inductive Arithmetic
  | add
  | subtract
  | multiply
  deriving DecidableEq, Repr

namespace Arithmetic

def operator : Arithmetic → Operator
  | add => .add
  | subtract => .subtract
  | multiply => .multiply

def result : Arithmetic → Int → Int → Int
  | add, m, n => m + n
  | subtract, m, n => m - n
  | multiply, m, n => m * n

end Arithmetic

inductive TextTest
  | startsWith
  | endsWith
  | contains
  deriving DecidableEq, Repr

namespace TextTest

def function : TextTest → String
  | startsWith => "startsWith"
  | endsWith => "endsWith"
  | contains => "contains"

def holds (test : TextTest) (part whole : List Char) : Bool :=
  match test with
  | startsWith => decide (part <+: whole)
  | endsWith => decide (part <:+ whole)
  | contains => decide (part <:+: whole)

end TextTest

inductive Term
  | bool (value : Bool)
  | int (value : Int64)
  | string (value : String)
  | ident (name : String)
  | select (operand : Term) (field : String)
  /-- Whether a field is present at the end of a path of fields -/
  | has (root : String) (path : List String) (field : String)
  | and (left right : Term)
  | or (left right : Term)
  | not (operand : Term)
  | neg (operand : Term)
  | equal (left right : Term)
  | notEqual (left right : Term)
  | order (op : Order) (left right : Term)
  | arithmetic (op : Arithmetic) (left right : Term)
  | ite (condition yes no : Term)
  | test (test : TextTest) (operand : Term) (text : String)
  | member (element collection : Term)
  | among (element : Term) (items : List Term)
  deriving Inhabited

/-- The selection of a path of fields, one behind the other. -/
def selection (root : String) (path : List String) : Expr :=
  path.foldl (fun operand field => .select operand field false) (.ident root)

namespace Term

mutual

def expr : Term → Expr
  | bool b => .literal (.bool b)
  | int n => .literal (.int n)
  | string s => .literal (.string s)
  | ident name => .ident name
  | select a field => .select a.expr field false
  | has root path field => .select (selection root path) field true
  | and a b => .operation .and a.expr b.expr
  | or a b => .operation .or a.expr b.expr
  | not a => .call "!_" [a.expr]
  | neg a => .call "-_" [a.expr]
  | equal a b => .operation .equal a.expr b.expr
  | notEqual a b => .operation .notEqual a.expr b.expr
  | order op a b => .operation op.operator a.expr b.expr
  | arithmetic op a b => .operation op.operator a.expr b.expr
  | ite c a b => .call "_?_:_" [c.expr, a.expr, b.expr]
  | test t a text => .method a.expr t.function [.literal (.string text)]
  | member a b => .operation .member a.expr b.expr
  | among a items => .operation .member a.expr (.list (exprs items))

def exprs : List Term → List Expr
  | [] => []
  | t :: rest => t.expr :: exprs rest

end

end Term

/-! ## Values of terms -/

/-- A step along a path of fields. Nothing is behind a field that is missing, and a value that has no
fields at all makes the whole fail. -/
def step (entities : Entities) (reached : Option Value) (field : String) : Option (Option Value) :=
  match reached with
  | some v => return (← v.fields? entities).lookup field
  | none => return none

/-- The value at the end of a path of fields, or none if a field is missing on the way. -/
def walk (entities : Entities) (v : Value) (path : List String) : Option (Option Value) :=
  path.foldlM (step entities) (some v)

/-- The name `object` is that of the resource; other names are fields of the context. -/
def walkFrom (request : Request) (entities : Entities) (root : String) (path : List String) :
    Option (Option Value) :=
  if root = "object" then walk entities (.entity request.resource) path
  else walk entities (.record request.context) (root :: path)

namespace Term

variable (request : Request) (entities : Entities)

mutual

/-- The value of a term on a request, if it has one. -/
def evaluate : Term → Option Value
  | bool b => some (.bool b)
  | int n => some (.long n)
  | string s => some (.string s)
  | ident name =>
    if name = "object" then some (.entity request.resource) else request.context.lookup name
  | select a field => do (← (← a.evaluate).fields? entities).lookup field
  | has root path field => return .bool (← walkFrom request entities root (path ++ [field])).isSome
  | and a b => do
    if ← (← a.evaluate).bool? then return .bool (← (← b.evaluate).bool?) else return .bool false
  | or a b => do
    if ← (← a.evaluate).bool? then return .bool true else return .bool (← (← b.evaluate).bool?)
  | not a => return .bool !(← (← a.evaluate).bool?)
  | neg a => do Value.ofInt? (-(← (← a.evaluate).int?))
  | equal a b => return .bool ((← a.evaluate).same (← b.evaluate))
  | notEqual a b => return .bool !((← a.evaluate).same (← b.evaluate))
  | order op a b => do
    let v ← a.evaluate
    let w ← b.evaluate
    return .bool (op.holds (← v.int?) (← w.int?))
  | arithmetic op a b => do
    let v ← a.evaluate
    let w ← b.evaluate
    Value.ofInt? (op.result (← v.int?) (← w.int?))
  | ite c a b => do if ← (← c.evaluate).bool? then a.evaluate else b.evaluate
  | test t a text => return .bool (t.holds text.toList (← (← a.evaluate).text?))
  | member a b => do
    let v ← a.evaluate
    return .bool ((← (← b.evaluate).items?).any fun item => item.same v)
  | among a items => do
    let v ← a.evaluate
    return .bool ((← evaluateEach items).any fun item => item.same v)

def evaluateEach : List Term → Option (List Value)
  | [] => some []
  | t :: rest => return (← t.evaluate) :: (← evaluateEach rest)

end

end Term

end ClusterPolicy.Cel
