import ClusterPolicy.Number.Double

/-! Expressions of the Common Expression Language. An operator is a call of the function it is named
after, such as `_&&_` or `@in`. -/

namespace ClusterPolicy.Cel

open Number (Double)

inductive Literal
  | bool (value : Bool)
  | int (value : Int64)
  | uint (value : UInt64)
  | double (value : Double)
  | string (value : String)
  | bytes (value : List UInt8)
  | null
  deriving DecidableEq, Repr

/-- The methods that bind a variable. -/
inductive Macro
  | all
  | existsAny
  | existsOne
  | map
  | filter
  deriving DecidableEq, Repr

namespace Macro

def name : Macro → String
  | all => "all"
  | existsAny => "exists"
  | existsOne => "exists_one"
  | map => "map"
  | filter => "filter"

def ofName? (name : String) : Option Macro :=
  [all, existsAny, existsOne, map, filter].find? (·.name = name)

/-- Whether a macro takes this many arguments, its variable included. -/
def takes (m : Macro) (arguments : Nat) : Bool := arguments == 2 || (m == map && arguments == 3)

end Macro

inductive Operator
  | or
  | and
  | lessOrEqual
  | less
  | greaterOrEqual
  | greater
  | equal
  | notEqual
  | member
  | add
  | subtract
  | multiply
  | divide
  | modulo
  deriving DecidableEq, Repr

namespace Operator

def symbol : Operator → String
  | or => "||"
  | and => "&&"
  | lessOrEqual => "<="
  | less => "<"
  | greaterOrEqual => ">="
  | greater => ">"
  | equal => "=="
  | notEqual => "!="
  | member => "in"
  | add => "+"
  | subtract => "-"
  | multiply => "*"
  | divide => "/"
  | modulo => "%"

def function : Operator → String
  | member => "@in"
  | op => "_" ++ op.symbol ++ "_"

end Operator

/-- A field selection that is `tested` asks whether the field is present. -/
inductive Expr
  | literal (value : Literal)
  | ident (name : String)
  | select (operand : Expr) (field : String) (tested : Bool)
  | call (function : String) (arguments : List Expr)
  | method (target : Expr) (function : String) (arguments : List Expr)
  | list (items : List Expr)
  | map (entries : List (Expr × Expr))
  | message (type : String) (fields : List (String × Expr))
  | comprehension (kind : Macro) (range : Expr) (variableName : String) (body : List Expr)
  deriving Inhabited

namespace Expr

def operation (op : Operator) (left right : Expr) : Expr := call op.function [left, right]

end Expr

end ClusterPolicy.Cel
