import ClusterPolicy.Cedar.Name
import ClusterPolicy.Cedar.Quoted

namespace ClusterPolicy.Cedar

inductive Var
  | principal
  | action
  | resource
  | context
  deriving DecidableEq, Repr

namespace Var

def name : Var → String
  | principal => "principal"
  | action => "action"
  | resource => "resource"
  | context => "context"

def all : List Var := [principal, action, resource, context]

def ofName? (name : String) : Option Var := all.find? (·.name = name)

end Var

/-- The operators that evaluate both operands. -/
inductive Operator
  | equal
  | notEqual
  | less
  | lessOrEqual
  | greater
  | greaterOrEqual
  | member
  | add
  | subtract
  | multiply
  | contains
  deriving DecidableEq, Repr

inductive Expr
  | bool (value : Bool)
  | long (value : Int64)
  | string (value : String)
  | entity (uid : EntityUid)
  | var (var : Var)
  | and (left right : Expr)
  | or (left right : Expr)
  | not (operand : Expr)
  | neg (operand : Expr)
  | binary (op : Operator) (left right : Expr)
  | like (operand : Expr) (pattern : List PatternElem)
  | has (operand : Expr) (attr : String)
  | access (operand : Expr) (attr : String)
  | is (operand : Expr) (type : String)
  | ite (condition yes no : Expr)
  | set (items : List Expr)
  | record (fields : List (String × Expr))
  | decimal (argument : Expr)
  deriving Inhabited

end ClusterPolicy.Cedar
