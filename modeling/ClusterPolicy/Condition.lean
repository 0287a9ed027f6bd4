import ClusterPolicy.Cedar.Expr

/-! Conditions as the compilers build them: expressions with an identity for conjunction and
disjunction. -/

namespace ClusterPolicy

open Cedar (EntityUid Operator Var)

inductive PatternPart
  | wildcard
  | literal (text : String)
  deriving DecidableEq, Repr

abbrev Pattern := List PatternPart

namespace Pattern

def startingWith (text : String) : Pattern := [.literal text, .wildcard]

def endingWith (text : String) : Pattern := [.wildcard, .literal text]

def containing (text : String) : Pattern := [.wildcard, .literal text, .wildcard]

def elems (pattern : Pattern) : List Cedar.PatternElem :=
  pattern.flatMap fun
    | .wildcard => [.wildcard]
    | .literal text => text.toList.map .char

end Pattern

inductive Condition
  | empty
  | var (var : Var)
  | bool (value : Bool)
  | long (value : Int64)
  | string (value : String)
  | decimal (text : String)
  | entity (uid : EntityUid)
  | and (left right : Condition)
  | or (left right : Condition)
  | not (operand : Condition)
  | neg (operand : Condition)
  | binary (op : Operator) (left right : Condition)
  | like (operand : Condition) (pattern : Pattern)
  | has (operand : Condition) (attr : String)
  | access (operand : Condition) (attr : String)
  | is (operand : Condition) (type : String)
  | ite (condition yes no : Condition)
  | set (items : List Condition)
  | record (fields : List (String × Condition))
  deriving Inhabited

namespace Condition

def principal : Condition := .var .principal

def resource : Condition := .var .resource

def context : Condition := .var .context

def strings (items : List String) : Condition := .set (items.map .string)

def equal (left right : Condition) : Condition := .binary .equal left right

def member (element group : Condition) : Condition := .binary .member element group

def contains (set element : Condition) : Condition := .binary .contains set element

def isEmpty : Condition → Bool
  | empty => true
  | _ => false

/-- Conjunction with `empty` as its identity. A conjunction on the right is re-associated to the left,
so a chain needs no parentheses. -/
def both : Condition → Condition → Condition
  | empty, right => right
  | left, empty => left
  | left, and b c => both (both left b) c
  | left, right => and left right

/-- Disjunction with `empty` as its identity, re-associated like `both`. -/
def either : Condition → Condition → Condition
  | empty, right => right
  | left, empty => left
  | left, or b c => either (either left b) c
  | left, right => or left right

def all (conditions : List Condition) : Condition := conditions.foldl both empty

def any (conditions : List Condition) : Condition := conditions.foldl either empty

end Condition

end ClusterPolicy
