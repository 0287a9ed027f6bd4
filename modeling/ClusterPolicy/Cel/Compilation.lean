import ClusterPolicy.Cel.Expr
import ClusterPolicy.Condition
import ClusterPolicy.Number.Long
import ClusterPolicy.Number.Places
import ClusterPolicy.Number.Shortest
import ClusterPolicy.Text.Utf8

/-! Conditions that mean what an expression means. An expression with a part that has no such condition
is refused as a whole. -/

namespace ClusterPolicy.Cel

open Number (Double)

/-- Why an expression has no condition. -/
inductive Obstacle
  | comprehension
  | message (type : String)
  | division
  | modulo
  | size
  | index
  | matching
  | doubleConversion
  | unknownFunction (name : String)
  | arity (function : String) (expected actual : Nat)
  | missingReceiver (function : String)
  | nonLiteralPattern (function : String)
  | nullLiteral
  | integerOverflow (value : UInt64)
  | unrepresentableDouble (value : Double)
  | multiEntryMap
  deriving DecidableEq, Repr

def Obstacle.text : Obstacle → String
  | comprehension => "cedar doesn't support comprehensions"
  | message type => "cedar doesn't support struct construction (" ++ type ++ ")"
  | division => "cedar doesn't support division"
  | modulo => "cedar doesn't support modulo"
  | size => "cedar doesn't support a len/size function"
  | index => "cedar doesn't support array indexing"
  | matching => "cedar doesn't support RE2 matching"
  | doubleConversion => "double() conversion requires manual translation to decimal()"
  | unknownFunction name => "unknown function: " ++ name
  | arity function expected actual =>
    function ++ " expects " ++ expected.repr ++ " argument(s), got " ++ actual.repr
  | missingReceiver function => function ++ "() must be called as a method"
  | nonLiteralPattern function => "can only translate " ++ function ++ "() using a string literal"
  | nullLiteral => "null has no Cedar equivalent"
  | integerOverflow value => "integer literal " ++ value.toNat.repr ++ " exceeds the Cedar long range"
  | unrepresentableDouble value =>
    "double literal " ++ value.text ++ " cannot be represented as a Cedar decimal"
  | multiEntryMap => "map literals with more than one entry cannot be expressed"

/-- Where a condition may not mean exactly what its expression means. -/
inductive Warning
  | ambiguousComparison (operator decimalMethod : String)
  | decimalLiteral (value : Double) (decimal : String)
  deriving DecidableEq, Repr

def Warning.text : Warning → String
  | ambiguousComparison operator decimalMethod =>
    "validate use of " ++ operator ++ " operator, should use ." ++ decimalMethod ++ "() for decimals"
  | decimalLiteral value decimal =>
    "possibly truncating double " ++ value.text ++ " to decimal " ++ decimal

/-- A result with the warnings on the way to it, in order. -/
def Compilation (α : Type) := Except Obstacle (α × List Warning)

namespace Compilation

instance : Monad Compilation where
  pure a := .ok (a, [])
  bind t f :=
    match t with
    | .error obstacle => .error obstacle
    | .ok (a, before) =>
      match f a with
      | .error obstacle => .error obstacle
      | .ok (b, after) => .ok (b, before ++ after)

def refuse {α : Type} (obstacle : Obstacle) : Compilation α := .error obstacle

def warn (warning : Warning) : Compilation Unit := .ok ((), [warning])

def inOrder {α : Type} : List (Compilation α) → Compilation (List α)
  | [] => return []
  | t :: rest => return (← t) :: (← inOrder rest)

end Compilation

open Compilation

/-- The greatest whole number that a decimal literal can stand for. -/
def decimalMax : Nat := 922337203685477

/-- At most four digits behind the point, and at least one. -/
def decimalText (x : Double) : String :=
  let kept := (x.fixed 4).reverse.dropWhile (· = '0')
  String.ofList ((if kept.head? = some '.' then '0' :: kept else kept).reverse)

def Literal.compile : Literal → Compilation Condition
  | bool b => return .bool b
  | int n => return .long n
  | uint n =>
    match Number.long? n.toNat with
    | some v => return .long v
    | none => refuse (.integerOverflow n)
  | double x => do
    if !x.isFinite || x.exceeds decimalMax then refuse (.unrepresentableDouble x)
    else
      warn (.decimalLiteral x (decimalText x))
      return .decimal (decimalText x)
  | string s => return .string s
  | bytes b => return .string (String.ofList (Text.decodeLossy b))
  | null => refuse .nullLiteral

def identCondition (name : String) : Condition :=
  if name = "object" then .resource else .access .context name

/-- The functions that are known, by what they become. -/
inductive Meaning
  | unary (condition : Condition → Condition)
  | binary (condition : Condition → Condition → Condition)
  | ordering (operator : Cedar.Operator) (symbol decimalMethod : String)
  | conditional
  | pattern (ofText : String → Pattern)
  | refused (obstacle : Obstacle)

def Meaning.of (function : String) : Meaning :=
  match function with
  | "_&&_" => binary .and
  | "_||_" => binary .or
  | "!_" => unary .not
  | "-_" => unary .neg
  | "_==_" => binary (.binary .equal)
  | "_!=_" => binary (.binary .notEqual)
  | "_<_" => ordering .less "<" "lessThan"
  | "_<=_" => ordering .lessOrEqual "<=" "lessThanOrEqual"
  | "_>_" => ordering .greater ">" "greaterThan"
  | "_>=_" => ordering .greaterOrEqual ">=" "greaterThanOrEqual"
  | "_+_" => binary (.binary .add)
  | "_-_" => binary (.binary .subtract)
  | "_*_" => binary (.binary .multiply)
  | "@in" => binary fun element collection => .contains collection element
  | "_?_:_" => conditional
  | "startsWith" => pattern .startingWith
  | "endsWith" => pattern .endingWith
  | "contains" => pattern .containing
  | "_/_" => refused .division
  | "_%_" => refused .modulo
  | "_[_]" => refused .index
  | "size" => refused .size
  | "matches" => refused .matching
  | "double" => refused .doubleConversion
  | name => refused (.unknownFunction name)

namespace Expr

def stringValue? : Expr → Option String
  | literal (.string s) => some s
  | _ => none

/-- What a call makes of its compiled arguments. The receiver of a method counts only for the
functions on strings. -/
def compileCall (function : String) (receiver : Option (Compilation Condition)) (arguments : List Expr)
    (compiled : List (Compilation Condition)) : Compilation Condition :=
  let wrongArity (expected : Nat) : Compilation Condition :=
    refuse (.arity function expected arguments.length)
  match Meaning.of function with
  | .unary condition =>
    match compiled with
    | [a] => return condition (← a)
    | _ => wrongArity 1
  | .binary condition =>
    match compiled with
    | [a, b] => return condition (← a) (← b)
    | _ => wrongArity 2
  | .ordering operator symbol decimalMethod =>
    match compiled with
    | [a, b] => do
      let a ← a
      let b ← b
      warn (.ambiguousComparison symbol decimalMethod)
      return .binary operator a b
    | _ => wrongArity 2
  | .conditional =>
    match compiled with
    | [a, b, c] => return .ite (← a) (← b) (← c)
    | _ => wrongArity 3
  | .pattern ofText =>
    match receiver with
    | none => refuse (.missingReceiver function)
    | some target =>
      match arguments with
      | [argument] =>
        match argument.stringValue? with
        | some text => return .like (← target) (ofText text)
        | none => refuse (.nonLiteralPattern function)
      | _ => wrongArity 1
  | .refused obstacle => refuse obstacle

mutual

def compile : Expr → Compilation Condition
  | literal value => value.compile
  | ident name => return identCondition name
  | select operand field false => return .access (← operand.compile) field
  | select operand field true => do
    let guards ← operand.presence
    return .both guards (.has (← operand.compile) field)
  | call function arguments => compileCall function none arguments (compileEach arguments)
  | method target function arguments =>
    compileCall function (some target.compile) arguments (compileEach arguments)
  | list items => return .set (← inOrder (compileEach items))
  | map entries => compileMap entries
  | message type _ => refuse (.message type)
  | comprehension .. => refuse .comprehension

/-- That every field on the way to a selection is present. -/
def presence : Expr → Compilation Condition
  | ident name => return if name = "object" then .empty else .has .context name
  | select operand field false => do
    let guards ← operand.presence
    return .both guards (.has (← operand.compile) field)
  | _ => return .empty

def compileEach : List Expr → List (Compilation Condition)
  | [] => []
  | e :: rest => e.compile :: compileEach rest

def compileMap : List (Expr × Expr) → Compilation Condition
  | [] => return .record []
  | [(key, value)] => return .record [("key", ← key.compile), ("value", ← value.compile)]
  | _ => refuse .multiEntryMap

end

end Expr

end ClusterPolicy.Cel
