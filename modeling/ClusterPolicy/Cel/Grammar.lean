import ClusterPolicy.Cel.Literal

/-!
The grammar of expressions.

    expression = or ["?" or ":" expression]
    or         = and ("||" and)*
    and        = relation ("&&" relation)*
    relation   = sum (("<=" | "<" | ">=" | ">" | "==" | "!=" | "in") sum)*
    sum        = product (("+" | "-") product)*
    product    = unary (("*" | "/" | "%") unary)*
    unary      = "!"+ member | "-"+ member | member
    member     = primary ("." IDENT ["(" arguments ")"] | "[" expression "]" | "{" fields "}")*

Every parser up to `conditional` takes the parser of nested expressions; `expression` ties the knot
over the nesting that is left.
-/

namespace ClusterPolicy.Cel

namespace Expr

/-- The dotted name that an expression can give to a message type. -/
def typePath? : Expr → Option String
  | ident name => some name
  | select operand field false => (typePath? operand).map fun path => path ++ "." ++ field
  | _ => none

/-- A method call, or the comprehension that a macro stands for. -/
def ofMethod (target : Expr) (function : String) (arguments : List Expr) : Expr :=
  match Macro.ofName? function, arguments with
  | some kind, .ident variableName :: body =>
    if kind.takes arguments.length then comprehension kind target variableName body
    else method target function arguments
  | _, _ => method target function arguments

/-- A minus before a number belongs to the number. The least integer has no negation. -/
def negate? : Expr → Option Expr
  | literal (.int n) => if n = .minValue then none else some (literal (.int (-n)))
  | literal (.double x) => some (literal (.double x.negate))
  | operand => some (call "-_" [operand])

end Expr

namespace Parser

variable (nested : Parser Expr)

def arguments : Parser (List Expr) := do
  symbol "("
  let values ← items (symbol ",") nested
  commit (symbol ")")
  return values

def closeWith (text : String) : Parser Unit := do
  discard (symbol ",").optional
  commit (symbol text)

def fields : Parser (List (String × Expr)) := do
  symbol "\x7b"
  let values ← items (symbol ",") do
    let name ← ident
    commit (symbol ":")
    return (name, ← nested.commit)
  closeWith "\x7d"
  return values

def parenthesized : Parser Expr := do
  exactly ['(']
  let value ← nested.commit
  commit (symbol ")")
  return value

def list : Parser Expr := do
  exactly ['[']
  let values ← items (symbol ",") nested
  closeWith "]"
  return .list values

def map : Parser Expr := do
  exactly ['\x7b']
  let values ← items (symbol ",") do
    let key ← nested
    commit (symbol ":")
    return (key, ← nested.commit)
  closeWith "\x7d"
  return .map values

def identOrCall : Parser Expr := do
  let name ← ident
  match ← (arguments nested).optional with
  | none => return .ident name
  | some values =>
    if name = "has" then
      match values with
      | [.select operand field false] => return .select operand field true
      | _ => fail .hasArgument
    else return .call name values

def primary : Parser Expr := do
  blanks
  firstOf (identOrCall nested)
    [parenthesized nested, list nested, map nested, Expr.literal <$> literal]

/-- The member that one more suffix makes of `operand`. -/
def suffix? (operand : Expr) : Parser (Option Expr) := do
  match ← (symbol ".").optional with
  | some _ =>
    let field ← ident.commit
    match ← (arguments nested).optional with
    | some values => return some (.ofMethod operand field values)
    | none => return some (.select operand field false)
  | none =>
    match ← optional (symbol "[" *> nested.commit <* commit (symbol "]")) with
    | some index => return some (.call "_[_]" [operand, index])
    | none =>
      match operand.typePath? with
      | none => return none
      | some type => return (← (fields nested).optional).map (.message type)

def suffixes (operand : Expr) : Nat → Parser Expr
  | 0 => pure operand
  | n + 1 => do
    match ← suffix? nested operand with
    | none => return operand
    | some longer => suffixes longer n

def member : Parser Expr := do
  let operand ← primary nested
  bounded (suffixes nested operand)

/-- What is read behind so many minus signs. -/
def negated (signs : Nat) : Parser Expr :=
  if signs = 0 then member nested
  else if signs % 2 = 0 then (member nested).commit
  else do
    match ← negatedInteger.optional with
    | some value => return .literal value
    | none =>
      match (← (member nested).commit).negate? with
      | some e => return e
      | none => overflow

def unary : Parser Expr := do
  let nots ← count (symbol "!")
  if nots ≠ 0 then
    let operand ← (member nested).commit
    return if nots % 2 = 1 then .call "!_" [operand] else operand
  else negated nested (← count (symbol "-"))

def operatorOf (operators : List Operator) : Parser Operator :=
  firstOf (fun s => .miss s) (operators.map fun op =>
    constant op (if op = .member then keyword op.symbol else symbol op.symbol))

def chain (operators : List Operator) (operand : Parser Expr) (left : Expr) : Nat → Parser Expr
  | 0 => pure left
  | n + 1 => do
    match ← (operatorOf operators).optional with
    | none => return left
    | some op => chain operators operand (.operation op left (← operand.commit)) n

/-- Operators of one level, which group to the left. -/
def level (operators : List Operator) (operand : Parser Expr) : Parser Expr := do
  let left ← operand
  bounded (chain operators operand left)

def product : Parser Expr := level [.multiply, .divide, .modulo] (unary nested)

def sum : Parser Expr := level [.add, .subtract] (product nested)

def relation : Parser Expr :=
  level [.lessOrEqual, .less, .greaterOrEqual, .greater, .equal, .notEqual, .member] (sum nested)

def conjunction : Parser Expr := level [.and] (relation nested)

def disjunction : Parser Expr := level [.or] (conjunction nested)

def conditional : Parser Expr := do
  let condition ← disjunction nested
  match ← (symbol "?").optional with
  | none => return condition
  | some _ =>
    let yes ← (disjunction nested).commit
    commit (symbol ":")
    let no ← nested.commit
    return .call "_?_:_" [condition, yes, no]

/-- An expression of at most `depth` levels. -/
def expression : Nat → Parser Expr
  | 0 => fail .tooDeep
  | depth + 1 => conditional (expression depth)

end Parser

def maxDepth : Nat := 64

structure SyntaxError where
  problem : Problem
  /-- In bytes -/
  offset : Nat
  deriving DecidableEq, Repr

def SyntaxError.text (e : SyntaxError) : String := e.problem.message ++ " at offset " ++ e.offset.repr

def overflowText : String := "attempt to negate with overflow"

/-- Why a source has no expression. -/
inductive Failure
  | syntaxError (e : SyntaxError)
  /-- The least integer was negated, which ends the program -/
  | overflow
  deriving DecidableEq, Repr

def parse (source : String) : Except Failure Expr :=
  let text := source.toList
  let failure (problem : Problem) (rest : List Char) : Except Failure Expr :=
    .error (.syntaxError ⟨problem, Text.utf8Length text - Text.utf8Length rest⟩)
  match (Parser.expression maxDepth <* Parser.blanks) text with
  | .ok value [] => .ok value
  | .ok _ rest => failure .unexpectedInput rest
  | .miss rest => failure .unexpectedInput rest
  | .fail problem rest => failure problem rest
  | .overflow => .error .overflow

end ClusterPolicy.Cel
