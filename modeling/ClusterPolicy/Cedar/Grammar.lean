import ClusterPolicy.Cedar.Policy
import ClusterPolicy.Cedar.Token.Lexer
import ClusterPolicy.Number.Long
import ClusterPolicy.Text.Debug

/-!
The grammar of policies.

    policies   = policy*
    policy     = annotation* effect "(" scopes ")" clause* ";"
    annotation = "@" IDENT ["(" STRING ")"]
    clause     = ("when" | "unless") "{" expr "}"
    expr       = "if" expr "then" expr "else" expr | or
    or         = and ("||" and)*
    and        = relation ("&&" relation)*
    relation   = sum [RELOP sum | "has" attr | "like" STRING | "is" name]
    sum        = product (("+" | "-") product)*
    product    = unary ("*" unary)*
    unary      = "!"* member | "-"* member
    member     = primary ("." attr | ".contains" "(" expr ")" | "[" STRING "]")*

Every parser up to `exprWith` takes the parser of nested expressions; `expr` ties the knot over the
nesting that is left.
-/

namespace ClusterPolicy.Cedar

/-- Reads from the front of the tokens. -/
abbrev Parser := StateT (List Token) Option

namespace Parser

variable {α : Type}

def token : Parser Token := fun
  | [] => none
  | t :: rest => some (t, rest)

def peek : Parser (Option Token) := fun tokens => some (tokens.head?, tokens)

/-- Reads the token if it comes next. -/
def accept (t : Token) : Parser Bool := fun
  | [] => some (false, [])
  | u :: rest => if u = t then some (true, rest) else some (false, u :: rest)

def expect (t : Token) : Parser Unit := fun
  | [] => none
  | u :: rest => if u = t then some ((), rest) else none

def expectSymbol (s : Symbol) : Parser Unit := expect (.symbol s)

def acceptSymbol (s : Symbol) : Parser Bool := accept (.symbol s)

/-- Passes on the number of tokens, which bounds every repetition over them. -/
def bounded (p : Nat → Parser α) : Parser α := fun tokens => p tokens.length tokens

/-- What follows the first item of a list: more of them behind commas, then the closing symbol. -/
def moreItems (item : Parser α) (close : Symbol) : Nat → Parser (List α)
  | 0 => failure
  | n + 1 => do
    if ← acceptSymbol close then return []
    expectSymbol .comma
    let a ← item
    return a :: (← moreItems item close n)

def items (item : Parser α) (close : Symbol) : Parser (List α) := do
  if ← acceptSymbol close then return []
  let a ← item
  return a :: (← bounded (moreItems item close))

def ident : Parser (List Char) := do
  match ← token with
  | .ident name => return name
  | _ => failure

def string : Parser String := do
  match ← token with
  | .string inside => unescape? inside
  | _ => failure

/-- The segments of a name behind `::`, and the string that ends it if it is an entity's. -/
def nameRest : Nat → Parser (List (List Char) × Option String)
  | 0 => failure
  | n + 1 => do
    if ← acceptSymbol .path then
      match ← token with
      | .ident name =>
        let (names, id) ← nameRest n
        return (name :: names, id)
      | .string inside => return ([], some (← unescape? inside))
      | _ => failure
    else return ([], none)

/-- A name is refused if a word in it is reserved. -/
def nameOf (segments : List (List Char)) : Parser String :=
  if segments.all isNameSegment then
    return String.ofList ([':', ':'].intercalate segments)
  else failure

/-- A name, and the id behind it if there is one. -/
def path (first : List Char) : Parser (String × Option String) := do
  let (names, id) ← bounded fun n => nameRest (n + 1)
  return (← nameOf (first :: names), id)

def name : Parser String := do
  match ← path (← ident) with
  | (name, none) => return name
  | (_, some _) => failure

def uid : Parser EntityUid := do
  match ← path (← ident) with
  | (type, some id) => return ⟨type, id⟩
  | (_, none) => failure

/-- An attribute as a bare word or as a string. -/
def attr : Parser String := do
  match ← token with
  | .ident name => if isNameSegment name then return String.ofList name else failure
  | .string inside => unescape? inside
  | _ => failure

/-- A word that is no name: a constant, a variable or the one function there is. -/
def wordExpr (nested : Parser Expr) (word : List Char) : Parser Expr := do
  if word = "true".toList then return .bool true
  else if word = "false".toList then return .bool false
  else
    match ← path word with
    | (type, some id) => return .entity ⟨type, id⟩
    | (name, none) =>
      match Var.ofName? name with
      | some v => return .var v
      | none =>
        if name = "decimal" then
          expectSymbol .parenOpen
          let argument ← nested
          expectSymbol .parenClose
          return .decimal argument
        else failure

def recordKey : Parser String := do
  let key ← attr
  expectSymbol .colon
  return key

def primary (nested : Parser Expr) : Parser Expr := do
  match ← token with
  | .symbol .parenOpen =>
    let e ← nested
    expectSymbol .parenClose
    return e
  | .symbol .bracketOpen => return .set (← items nested .bracketClose)
  | .symbol .braceOpen =>
    let fields ← items (do return (← recordKey, ← nested)) .braceClose
    if (fields.map (·.1)).Nodup then return .record fields else failure
  | .string inside => return .string (← unescape? inside)
  | .number n => return .long (← Number.long? n)
  | .ident word => wordExpr nested word
  | _ => failure

/-- The member that one more suffix makes of `operand`. -/
def suffix? (nested : Parser Expr) (operand : Expr) : Parser (Option Expr) := do
  if ← acceptSymbol .point then
    let field ← ident
    if (← peek) = some (.symbol .parenOpen) then
      if field = "contains".toList then
        expectSymbol .parenOpen
        let element ← nested
        expectSymbol .parenClose
        return some (.binary .contains operand element)
      else failure
    else if isNameSegment field then return some (.access operand (String.ofList field))
    else failure
  else if ← acceptSymbol .bracketOpen then
    let field ← string
    expectSymbol .bracketClose
    return some (.access operand field)
  else return none

def suffixes (nested : Parser Expr) (operand : Expr) : Nat → Parser Expr
  | 0 => return operand
  | n + 1 => do
    match ← suffix? nested operand with
    | none => return operand
    | some longer => suffixes nested longer n

def member (nested : Parser Expr) : Parser Expr := do
  let operand ← primary nested
  bounded (suffixes nested operand)

def countSymbol (s : Symbol) : Nat → Parser Nat
  | 0 => return 0
  | n + 1 => do
    if ← acceptSymbol s then return (← countSymbol s n) + 1 else return 0

def repeated (f : Expr → Expr) : Nat → Expr → Expr
  | 0, e => e
  | n + 1, e => f (repeated f n e)

/-- The operand behind a minus. An integer that no suffix follows takes the minus into itself. -/
def negated (nested : Parser Expr) : Parser Expr := fun tokens =>
  match tokens with
  | .number n :: rest =>
    match rest with
    | .symbol .point :: _ | .symbol .bracketOpen :: _ | .symbol .parenOpen :: _ =>
      ((member nested).map Expr.neg) tokens
    | _ => return (.long (← Number.long? (-n)), rest)
  | _ => ((member nested).map Expr.neg) tokens

/-- At most four operators of one kind stand in a row. -/
def unary (nested : Parser Expr) : Parser Expr := do
  let nots ← bounded (countSymbol .not)
  if nots = 0 then
    let signs ← bounded (countSymbol .minus)
    if signs = 0 then member nested
    else if 4 < signs then failure
    else return repeated .neg (signs - 1) (← negated nested)
  else if 4 < nots then failure
  else
    let operand ← member nested
    return if nots % 2 = 0 then .not (.not operand) else .not operand

/-- Operators of one level, which group to the left. -/
def chain (build? : Token → Option (Expr → Expr → Expr)) (operand : Parser Expr) (left : Expr) :
    Nat → Parser Expr
  | 0 => return left
  | n + 1 => do
    match (← peek).bind build? with
    | none => return left
    | some build =>
      discard token
      chain build? operand (build left (← operand)) n

def level (build? : Token → Option (Expr → Expr → Expr)) (operand : Parser Expr) : Parser Expr := do
  let left ← operand
  bounded (chain build? operand left)

def product (nested : Parser Expr) : Parser Expr :=
  level (fun t => if t = .symbol .times then some (.binary .multiply) else none) (unary nested)

def sum (nested : Parser Expr) : Parser Expr :=
  level (fun t =>
    if t = .symbol .plus then some (.binary .add)
    else if t = .symbol .minus then some (.binary .subtract)
    else none) (product nested)

def comparison? : Token → Option Operator
  | .symbol .equal => some .equal
  | .symbol .notEqual => some .notEqual
  | .symbol .less => some .less
  | .symbol .lessOrEqual => some .lessOrEqual
  | .symbol .greater => some .greater
  | .symbol .greaterOrEqual => some .greaterOrEqual
  | t => if t = .word "in" then some .member else none

def pattern : Parser (List PatternElem) := do
  match ← token with
  | .string inside => unescapePattern? inside
  | _ => failure

def relation (nested : Parser Expr) : Parser Expr := do
  let left ← sum nested
  match ← peek with
  | none => return left
  | some t =>
    match comparison? t with
    | some op =>
      discard token
      return .binary op left (← sum nested)
    | none =>
      if ← accept (.word "has") then return .has left (← attr)
      else if ← accept (.word "like") then return .like left (← pattern)
      else if ← accept (.word "is") then return .is left (← name)
      else return left

def conjunction (nested : Parser Expr) : Parser Expr :=
  level (fun t => if t = .symbol .and then some .and else none) (relation nested)

def disjunction (nested : Parser Expr) : Parser Expr :=
  level (fun t => if t = .symbol .or then some .or else none) (conjunction nested)

def exprWith (nested : Parser Expr) : Parser Expr := do
  if ← accept (.word "if") then
    let condition ← nested
    expect (.word "then")
    let yes ← nested
    expect (.word "else")
    return .ite condition yes (← nested)
  else disjunction nested

/-- An expression of at most `depth` levels. -/
def expr : Nat → Parser Expr
  | 0 => failure
  | depth + 1 => exprWith (expr depth)

/-- Every level of nesting takes a token of its own. -/
def wholeExpr : Parser Expr := bounded fun n => expr (n + 1)

def annotation : Parser (String × String) := do
  let key ← ident
  if ← acceptSymbol .parenOpen then
    let value ← string
    expectSymbol .parenClose
    return (String.ofList key, value)
  else return (String.ofList key, "")

def annotations : Nat → Parser (List (String × String))
  | 0 => return []
  | n + 1 => do
    if ← acceptSymbol .atSign then
      let a ← annotation
      return a :: (← annotations n)
    else return []

/-- A scope with a slot in place of its entity makes a template. -/
inductive Scoped (α : Type)
  | fixed (scope : α)
  | slot

def uidOrSlot {β : Type} (var : Var) (build : EntityUid → β) : Parser (Scoped β) := do
  match ← peek with
  | some (.slot slot) =>
    discard token
    if slot = var.name.toList then return .slot else failure
  | _ => return .fixed (build (← uid))

def scope (var : Var) : Parser (Scoped Scope) := do
  expect (.word var.name)
  if ← acceptSymbol .equal then uidOrSlot var .equal
  else if ← accept (.word "in") then uidOrSlot var .within
  else if ← accept (.word "is") then return .fixed (.ofType (← name))
  else return .fixed .any

/-- Actions are of a type whose last segment is `Action`. -/
def actionUid : Parser EntityUid := do
  let u ← uid
  if basename u.type = "Action" then return u else failure

def actionScope : Parser ActionScope := do
  expect (.word "action")
  if ← acceptSymbol .equal then return .equal (← actionUid)
  else if ← accept (.word "in") then
    if ← acceptSymbol .bracketOpen then return .within (← items actionUid .bracketClose)
    else return .within [← actionUid]
  else return .any

/-- The clauses up to the semicolon that ends a policy. -/
def clauses : Nat → Parser (List Clause)
  | 0 => failure
  | n + 1 => do
    if ← acceptSymbol .semicolon then return []
    let negated ← (do
      if ← accept (.word "when") then return false
      expect (.word "unless")
      return true)
    expectSymbol .braceOpen
    let body ← wholeExpr
    expectSymbol .braceClose
    return ⟨negated, body⟩ :: (← clauses n)

/-- A policy as it stands in a text: its annotations and, unless it is a template, its parts. -/
structure Statement where
  annotations : SortedMap String
  /-- The policy under a given id -/
  policy? : Option (String → Policy)

def effect : Parser Effect := do
  if ← accept (.word "permit") then return .permit
  expect (.word "forbid")
  return .forbid

def statement : Parser Statement := do
  let written ← bounded annotations
  let effect ← effect
  expectSymbol .parenOpen
  let principal ← scope .principal
  expectSymbol .comma
  let action ← actionScope
  expectSymbol .comma
  let resource ← scope .resource
  expectSymbol .parenClose
  let clauses ← bounded clauses
  if (written.map (·.1)).Nodup then
    let annotations := SortedMap.ofList written
    let policy? :=
      match principal, resource with
      | .fixed principal, .fixed resource =>
        some fun id => ⟨id, effect, annotations, principal, action, resource, clauses⟩
      | _, _ => none
    return ⟨annotations, policy?⟩
  else failure

def statements : Nat → Parser (List Statement)
  | 0 => fun tokens => if tokens.isEmpty then some ([], []) else none
  | n + 1 => do
    if (← peek).isNone then return []
    let s ← statement
    return s :: (← statements n)

end Parser

/-- The normal form of a reference. -/
def EntityUid.text (uid : EntityUid) : String := uid.type ++ "::\"" ++ Text.shownId uid.id ++ "\""

/-- An expression that takes up a whole text. -/
def Expr.parse? (text : String) : Option Expr := do
  let tokens ← Token.scan? text.toList
  match ← Parser.wholeExpr tokens with
  | (e, []) => some e
  | _ => none

/-- A reference that is written in its one normal form. -/
def EntityUid.parse? (text : String) : Option EntityUid := do
  let tokens ← Token.scan? text.toList
  match ← Parser.uid tokens with
  | (uid, []) => if uid.text = text then some uid else none
  | _ => none

def parseStatements? (text : String) : Option (List Parser.Statement) := do
  let tokens ← Token.scan? text.toList
  let (statements, _) ← Parser.bounded Parser.statements tokens
  some statements

end ClusterPolicy.Cedar
