import ClusterPolicy.Cel.Grammar
import ClusterPolicy.Number.Shortest

/-! The text of an expression, with no more parentheses than its place requires. The levels are those of
the grammar: 1 for a choice, 2 to 6 for the operators, 7 for a sign, 8 for an operand, 9 for what a
member can be selected from, and 10 for what stands in parentheses. -/

namespace ClusterPolicy.Cel

namespace Operator

def all : List Operator :=
  [or, and, lessOrEqual, less, greaterOrEqual, greater, equal, notEqual, member, add, subtract,
    multiply, divide, modulo]

def ofFunction? (function : String) : Option Operator := all.find? (·.function = function)

def level : Operator → Nat
  | or => 2
  | and => 3
  | lessOrEqual | less | greaterOrEqual | greater | equal | notEqual | member => 4
  | add | subtract => 5
  | multiply | divide | modulo => 6

end Operator

/-- A text, how tightly it binds, and how deep expressions are nested in it. -/
structure Printed where
  level : Nat
  nesting : Nat
  chars : List Char

namespace Printed

/-- In parentheses, unless it binds as tightly as its place requires. -/
def placed (level : Nat) (p : Printed) : Printed :=
  if p.level < level then ⟨10, p.nesting + 1, '(' :: (p.chars ++ [')'])⟩ else p

def deepest (items : List Printed) : Nat := (items.map nesting).foldr max 0

def separated (items : List (List Char)) : List Char := [',', ' '].intercalate items

def word (name : String) : Printed := ⟨9, 0, name.toList⟩

/-- The left operand may be of the operator's own level, the right one may not. -/
def operation (op : Operator) (left right : Printed) : Printed :=
  let left := left.placed op.level
  let right := right.placed (op.level + 1)
  ⟨op.level, max left.nesting right.nesting,
    left.chars ++ ' ' :: (op.symbol.toList ++ ' ' :: right.chars)⟩

def conditional (condition yes no : Printed) : Printed :=
  let condition := condition.placed 2
  let yes := yes.placed 2
  ⟨1, max (max condition.nesting yes.nesting) (no.nesting + 1),
    condition.chars ++ ' ' :: '?' :: ' ' :: (yes.chars ++ ' ' :: ':' :: ' ' :: no.chars)⟩

def signed (sign : Char) (operand : Printed) : Printed :=
  let operand := operand.placed 10
  ⟨7, operand.nesting, sign :: operand.chars⟩

def selected (operand : Printed) (field : String) : Printed :=
  let operand := operand.placed 9
  ⟨9, operand.nesting, operand.chars ++ '.' :: field.toList⟩

def index (operand position : Printed) : Printed :=
  let operand := operand.placed 9
  ⟨9, max operand.nesting (position.nesting + 1), operand.chars ++ '[' :: (position.chars ++ [']'])⟩

/-- Even where there is no argument, one is looked for. -/
def called (level : Nat) (function : Printed) (arguments : List Printed) : Printed :=
  ⟨level, max function.nesting (deepest arguments + 1),
    function.chars ++ '(' :: (separated (arguments.map chars) ++ [')'])⟩

def list (items : List Printed) : Printed :=
  ⟨8, deepest items + 1, '[' :: (separated (items.map chars) ++ [']'])⟩

def paired (key : List Char) (value : Printed) : List Char := key ++ ':' :: ' ' :: value.chars

def map (entries : List (Printed × Printed)) : Printed :=
  ⟨8, max (deepest (entries.map (·.1))) (deepest (entries.map (·.2))) + 1,
    '\x7b' :: (separated (entries.map fun e => paired e.1.chars e.2) ++ ['\x7d'])⟩

/-- Where there is no field, no value is looked for. -/
def message (type : String) (fields : List (String × Printed)) : Printed :=
  ⟨9, if fields.isEmpty then 0 else deepest (fields.map (·.2)) + 1,
    type.toList ++ '\x7b' :: (separated (fields.map fun f => paired f.1.toList f.2) ++ ['\x7d'])⟩

/-- What a call of a function by this name stands for. -/
def application (function : String) (arguments : List Printed) : Printed :=
  match Operator.ofFunction? function, arguments with
  | some op, [left, right] => operation op left right
  | _, [operand] =>
    if function = "!_" then signed '!' operand
    else if function = "-_" then signed '-' operand
    else called 8 (word function) arguments
  | _, [operand, position] =>
    if function = "_[_]" then index operand position else called 8 (word function) arguments
  | _, [condition, yes, no] =>
    if function = "_?_:_" then conditional condition yes no
    else called 8 (word function) arguments
  | _, _ => called 8 (word function) arguments

end Printed

namespace Literal

/-- A character of a string in double quotes. -/
def escaped (c : Char) : List Char :=
  match c with
  | '\\' | '"' => ['\\', c]
  | '\n' => ['\\', 'n']
  | '\r' => ['\\', 'r']
  | c => [c]

def hexadecimal (byte : UInt8) : List Char :=
  ['\\', 'x', (byte.toNat / 16).digitChar, (byte.toNat % 16).digitChar]

def decimal (n : Nat) : List Char := Nat.toDigits 10 n

def quoted (inside : List Char) : List Char := '"' :: (inside ++ ['"'])

/-- Only a number below zero has a sign. A floating-point number may read as an integer. -/
def printed : Literal → Printed
  | bool b => ⟨8, 0, (if b then "true" else "false").toList⟩
  | int n =>
    if n < 0 then ⟨7, 0, '-' :: decimal n.toInt.natAbs⟩ else ⟨8, 0, decimal n.toInt.natAbs⟩
  | uint n => ⟨8, 0, decimal n.toNat ++ ['u']⟩
  | double x => ⟨8, 0, x.text.toList⟩
  | string s => ⟨8, 0, quoted (s.toList.flatMap escaped)⟩
  | bytes bs => ⟨8, 0, 'b' :: quoted (bs.flatMap hexadecimal)⟩
  | null => ⟨8, 0, "null".toList⟩

end Literal

namespace Expr

mutual

def printed : Expr → Printed
  | literal v => v.printed
  | ident name => .word name
  | select operand field tested =>
    let selection := operand.printed.selected field
    if tested then .called 8 (.word "has") [selection] else selection
  | call function arguments => .application function (printedEach arguments)
  | method target function arguments =>
    .called 9 (target.printed.selected function) (printedEach arguments)
  | list items => .list (printedEach items)
  | map entries => .map (printedEntries entries)
  | message type fields => .message type (printedFields fields)
  | comprehension kind range variableName body =>
    .called 9 (range.printed.selected kind.name) (.word variableName :: printedEach body)

def printedEach : List Expr → List Printed
  | [] => []
  | e :: rest => e.printed :: printedEach rest

def printedEntries : List (Expr × Expr) → List (Printed × Printed)
  | [] => []
  | (key, value) :: rest => (key.printed, value.printed) :: printedEntries rest

def printedFields : List (String × Expr) → List (String × Printed)
  | [] => []
  | (name, value) :: rest => (name, value.printed) :: printedFields rest

end

def text (e : Expr) : String := String.ofList e.printed.chars

/-- How many levels of expressions there are in the text, its own included. -/
def depth (e : Expr) : Nat := e.printed.nesting + 1

end Expr

/-- A word that is no keyword. -/
def isIdent (name : String) : Bool :=
  match name.toList with
  | [] => false
  | c :: rest => identStart c && rest.all identPart && !reserved.contains name

/-- The shapes that are read from texts, but for numbers with a point or an exponent. -/
inductive Expr.IsWritable : Expr → Prop
  | literal {v : Literal} (notDouble : ∀ x, v ≠ .double x) : IsWritable (.literal v)
  | ident {name : String} (isName : isIdent name = true) : IsWritable (.ident name)
  | select {operand : Expr} {field : String} {tested : Bool} (whole : IsWritable operand)
      (isName : isIdent field = true) : IsWritable (.select operand field tested)
  | operation {op : Operator} {left right : Expr} (hl : IsWritable left) (hr : IsWritable right) :
      IsWritable (.operation op left right)
  | conditional {condition yes no : Expr} (asked : IsWritable condition) (hy : IsWritable yes)
      (hn : IsWritable no) : IsWritable (.call "_?_:_" [condition, yes, no])
  | not {operand : Expr} (whole : IsWritable operand) : IsWritable (.call "!_" [operand])
  /-- The sign in front of a number is part of the number. -/
  | negative {operand : Expr} (whole : IsWritable operand)
      (stays : operand.negate? = some (.call "-_" [operand])) : IsWritable (.call "-_" [operand])
  | index {operand position : Expr} (whole : IsWritable operand) (inside : IsWritable position) :
      IsWritable (.call "_[_]" [operand, position])
  | call {function : String} {arguments : List Expr} (isName : isIdent function = true)
      (plain : function ≠ "has") (inside : ∀ a ∈ arguments, IsWritable a) :
      IsWritable (.call function arguments)
  /-- Some methods with a variable are macros. -/
  | method {target : Expr} {function : String} {arguments : List Expr} (whole : IsWritable target)
      (isName : isIdent function = true) (inside : ∀ a ∈ arguments, IsWritable a)
      (stays : Expr.ofMethod target function arguments = .method target function arguments) :
      IsWritable (.method target function arguments)
  | list {items : List Expr} (inside : ∀ a ∈ items, IsWritable a) : IsWritable (.list items)
  | map {entries : List (Expr × Expr)} (keys : ∀ e ∈ entries, IsWritable e.1)
      (values : ∀ e ∈ entries, IsWritable e.2) : IsWritable (.map entries)
  | message {path : Expr} {type : String} {fields : List (String × Expr)} (whole : IsWritable path)
      (isPath : path.typePath? = some type) (names : ∀ f ∈ fields, isIdent f.1 = true)
      (values : ∀ f ∈ fields, IsWritable f.2) : IsWritable (.message type fields)
  | comprehension {kind : Macro} {range : Expr} {variableName : String} {body : List Expr}
      (whole : IsWritable range) (isName : isIdent variableName = true)
      (takes : kind.takes (body.length + 1) = true) (inside : ∀ b ∈ body, IsWritable b) :
      IsWritable (.comprehension kind range variableName body)

namespace Operator

theorem ofFunction?_function (op : Operator) : ofFunction? op.function = some op := by
  cases op <;> decide

theorem isIdent_function (op : Operator) : isIdent op.function = false := by
  cases op <;> decide

theorem ofFunction?_isIdent {function : String} (h : isIdent function = true) :
    ofFunction? function = none := by
  rw [ofFunction?, List.find?_eq_none]
  intro op _ same
  rw [decide_eq_true_eq] at same
  rw [← same, isIdent_function] at h
  cases h

end Operator

namespace Expr

theorem printed_operation (op : Operator) (left right : Expr) :
    (operation op left right).printed = .operation op left.printed right.printed := by
  simp [operation, printed, printedEach, Printed.application, Operator.ofFunction?_function]

end Expr

end ClusterPolicy.Cel
