import ClusterPolicy.Text.Digits

namespace ClusterPolicy

/-- A node of a document. A scalar keeps its source text, and whether it was written without quotes.
A mapping keeps all its entries in their order. -/
inductive Yaml
  | scalar (text : String) (plain : Bool)
  | sequence (items : List Yaml)
  | mapping (entries : List (String × Yaml))
  deriving Inhabited

namespace Yaml

def null : Yaml := scalar "" true

def isNullText (text : String) : Bool := ["", "~", "null", "Null", "NULL"].contains text

def isBoolText (text : String) : Bool := ["true", "True", "TRUE", "false", "False", "FALSE"].contains text

def allDigits (radix : Nat) (s : List Char) : Bool := !s.isEmpty && s.all (Text.isDigit radix)

/-- Digits behind a leading zero are text. -/
def isIntegerText (magnitude : List Char) : Bool :=
  match magnitude with
  | '0' :: 'x' :: digits => allDigits 16 digits
  | '0' :: 'o' :: digits => allDigits 8 digits
  | '0' :: 'b' :: digits => allDigits 2 digits
  | digits => allDigits 10 digits && (digits.head? ≠ some '0' || digits.length == 1)

def dropSign : List Char → List Char
  | '+' :: rest => rest
  | '-' :: rest => rest
  | rest => rest

/-- Digits with a point among or around them, and an exponent. -/
def isDecimalText (magnitude : List Char) : Bool :=
  let (mantissa, exponent) := magnitude.span fun c => c ≠ 'e' && c ≠ 'E'
  let (whole, fraction) := mantissa.span (· ≠ '.')
  allDigits 10 (whole ++ fraction.drop 1) && (exponent.isEmpty || allDigits 10 (dropSign (exponent.drop 1))) &&
    !(fraction.isEmpty && exponent.isEmpty)

def isNumberText (text : String) : Bool :=
  let magnitude := dropSign text.toList
  [".inf", ".Inf", ".INF", ".nan", ".NaN", ".NAN"].contains (String.ofList magnitude) ||
    isIntegerText magnitude || isDecimalText magnitude

def isNull : Yaml → Bool
  | scalar text true => isNullText text
  | _ => false

/-- The value of a scalar that is text and not a null, a truth value or a number. -/
def string? : Yaml → Option String
  | scalar text plain =>
    if plain && (isNullText text || isBoolText text || isNumberText text) then none else some text
  | _ => none

/-- The source text of any scalar. -/
def sourceText? : Yaml → Option String
  | scalar text _ => some text
  | _ => none

def entries? : Yaml → Option (List (String × Yaml))
  | mapping entries => some entries
  | _ => none

def items? : Yaml → Option (List Yaml)
  | sequence items => some items
  | _ => none

def get? (node : Yaml) (key : String) : Option Yaml := node.entries?.bind (·.lookup key)

mutual

/-- Whether no mapping in the node repeats a key. -/
def hasDistinctKeys : Yaml → Bool
  | scalar .. => true
  | sequence items => itemsHaveDistinctKeys items
  | mapping entries => decide (entries.map (·.1)).Nodup && entriesHaveDistinctKeys entries

def itemsHaveDistinctKeys : List Yaml → Bool
  | [] => true
  | node :: rest => node.hasDistinctKeys && itemsHaveDistinctKeys rest

def entriesHaveDistinctKeys : List (String × Yaml) → Bool
  | [] => true
  | (_, node) :: rest => node.hasDistinctKeys && entriesHaveDistinctKeys rest

end

end Yaml

end ClusterPolicy
