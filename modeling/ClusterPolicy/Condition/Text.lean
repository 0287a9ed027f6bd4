import ClusterPolicy.Cedar.Token
import ClusterPolicy.Condition

namespace ClusterPolicy

open Cedar (Lexeme Symbol Token)

namespace Cedar.Operator

def token : Operator → Token
  | equal => .symbol .equal
  | notEqual => .symbol .notEqual
  | less => .symbol .less
  | lessOrEqual => .symbol .lessOrEqual
  | greater => .symbol .greater
  | greaterOrEqual => .symbol .greaterOrEqual
  | member => .word "in"
  | add => .symbol .plus
  | subtract => .symbol .minus
  | multiply => .symbol .times
  | contains => .word "contains"

/-- How tightly an operator binds. -/
def level : Operator → Nat
  | equal | notEqual | less | lessOrEqual | greater | greaterOrEqual | member => 3
  | add | subtract => 4
  | multiply => 5
  | contains => 7

/-- The least level of the operands. Only `+`, `-` and `*` chain, and they do so to the left. -/
def operandLevels : Operator → Nat × Nat
  | add | subtract => (4, 5)
  | multiply => (5, 6)
  | contains => (7, 0)
  | _ => (4, 4)

end Cedar.Operator

namespace Condition

/-- How tightly a condition's text binds; 7 is that of a whole operand. -/
def level : Condition → Nat
  | ite .. => 0
  | or .. => 1
  | and .. => 2
  | like .. | has .. | is .. => 3
  | binary op .. => op.level
  | not _ | neg _ => 6
  | long n => if n < 0 then 6 else 7
  | _ => 7

def enclose (parentheses : Bool) (inside : List Lexeme) : List Lexeme :=
  if parentheses then .symbol .parenOpen :: inside ++ [.symbol .parenClose] else inside

def spaced (token : Token) : List Lexeme := [.blank, .token token, .blank]

def longLexemes (n : Int64) : List Lexeme :=
  if n < 0 then [.symbol .minus, .token (.number n.toInt.natAbs)] else [.token (.number n.toInt.natAbs)]

/-- An attribute name where a bare word may stand. -/
def attrToken (name : String) : Token :=
  if Cedar.isAttribute name then .word name else .quote name

def selection (name : String) : List Lexeme :=
  if Cedar.isAttribute name then [.symbol .point, .word name]
  else [.symbol .bracketOpen, .quote name, .symbol .bracketClose]

def patternToken (pattern : Pattern) : Token :=
  .string (pattern.elems.flatMap Cedar.PatternElem.escaped)

mutual

def lexemes : Condition → List Lexeme
  | empty => [.word "true"]
  | var v => [.word v.name]
  | bool b => [.word (if b then "true" else "false")]
  | long n => longLexemes n
  | string s => [.quote s]
  | decimal text => [.word "decimal", .symbol .parenOpen, .quote text, .symbol .parenClose]
  | entity uid => (Token.ofUid uid).map .token
  | and a b =>
    enclose (a.level < 2) a.lexemes ++ spaced (.symbol .and) ++ enclose (b.level < 3) b.lexemes
  | or a b =>
    enclose (a.level < 1) a.lexemes ++ spaced (.symbol .or) ++ enclose (b.level < 2) b.lexemes
  | not a => .symbol .not :: enclose (a.level < 7) a.lexemes
  | neg a => .symbol .minus :: enclose (a.level < 7) a.lexemes
  | binary .contains a b =>
    enclose (a.level < 7) a.lexemes ++
      [.symbol .point, .word "contains", .symbol .parenOpen] ++ b.lexemes ++ [.symbol .parenClose]
  | binary op a b =>
    enclose (a.level < op.operandLevels.1) a.lexemes ++ spaced op.token ++
      enclose (b.level < op.operandLevels.2) b.lexemes
  | like a pattern => enclose (a.level < 4) a.lexemes ++ spaced (.word "like") ++ [.token (patternToken pattern)]
  | has a attr => enclose (a.level < 4) a.lexemes ++ spaced (.word "has") ++ [.token (attrToken attr)]
  | access a attr => enclose (a.level < 7) a.lexemes ++ selection attr
  | is a type => enclose (a.level < 4) a.lexemes ++ spaced (.word "is") ++ (Token.ofName type).map .token
  | ite c a b =>
    .word "if" :: .blank :: c.lexemes ++ spaced (.word "then") ++ a.lexemes ++
      spaced (.word "else") ++ b.lexemes
  | set items => .symbol .bracketOpen :: itemLexemes items ++ [.symbol .bracketClose]
  | record fields => .symbol .braceOpen :: fieldLexemes fields ++ [.symbol .braceClose]

def itemLexemes : List Condition → List Lexeme
  | [] => []
  | [c] => c.lexemes
  | c :: rest => c.lexemes ++ [.symbol .comma, .blank] ++ itemLexemes rest

def fieldLexemes : List (String × Condition) → List Lexeme
  | [] => []
  | [(key, c)] => [.quote key, .symbol .colon, .blank] ++ c.lexemes
  | (key, c) :: rest =>
    [.quote key, .symbol .colon, .blank] ++ c.lexemes ++ [.symbol .comma, .blank] ++ fieldLexemes rest

end

def text (c : Condition) : String := String.ofList (Cedar.textOf c.lexemes)

end Condition

end ClusterPolicy
