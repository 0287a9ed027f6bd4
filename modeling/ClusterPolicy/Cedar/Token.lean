import ClusterPolicy.Cedar.Name
import ClusterPolicy.Cedar.Quoted

namespace ClusterPolicy.Cedar

inductive Symbol
  | parenOpen
  | parenClose
  | bracketOpen
  | bracketClose
  | braceOpen
  | braceClose
  | comma
  | semicolon
  | colon
  | path
  | point
  | atSign
  | equal
  | notEqual
  | less
  | lessOrEqual
  | greater
  | greaterOrEqual
  | and
  | or
  | not
  | plus
  | minus
  | times
  deriving DecidableEq, Repr

namespace Symbol

def text : Symbol → List Char
  | parenOpen => ['(']
  | parenClose => [')']
  | bracketOpen => ['[']
  | bracketClose => [']']
  | braceOpen => ['\x7b']
  | braceClose => ['\x7d']
  | comma => [',']
  | semicolon => [';']
  | colon => [':']
  | path => [':', ':']
  | point => ['.']
  | atSign => ['@']
  | equal => ['=', '=']
  | notEqual => ['!', '=']
  | less => ['<']
  | lessOrEqual => ['<', '=']
  | greater => ['>']
  | greaterOrEqual => ['>', '=']
  | and => ['&', '&']
  | or => ['|', '|']
  | not => ['!']
  | plus => ['+']
  | minus => ['-']
  | times => ['*']

end Symbol

/-- A string keeps its inside as written: what an escape in it stands for depends on where it is. -/
inductive Token
  | ident (name : List Char)
  | number (value : Nat)
  | string (inside : List Char)
  | symbol (symbol : Symbol)
  | slot (name : List Char)
  deriving DecidableEq, Repr

namespace Token

def text : Token → List Char
  | ident name => name
  | number value => Nat.toDigits 10 value
  | string inside => '"' :: inside ++ ['"']
  | symbol s => s.text
  | slot name => '?' :: name

def quote (s : String) : Token := .string (escapeAll s.toList)

def word (s : String) : Token := .ident s.toList

/-- The identifiers of a name with `::` between them. Any text is the text of its tokens, also one
that is no name. -/
def ofName (name : String) : List Token :=
  ((segments name.toList).map ident).intersperse (.symbol .path)

def ofUid (uid : EntityUid) : List Token :=
  ofName uid.type ++ [.symbol .path, .quote uid.id]

end Token

/-- What a printer writes: tokens, and the blanks between them. -/
inductive Lexeme
  | token (token : Token)
  | blank
  /-- A new line, indented -/
  | line (indent : Nat)
  deriving DecidableEq, Repr

namespace Lexeme

def symbol (s : Symbol) : Lexeme := token (.symbol s)

def word (s : String) : Lexeme := token (.word s)

def quote (s : String) : Lexeme := token (.quote s)

def text : Lexeme → List Char
  | token t => t.text
  | blank => [' ']
  | line indent => '\n' :: List.replicate indent ' '

end Lexeme

def textOf (lexemes : List Lexeme) : List Char := lexemes.flatMap Lexeme.text

end ClusterPolicy.Cedar
