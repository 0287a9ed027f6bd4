import ClusterPolicy.Cel.Parser

namespace ClusterPolicy.Cel

def isBlank (c : Char) : Bool := c = ' ' || c = '\t' || c = '\n' || c = '\r'

/-- Leaves out blanks and line comments. -/
def skipBlanks (inComment : Bool) : List Char → List Char
  | [] => []
  | '/' :: '/' :: rest => skipBlanks true rest
  | c :: rest =>
    if inComment then skipBlanks (c ≠ '\n') rest
    else if isBlank c then skipBlanks false rest
    else c :: rest

def identStart (c : Char) : Bool := c = '_' || c.isAlpha

def identPart (c : Char) : Bool := c = '_' || c.isAlphanum

/-- Words that are no identifiers. -/
def reserved : List String :=
  ["as", "break", "const", "continue", "else", "false", "for", "function", "if", "import", "in",
    "let", "loop", "package", "namespace", "null", "return", "true", "var", "void", "while"]

namespace Parser

def blanks : Parser Unit := fun s => .ok () (skipBlanks false s)

def exactly (text : List Char) : Parser Unit := fun s =>
  if text.isPrefixOf s then .ok () (s.drop text.length) else .miss s

def symbol (text : String) : Parser Unit := do
  blanks
  exactly text.toList

/-- A word that no identifier character follows. -/
def word (text : String) : Parser Unit := fun s =>
  if text.toList.isPrefixOf s && !((s.drop text.length).head?.any identPart) then
    .ok () (s.drop text.length)
  else .miss s

def keyword (text : String) : Parser Unit := do
  blanks
  word text

def bareIdent : Parser String := fun s =>
  match s with
  | [] => .miss s
  | c :: rest =>
    let name := String.ofList (c :: rest.takeWhile identPart)
    if identStart c && !reserved.contains name then .ok name (rest.dropWhile identPart) else .miss s

def ident : Parser String := do
  blanks
  bareIdent

end Parser

end ClusterPolicy.Cel
