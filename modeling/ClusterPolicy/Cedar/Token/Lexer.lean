import ClusterPolicy.Cedar.Token

namespace ClusterPolicy.Cedar

def isBlank (c : Char) : Bool :=
  (9 ≤ c.toNat && c.toNat ≤ 13) || (0x2000 ≤ c.toNat && c.toNat ≤ 0x200A) ||
    [0x20, 0x85, 0xA0, 0x1680, 0x2028, 0x2029, 0x202F, 0x205F, 0x3000].contains c.toNat

/-- Leaves out blanks and line comments. -/
def skipBlanks (inComment : Bool) : List Char → List Char
  | [] => []
  | '/' :: '/' :: rest => skipBlanks true rest
  | c :: rest =>
    if inComment then skipBlanks (c ≠ '\n' && c ≠ '\r') rest
    else if isBlank c then skipBlanks false rest
    else c :: rest

/-- What stands inside a string, up to the closing quote. A backslash keeps the quote behind it
inside. -/
def stringInside? (escaped : Bool) : List Char → Option (List Char × List Char)
  | [] => none
  | c :: rest =>
    if escaped then
      if c = '\n' then none
      else (stringInside? false rest).map fun (inside, after) => (c :: inside, after)
    else if c = '"' then some ([], rest)
    else (stringInside? (c = '\\') rest).map fun (inside, after) => (c :: inside, after)

namespace Symbol

/-- The symbol of two characters. -/
def ofPair? : Char → Char → Option Symbol
  | ':', ':' => some path
  | '=', '=' => some equal
  | '!', '=' => some notEqual
  | '<', '=' => some lessOrEqual
  | '>', '=' => some greaterOrEqual
  | '&', '&' => some and
  | '|', '|' => some or
  | _, _ => none

def ofChar? : Char → Option Symbol
  | '(' => some parenOpen
  | ')' => some parenClose
  | '[' => some bracketOpen
  | ']' => some bracketClose
  | '\x7b' => some braceOpen
  | '\x7d' => some braceClose
  | ',' => some comma
  | ';' => some semicolon
  | ':' => some colon
  | '.' => some point
  | '@' => some atSign
  | '<' => some less
  | '>' => some greater
  | '!' => some not
  | '+' => some plus
  | '-' => some minus
  | '*' => some times
  | _ => none

/-- The longest symbol that a text starts with. -/
def first? : List Char → Option (Symbol × List Char)
  | [] => none
  | [c] => (ofChar? c).map (·, [])
  | c :: d :: rest =>
    match ofPair? c d with
    | some s => some (s, rest)
    | none => (ofChar? c).map (·, d :: rest)

end Symbol

namespace Token

/-- The token that a text starts with, and what follows it. -/
def first? : List Char → Option (Token × List Char)
  | [] => none
  | c :: rest =>
    if identStart c then some (ident (c :: rest.takeWhile identPart), rest.dropWhile identPart)
    else if Text.isDigit 10 c then
      let digits := c :: rest.takeWhile (Text.isDigit 10)
      (Text.natural? 10 digits).map fun n => (number n, rest.dropWhile (Text.isDigit 10))
    else if c = '"' then (stringInside? false rest).map fun (inside, after) => (string inside, after)
    else if c = '?' then
      match rest with
      | d :: after =>
        if identStart d then some (slot (d :: after.takeWhile identPart), after.dropWhile identPart)
        else none
      | [] => none
    else (Symbol.first? (c :: rest)).map fun (s, after) => (symbol s, after)

def scanUpTo : Nat → List Char → Option (List Token)
  | 0, s => if (skipBlanks false s).isEmpty then some [] else none
  | n + 1, s =>
    match skipBlanks false s with
    | [] => some []
    | c :: rest => do
      let (token, after) ← first? (c :: rest)
      (token :: ·) <$> scanUpTo n after

/-- All tokens of a text. Every token takes at least one character. -/
def scan? (s : List Char) : Option (List Token) := scanUpTo s.length s

end Token

end ClusterPolicy.Cedar
