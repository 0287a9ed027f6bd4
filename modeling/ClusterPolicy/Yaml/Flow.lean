import ClusterPolicy.Yaml

/-! Nodes in brackets and quotes, which may go over several lines. -/

namespace ClusterPolicy.Yaml

/-- Reads from the front of a text; the result holds what is left of it. -/
def Reader (α : Type) := List Char → Option (α × List Char)

namespace Flow

def isBlank (c : Char) : Bool := c = ' ' || c = '\t' || c = '\n' || c = '\r'

/-- Leaves out blanks and comments. -/
def skipBlanks (inComment : Bool) : List Char → List Char
  | [] => []
  | c :: rest =>
    if inComment then skipBlanks (c ≠ '\n') rest
    else if isBlank c then skipBlanks false rest
    else if c = '#' then skipBlanks true rest
    else c :: rest

/-- The character that an escape of fixed length gives by its code. -/
def coded? (count : Nat) (s : List Char) : Option (Char × Nat) := do
  let digits := s.take count
  if digits.length < count then none
  else
    let code ← Text.natural? 16 digits
    some (← Text.scalar? code, count + 1)

/-- The character that an escape stands for, and how many characters behind the backslash it takes. -/
def escape? : List Char → Option (Char × Nat)
  | [] => none
  | c :: rest =>
    match c with
    | '0' => some ('\x00', 1)
    | 'a' => some ('\x07', 1)
    | 'b' => some ('\x08', 1)
    | 't' | '\t' => some ('\t', 1)
    | 'n' => some ('\n', 1)
    | 'v' => some ('\x0b', 1)
    | 'f' => some ('\x0c', 1)
    | 'r' => some ('\r', 1)
    | 'e' => some ('\x1b', 1)
    | ' ' => some (' ', 1)
    | '"' => some ('"', 1)
    | '/' => some ('/', 1)
    | '\\' => some ('\\', 1)
    | 'N' => some ('\u0085', 1)
    | '_' => some ('\u00a0', 1)
    | 'L' => some ('\u2028', 1)
    | 'P' => some ('\u2029', 1)
    | 'x' => coded? 2 rest
    | 'u' => coded? 4 rest
    | 'U' => coded? 8 rest
    | _ => none

/-- The characters up to the closing double quote, after leaving out `skip`. -/
def doubleQuoted (skip : Nat) : Reader (List Char)
  | [] => none
  | c :: rest =>
    match skip with
    | n + 1 => doubleQuoted n rest
    | 0 =>
      if c = '"' then some ([], rest)
      else if c = '\\' then do
        let (value, used) ← escape? rest
        let (values, rest) ← doubleQuoted used rest
        some (value :: values, rest)
      else if c = '\n' then none
      else do
        let (values, rest) ← doubleQuoted 0 rest
        some (c :: values, rest)

/-- The characters up to the closing single quote; two of them stand for one. -/
def singleQuoted : Reader (List Char)
  | [] => none
  | '\'' :: '\'' :: rest => do
    let (values, rest) ← singleQuoted rest
    some ('\'' :: values, rest)
  | c :: rest =>
    if c = '\'' then some ([], rest)
    else if c = '\n' then none
    else do
      let (values, rest) ← singleQuoted rest
      some (c :: values, rest)

/-- A scalar in quotes, if the text starts with one. -/
def quoted : Reader String
  | '"' :: rest => do
    let (chars, rest) ← doubleQuoted 0 rest
    some (String.ofList chars, rest)
  | '\'' :: rest => do
    let (chars, rest) ← singleQuoted rest
    some (String.ofList chars, rest)
  | _ => none

def isIndicator (c : Char) : Bool := ['[', ']', '\x7b', '\x7d', ','].contains c

/-- Characters that no plain scalar starts with. -/
def isReserved (c : Char) : Bool :=
  isIndicator c || ['#', '&', '*', '!', '|', '>', '\'', '"', '%', '@', '\x60'].contains c

def endsPlain : List Char → Bool
  | [] => true
  | '\n' :: _ => true
  | ':' :: [] => true
  | ':' :: c :: _ => isBlank c || isIndicator c
  | c :: '#' :: _ => isBlank c || isIndicator c
  | c :: _ => isIndicator c

/-- The characters of a plain scalar in brackets. -/
def plainChars : List Char → List Char × List Char
  | [] => ([], [])
  | c :: rest =>
    if endsPlain (c :: rest) then ([], c :: rest)
    else let (chars, rest) := plainChars rest; (c :: chars, rest)

def trimRight (s : List Char) : List Char := (s.reverse.dropWhile isBlank).reverse

def plain (s : List Char) : Option (String × List Char) :=
  match s with
  | [] => none
  | c :: rest =>
    if isReserved c || (c = '-' && (rest.isEmpty || rest.head?.any isBlank)) then none
    else
      let (chars, rest) := plainChars (c :: rest)
      if chars.isEmpty then none else some (String.ofList (trimRight chars), rest)

/-- What follows the first item of a list in brackets, up to the closing one. A comma may stand
before that. -/
def moreItems {α : Type} (item : Reader α) (close : Char) : Nat → Reader (List α)
  | 0, _ => none
  | n + 1, s =>
    match skipBlanks false s with
    | c :: rest =>
      if c = close then some ([], rest)
      else if c = ',' then
        match skipBlanks false rest with
        | d :: after =>
          if d = close then some ([], after)
          else do
            let (value, rest) ← item (d :: after)
            let (values, rest) ← moreItems item close n rest
            some (value :: values, rest)
        | [] => none
      else none
    | [] => none

def items {α : Type} (item : Reader α) (close : Char) (s : List Char) : Option (List α × List Char) :=
  match skipBlanks false s with
  | [] => none
  | c :: rest =>
    if c = close then some ([], rest)
    else do
      let (value, rest) ← item (c :: rest)
      let (values, rest) ← moreItems item close s.length rest
      some (value :: values, rest)

/-- A key and its value; without a colon the value is null. -/
def entry (nested : Reader Yaml) (s : List Char) : Option ((String × Yaml) × List Char) := do
  let (key, rest) ← (quoted s).or (plain s)
  match skipBlanks false rest with
  | ':' :: rest =>
    match skipBlanks false rest with
    | c :: after =>
      if c = ',' ∨ c = '\x7d' then some ((key, null), c :: after)
      else
        let (value, rest) ← nested (c :: after)
        some ((key, value), rest)
    | [] => none
  | rest => some ((key, null), rest)

def nodeWith (nested : Reader Yaml) (s : List Char) : Option (Yaml × List Char) :=
  match s with
  | '\x7b' :: rest => do
    let (entries, rest) ← items (entry nested) '\x7d' rest
    some (.mapping entries, rest)
  | '[' :: rest => do
    let (values, rest) ← items nested ']' rest
    some (.sequence values, rest)
  | s =>
    match quoted s with
    | some (text, rest) => some (.scalar text false, rest)
    | none => do
      let (text, rest) ← plain s
      some (.scalar text true, rest)

/-- A node of at most `depth` levels. -/
def node : Nat → Reader Yaml
  | 0 => fun _ => none
  | depth + 1 => nodeWith (node depth)

end Flow

end ClusterPolicy.Yaml
