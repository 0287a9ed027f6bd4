import ClusterPolicy.Text.Digits

/-! String literals: the escapes that are written, and those that are read. -/

namespace ClusterPolicy.Cedar

/-- The control characters: U+0000 to U+001F and U+007F to U+009F. -/
def isControl (c : Char) : Bool := c.toNat < 0x20 || (0x7F ≤ c.toNat && c.toNat < 0xA0)

def escape (c : Char) : List Char :=
  match c with
  | '\\' => ['\\', '\\']
  | '"' => ['\\', '"']
  | '\n' => ['\\', 'n']
  | '\r' => ['\\', 'r']
  | '\t' => ['\\', 't']
  | '\x00' => ['\\', '0']
  | c =>
    if isControl c then ['\\', 'u', '\x7b'] ++ Nat.toDigits 16 c.toNat ++ ['\x7d'] else [c]

def escapeAll (s : List Char) : List Char := s.flatMap escape

/-- One part of a `like` pattern. -/
inductive PatternElem
  | char (c : Char)
  | wildcard
  deriving DecidableEq, Repr

namespace PatternElem

def escaped : PatternElem → List Char
  | wildcard => ['*']
  | char '*' => ['\\', '*']
  | char c => escape c

/-- What an unescaped character, or an escape that names one, stands for in a pattern. -/
def ofChar (c : Char) : PatternElem := if c = '*' then wildcard else char c

end PatternElem

/-- The hexadecimal digits of a braced escape, at most six, with underscores between or behind them:
the number, and how many characters were read up to the closing brace. `count` digits of `value`
stand before. -/
def bracedCode? (count value : Nat) : List Char → Option (Nat × Nat)
  | [] => none
  | c :: rest =>
    if c = '\x7d' then if count = 0 ∨ 6 < count then none else some (value, 1)
    else if c = '_' then
      if count = 0 then none else (bracedCode? count value rest).map fun (code, used) => (code, used + 1)
    else do
      let digit ← Text.digitValue? 16 c
      let (code, used) ← bracedCode? (count + 1) (value * 16 + digit) rest
      some (code, used + 1)

/-- The character that an escape names, and how many characters behind the backslash it takes. -/
def escape? : List Char → Option (Char × Nat)
  | 'n' :: _ => some ('\n', 1)
  | 'r' :: _ => some ('\r', 1)
  | 't' :: _ => some ('\t', 1)
  | '\\' :: _ => some ('\\', 1)
  | '0' :: _ => some ('\x00', 1)
  | '\'' :: _ => some ('\'', 1)
  | '"' :: _ => some ('"', 1)
  | 'x' :: a :: b :: _ => do
    let code ← Text.natural? 16 [a, b]
    if code < 0x80 then some (Char.ofNat code, 3) else none
  | 'u' :: '\x7b' :: rest => do
    let (code, used) ← bracedCode? 0 0 rest
    some (← Text.scalar? code, used + 2)
  | _ => none

/-- Reads a literal's inside after leaving out `skip` characters. A bare carriage return is refused. -/
def decodeWith {α : Type} (named? : List Char → Option (α × Nat)) (plain : Char → α) (skip : Nat) :
    List Char → Option (List α)
  | [] => some []
  | c :: rest =>
    match skip with
    | n + 1 => decodeWith named? plain n rest
    | 0 =>
      if c = '\\' then do
        let (a, used) ← named? rest
        (a :: ·) <$> decodeWith named? plain used rest
      else if c = '\r' then none
      else (plain c :: ·) <$> decodeWith named? plain 0 rest

def unescape? (s : List Char) : Option String :=
  String.ofList <$> decodeWith escape? id 0 s

namespace PatternElem

def escape? : List Char → Option (PatternElem × Nat)
  | '*' :: _ => some (char '*', 1)
  | s => do
    let (c, used) ← Cedar.escape? s
    some (ofChar c, used)

end PatternElem

def unescapePattern? (s : List Char) : Option (List PatternElem) :=
  decodeWith PatternElem.escape? PatternElem.ofChar 0 s

end ClusterPolicy.Cedar
