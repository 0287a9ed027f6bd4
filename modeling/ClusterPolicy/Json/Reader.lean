import ClusterPolicy.Json
import ClusterPolicy.Text.Digits

namespace ClusterPolicy.Json

/-- Reads from the front of a text; the result holds what is left of it. -/
def Reader (α : Type) := List Char → Option (α × List Char)

namespace Reader

def isBlank (c : Char) : Bool := c = ' ' || c = '\t' || c = '\n' || c = '\r'

def skipBlanks (s : List Char) : List Char := s.dropWhile isBlank

/-- Four hexadecimal digits. -/
def unit? (s : List Char) : Option Nat :=
  match s with
  | a :: b :: c :: d :: _ => Text.natural? 16 [a, b, c, d]
  | _ => none

/-- The character that an escape stands for, and how many characters behind the backslash it takes. A
character beyond U+FFFF is written as two surrogates; one of them alone is refused. -/
def escape? : List Char → Option (Char × Nat)
  | '"' :: _ => some ('"', 1)
  | '\\' :: _ => some ('\\', 1)
  | '/' :: _ => some ('/', 1)
  | 'b' :: _ => some ('\x08', 1)
  | 'f' :: _ => some ('\x0c', 1)
  | 'n' :: _ => some ('\n', 1)
  | 'r' :: _ => some ('\r', 1)
  | 't' :: _ => some ('\t', 1)
  | 'u' :: rest => do
    let high ← unit? rest
    match Text.scalar? high, rest.drop 4 with
    | some c, _ => some (c, 5)
    | none, '\\' :: 'u' :: rest => do
      let low ← unit? rest
      if high < 0xDC00 ∧ 0xDC00 ≤ low ∧ low < 0xE000 then
        some (← Text.scalar? (0x10000 + (high - 0xD800) * 0x400 + (low - 0xDC00)), 11)
      else none
    | none, _ => none
  | _ => none

/-- The characters up to the closing quote, after leaving out `skip`, and what follows the quote. -/
def stringChars (skip : Nat) : Reader (List Char)
  | [] => none
  | c :: rest =>
    match skip with
    | n + 1 => stringChars n rest
    | 0 =>
      if c = '"' then some ([], rest)
      else if c = '\\' then do
        let (value, used) ← escape? rest
        let (values, rest) ← stringChars used rest
        some (value :: values, rest)
      else if c < ' ' then none
      else do
        let (values, rest) ← stringChars 0 rest
        some (c :: values, rest)

/-- A string, its opening quote included. -/
def string : Reader String
  | '"' :: rest => do
    let (chars, rest) ← stringChars 0 rest
    some (String.ofList chars, rest)
  | _ => none

def digits (s : List Char) : List Char × List Char :=
  (s.takeWhile (Text.isDigit 10), s.dropWhile (Text.isDigit 10))

def exponentSign : List Char → List Char × List Char
  | '+' :: rest => (['+'], rest)
  | '-' :: rest => (['-'], rest)
  | rest => ([], rest)

/-- A fraction or an exponent behind its mark, if the text goes on with one. -/
def numberPart (marks : List Char) (sign : List Char → List Char × List Char) : Reader (List Char)
  | [] => some ([], [])
  | c :: rest =>
    if marks.contains c then
      let (signText, rest) := sign rest
      let (digits, rest) := digits rest
      if digits.isEmpty then none else some (c :: signText ++ digits, rest)
    else some ([], c :: rest)

/-- Whether a minus comes first, and what follows it. -/
def minus : List Char → Bool × List Char
  | '-' :: rest => (true, rest)
  | rest => (false, rest)

def number (s : List Char) : Option (Json × List Char) := do
  let (negative, rest) := minus s
  let (whole, rest) := digits rest
  if whole.isEmpty || (whole.head? = some '0' && whole.length ≠ 1) then none
  else
    let (fraction, rest) ← numberPart ['.'] (fun s => ([], s)) rest
    let (scale, rest) ← numberPart ['e', 'E'] exponentSign rest
    if fraction.isEmpty && scale.isEmpty && !(negative && whole = ['0']) then
      let value ← Text.natural? 10 whole
      some (.int (if negative then -value else value), rest)
    else
      let sign := if negative then ['-'] else []
      some (.number (String.ofList (sign ++ whole ++ fraction ++ scale)), rest)

def word (text : String) (value : Json) (s : List Char) : Option (Json × List Char) :=
  if text.toList.isPrefixOf s then some (value, s.drop text.length) else none

/-- What follows the first item: more of them behind commas, then the closing bracket. -/
def moreItems {α : Type} (item : Reader α) (close : Char) : Nat → Reader (List α)
  | 0, _ => none
  | n + 1, s =>
    match skipBlanks s with
    | c :: rest =>
      if c = close then some ([], rest)
      else if c = ',' then do
        let (value, rest) ← item (skipBlanks rest)
        let (values, rest) ← moreItems item close n rest
        some (value :: values, rest)
      else none
    | [] => none

def items {α : Type} (item : Reader α) (close : Char) (s : List Char) : Option (List α × List Char) :=
  match skipBlanks s with
  | [] => none
  | c :: rest =>
    if c = close then some ([], rest)
    else do
      let (value, rest) ← item (c :: rest)
      let (values, rest) ← moreItems item close s.length rest
      some (value :: values, rest)

def member (nested : Reader Json) (s : List Char) : Option ((String × Json) × List Char) := do
  let (key, rest) ← string s
  match skipBlanks rest with
  | ':' :: rest =>
    let (value, rest) ← nested rest
    some ((key, value), rest)
  | _ => none

/-- Anything but an array and an object. -/
def scalar : Reader Json
  | '"' :: rest => do
    let (value, rest) ← string ('"' :: rest)
    some (.string value, rest)
  | 'n' :: rest => word "null" .null ('n' :: rest)
  | 't' :: rest => word "true" (.bool true) ('t' :: rest)
  | 'f' :: rest => word "false" (.bool false) ('f' :: rest)
  | rest => number rest

def valueWith (nested : Reader Json) (s : List Char) : Option (Json × List Char) :=
  match skipBlanks s with
  | '\x7b' :: rest => do
    let (members, rest) ← items (member nested) '\x7d' rest
    some (.object members, rest)
  | '[' :: rest => do
    let (values, rest) ← items nested ']' rest
    some (.array values, rest)
  | rest => scalar rest

/-- Arrays and objects nest less than `depth` deep. -/
def value : Nat → Reader Json
  | 0 => fun _ => none
  | 1 => fun s => scalar (skipBlanks s)
  | depth + 2 => valueWith (value (depth + 1))

end Reader

/-- A text that holds one value and nothing else. -/
def parse? (depth : Nat) (text : String) : Option Json := do
  let (json, rest) ← Reader.value depth text.toList
  if (Reader.skipBlanks rest).isEmpty then some json else none

end ClusterPolicy.Json
