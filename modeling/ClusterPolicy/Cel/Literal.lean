import ClusterPolicy.Cel.Expr
import ClusterPolicy.Cel.Lexeme
import ClusterPolicy.Number.Long

namespace ClusterPolicy.Cel

open Number (Double)

/-! Numbers -/

/-- The longest run of digits, if there is one, and what follows it. -/
def digits? (radix : Nat) (s : List Char) : Option (List Char × List Char) :=
  let digits := s.takeWhile (Text.isDigit radix)
  if digits.isEmpty then none else some (digits, s.dropWhile (Text.isDigit radix))

/-- A point and the digits behind it. -/
def fraction (s : List Char) : List Char × List Char :=
  match s with
  | '.' :: rest => (digits? 10 rest).getD ([], s)
  | _ => ([], s)

/-- The power of ten that `e` and an optional sign introduce. -/
def scale? : List Char → Option (Int × List Char)
  | [] => none
  | e :: rest =>
    if e = 'e' ∨ e = 'E' then
      let (sign, rest) : Int × List Char :=
        match rest with
        | '-' :: rest => (-1, rest)
        | '+' :: rest => (1, rest)
        | rest => (1, rest)
      (digits? 10 rest).map fun (digits, rest) => (sign * ((Text.natural? 10 digits).getD 0 : Nat), rest)
    else none

/-- Without `0x` in front of its digits, radix sixteen; without a trailing `u`, signed. -/
def integer (radix : Nat) (digits rest : List Char) : Option (Literal × List Char) := do
  let value ← Text.natural? radix digits
  let signed := (Number.long? value).map fun v => (Literal.int v, rest)
  match rest with
  | c :: after =>
    if c = 'u' ∨ c = 'U' then
      if value < UInt64.size then some (.uint (.ofNat value), after) else none
    else signed
  | [] => signed

/-- What stands behind `0x` in front of a hexadecimal number. -/
def hexadecimal? : List Char → Option (List Char)
  | '0' :: x :: rest => if x = 'x' ∨ x = 'X' then some rest else none
  | _ => none

namespace Parser

def integerLiteral (radix : Nat) (start digits rest : List Char) : Outcome Literal :=
  match integer radix digits rest with
  | some (value, rest) => .ok value rest
  | none => .fail .integerRange start

def number : Parser Literal := fun s =>
  match hexadecimal? s with
  | some inside =>
    match digits? 16 inside with
    | some (digits, rest) => integerLiteral 16 s digits rest
    | none => .fail .unexpectedInput inside
  | none =>
    match digits? 10 s with
    | none => .miss s
    | some (whole, rest) =>
      let (behind, rest) := fraction rest
      let value (scale : Int) : Literal :=
        .double (.ofDecimal ((Text.natural? 10 (whole ++ behind)).getD 0) (scale - behind.length))
      match scale? rest with
      | some (scale, rest) => .ok (value scale) rest
      | none => if behind.isEmpty then integerLiteral 10 s whole rest else .ok (value 0) rest

/-- An integer behind an odd number of minus signs. Its magnitude may be one more than that of a
positive one; what could go on as another number is left to `number`. -/
def negatedInteger : Parser Literal := do
  blanks
  fun s =>
    let candidate :=
      match (hexadecimal? s).bind (digits? 16) with
      | some (digits, rest) => some (16, digits, rest)
      | none => (digits? 10 s).map fun (digits, rest) => (10, digits, rest)
    match candidate with
    | none => .miss s
    | some (radix, digits, rest) =>
      let magnitude := (Text.natural? radix digits).getD 0
      match Number.long? (-magnitude) with
      | some value =>
        if rest.head?.any fun c => ['.', 'e', 'E', 'u', 'U'].contains c then .miss s
        else .ok (.int value) rest
      | none => .miss s

end Parser

/-! Strings -/

/-- A part of a string literal: a character, or a number from an escape that gives one. -/
inductive StringPart
  | char (c : Char)
  | code (n : Nat)

namespace StringPart

/-- In a string a number is the code of a character. -/
def toChar : StringPart → Char
  | char c => c
  | code n => Char.ofNat n

/-- In bytes a number is one byte. -/
def toBytes : StringPart → List UInt8
  | char c => Text.utf8 c
  | code n => [.ofNat n]

end StringPart

structure StringStyle where
  raw : Bool
  bytes : Bool
  quote : Char
  triple : Bool

namespace StringStyle

def closing (style : StringStyle) : List Char :=
  List.replicate (if style.triple then 3 else 1) style.quote

end StringStyle

/-- The first `count` characters as one hexadecimal number; a plus sign may take the place of the
first digit. -/
def hexCode? (count : Nat) (s : List Char) : Option Nat :=
  let digits := s.take count
  if digits.length < count then none
  else
    match digits with
    | '+' :: digits => Text.natural? 16 digits
    | digits => Text.natural? 16 digits

/-- The part that an escape stands for, and how many characters behind the backslash it takes. -/
def escape (bytes : Bool) : List Char → Except Problem (StringPart × Nat)
  | [] => .error .unterminatedString
  | c :: rest =>
    let single (value : Char) : Except Problem (StringPart × Nat) := .ok (.char value, 1)
    let unicode (count : Nat) : Except Problem (StringPart × Nat) :=
      match (hexCode? count rest).bind Text.scalar? with
      | some value => .ok (.char value, count + 1)
      | none => .error .unicodeEscape
    match c with
    | '\\' | '"' | '\'' | '\x60' | '?' => single c
    | 'a' => single '\x07'
    | 'b' => single '\x08'
    | 'f' => single '\x0c'
    | 'n' => single '\n'
    | 'r' => single '\r'
    | 't' => single '\t'
    | 'v' => single '\x0b'
    | 'x' | 'X' =>
      match hexCode? 2 rest with
      | some value => .ok (.code value, 3)
      | none => .error .escapeSequence
    | 'u' => if bytes then .error .escapeSequence else unicode 4
    | 'U' => if bytes then .error .escapeSequence else unicode 8
    | c =>
      if '0' ≤ c ∧ c ≤ '3' ∧ 2 ≤ rest.length then
        match Text.natural? 8 (c :: rest.take 2) with
        | some value => .ok (.code value, 3)
        | none => .error .escapeSequence
      else .error .escapeSequence

/-- The parts up to the closing quotes, after leaving out `skip` characters, and what follows. -/
def stringParts (style : StringStyle) (skip : Nat) :
    List Char → Except Problem (List StringPart × List Char)
  | [] => .error .unterminatedString
  | c :: rest =>
    match skip with
    | n + 1 => stringParts style n rest
    | 0 =>
      if style.closing.isPrefixOf (c :: rest) then .ok ([], (c :: rest).drop style.closing.length)
      else if !style.triple && (c = '\n' || c = '\r') then .error .newlineInString
      else if c = '\\' && !style.raw then do
        let (part, used) ← escape style.bytes rest
        let (parts, after) ← stringParts style used rest
        return (part :: parts, after)
      else do
        let (parts, after) ← stringParts style 0 rest
        return (.char c :: parts, after)

/-- The letters and quotes that open a string literal, and its inside. -/
def openString? (s : List Char) : Option (StringStyle × List Char) :=
  let letters := (s.take 2).takeWhile fun c => ['r', 'R', 'b', 'B'].contains c
  let style (quote : Char) (triple : Bool) : StringStyle :=
    ⟨letters.any fun c => c = 'r' || c = 'R', letters.any fun c => c = 'b' || c = 'B', quote, triple⟩
  match s.drop letters.length with
  | a :: b :: c :: rest =>
    if a = '"' ∨ a = '\'' then
      if b = a ∧ c = a then some (style a true, rest) else some (style a false, b :: c :: rest)
    else none
  | a :: rest => if a = '"' ∨ a = '\'' then some (style a false, rest) else none
  | [] => none

namespace Parser

def stringLiteral : Parser Literal := fun s =>
  match openString? s with
  | none => .miss s
  | some (style, inside) =>
    match stringParts style 0 inside with
    | .error problem => .fail problem s
    | .ok (parts, rest) =>
      .ok (if style.bytes then .bytes (parts.flatMap StringPart.toBytes)
        else .string (String.ofList (parts.map StringPart.toChar))) rest

def literal : Parser Literal :=
  firstOf stringLiteral
    [constant (.bool true) (word "true"), constant (.bool false) (word "false"),
      constant .null (word "null"), number]

end Parser

end ClusterPolicy.Cel
