import ClusterPolicy.Text.Utf8

/-! Parsers that read from the front of a text. A parser that misses leaves room for an alternative;
one that fails ends the reading, and one that overflows ends the program. -/

namespace ClusterPolicy.Cel

inductive Problem
  | unexpectedInput
  | tooDeep
  | integerRange
  | unterminatedString
  | newlineInString
  | escapeSequence
  | unicodeEscape
  | hasArgument
  deriving DecidableEq, Repr

def Problem.message : Problem → String
  | unexpectedInput => "unexpected input"
  | tooDeep => "expression nested too deeply"
  | integerRange => "integer literal out of range"
  | unterminatedString => "unterminated string literal"
  | newlineInString => "newline in string literal"
  | escapeSequence => "invalid escape sequence"
  | unicodeEscape => "invalid unicode escape"
  | hasArgument => "has() requires a single field selection"

/-- A place in the text is given by what is left of it. -/
inductive Outcome (α : Type)
  | ok (value : α) (rest : List Char)
  | miss (rest : List Char)
  | fail (problem : Problem) (rest : List Char)
  /-- A number has no negation -/
  | overflow

def Parser (α : Type) := List Char → Outcome α

namespace Parser

variable {α β : Type}

instance : Monad Parser where
  pure a := fun s => .ok a s
  bind p f := fun s =>
    match p s with
    | .ok a rest => f a rest
    | .miss rest => .miss rest
    | .fail problem rest => .fail problem rest
    | .overflow => .overflow

def fail (problem : Problem) : Parser α := fun s => .fail problem s

def overflow : Parser α := fun _ => .overflow

def constant (a : α) (p : Parser β) : Parser α := do
  discard p
  return a

/-- No alternative may be tried where `p` misses. -/
def commit (p : Parser α) : Parser α := fun s =>
  match p s with
  | .miss rest => .fail .unexpectedInput rest
  | outcome => outcome

def orElse (p q : Parser α) : Parser α := fun s =>
  match p s with
  | .miss _ => q s
  | outcome => outcome

/-- The first that does not miss, or the last. -/
def firstOf (last : Parser α) (before : List (Parser α)) : Parser α := before.foldr orElse last

def optional (p : Parser α) : Parser (Option α) := fun s =>
  match p s with
  | .ok a rest => .ok (some a) rest
  | .miss _ => .ok none s
  | .fail problem rest => .fail problem rest
  | .overflow => .overflow

/-- Passes on the length of the text, which bounds every repetition in it. -/
def bounded (p : Nat → Parser α) : Parser α := fun s => p s.length s

/-- How often `p` can be read. -/
def countUpTo (p : Parser α) : Nat → Parser Nat
  | 0 => pure 0
  | n + 1 => do
    match ← p.optional with
    | none => pure 0
    | some _ => (· + 1) <$> countUpTo p n

def count (p : Parser α) : Parser Nat := bounded (countUpTo p)

/-- What follows the first item. The list ends before a separator with no item behind it. -/
def itemsUpTo (separator : Parser β) (item : Parser α) : Nat → Parser (List α)
  | 0 => pure []
  | n + 1 => do
    match ← optional (separator *> item) with
    | none => pure []
    | some a => (a :: ·) <$> itemsUpTo separator item n

def items (separator : Parser β) (item : Parser α) : Parser (List α) := do
  match ← item.optional with
  | none => pure []
  | some a => (a :: ·) <$> bounded (itemsUpTo separator item)

end Parser

end ClusterPolicy.Cel
