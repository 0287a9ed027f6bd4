import ClusterPolicy.Yaml.Flow

/-! Documents in lines: the indentation of a line says what it belongs to. -/

namespace ClusterPolicy.Yaml

abbrev Line := List Char

def indentation (line : Line) : Nat := (line.takeWhile (· = ' ')).length

def content (line : Line) : List Char := line.dropWhile (· = ' ')

/-- Whether nothing but a comment is left. -/
def isVoid (s : List Char) : Bool :=
  match s.dropWhile Flow.isBlank with
  | [] => true
  | c :: _ => c = '#'

def skipVoid (lines : List Line) : List Line := lines.dropWhile isVoid

/-- A plain scalar that ends with its line or at a comment. It must not look like a key. -/
def plainToComment (blankBefore : Bool) : List Char → Option (List Char)
  | [] => some []
  | c :: rest =>
    if c = '#' && blankBefore then some []
    else if c = ':' && (rest.isEmpty || rest.head?.any Flow.isBlank) then none
    else (c :: ·) <$> plainToComment (Flow.isBlank c) rest

/-- Reads a node in brackets or quotes over the lines it takes. -/
def flowNode (first : List Char) (rest : List Line) : Option (Yaml × List Line) := do
  let text := first ++ rest.flatMap ('\n' :: ·)
  let (node, after) ← Flow.node (text.length + 1) text
  match after.splitOn '\n' with
  | [] => some (node, [])
  | tail :: lines => if isVoid tail then some (node, lines) else none

/-- A node that starts in the middle of a line. -/
def inlineNode (first : List Char) (rest : List Line) : Option (Yaml × List Line) :=
  match first with
  | [] => some (.null, rest)
  | c :: more =>
    if c = '[' ∨ c = '\x7b' ∨ c = '"' ∨ c = '\'' then flowNode first rest
    else if Flow.isReserved c || (c = '-' && (more.isEmpty || more.head?.any Flow.isBlank)) then none
    else do
      let text ← plainToComment false first
      some (.scalar (String.ofList (Flow.trimRight text)) true, rest)

/-- What stands before the colon of a key, and what behind. -/
def plainKey? : List Char → Option (List Char × List Char)
  | [] => none
  | ':' :: [] => some ([], [])
  | ':' :: c :: rest =>
    if Flow.isBlank c then some ([], rest) else (plainKey? (c :: rest)).map fun (k, v) => (':' :: k, v)
  | c :: rest =>
    if Flow.isBlank c && rest.head? = some '#' then none
    else (plainKey? rest).map fun (k, v) => (c :: k, v)

/-- The key that a line starts with, and what is left of the line. -/
def key? (s : List Char) : Option (String × List Char) :=
  match s with
  | [] => none
  | c :: _ =>
    if c = '"' ∨ c = '\'' then do
      let (key, rest) ← Flow.quoted s
      match rest.dropWhile Flow.isBlank with
      | ':' :: rest => if rest.isEmpty || rest.head?.any Flow.isBlank then some (key, rest) else none
      | _ => none
    else if Flow.isReserved c then none
    else do
      let (key, rest) ← plainKey? s
      some (String.ofList (Flow.trimRight key), rest)

def isItem (s : List Char) : Bool :=
  match s with
  | '-' :: rest => rest.isEmpty || rest.head?.any Flow.isBlank
  | _ => false

mutual

/-- The node in the lines that are indented by at least `least`; null if there are none. -/
def block (least : Nat) : Nat → List Line → Option (Yaml × List Line)
  | 0, _ => none
  | fuel + 1, lines =>
    match skipVoid lines with
    | [] => some (.null, [])
    | line :: rest =>
      let indent := indentation line
      if indent < least then some (.null, line :: rest)
      else if isItem (content line) then do
        let (items, rest) ← itemsAt indent fuel (line :: rest)
        some (.sequence items, rest)
      else if (key? (content line)).isSome then do
        let (entries, rest) ← entriesAt indent fuel (line :: rest)
        some (.mapping entries, rest)
      else inlineNode (content line) rest

/-- The items of a sequence. What stands behind a dash counts as indented further. -/
def itemsAt (indent : Nat) : Nat → List Line → Option (List Yaml × List Line)
  | 0, _ => none
  | fuel + 1, lines =>
    match skipVoid lines with
    | [] => some ([], [])
    | line :: rest =>
      if indentation line < indent || !isItem (content line) && indentation line = indent then
        some ([], line :: rest)
      else if indent < indentation line then none
      else do
        let inside := List.replicate (indent + 1) ' ' ++ (content line).drop 1
        let (item, rest) ← block (indent + 1) fuel (inside :: rest)
        let (items, rest) ← itemsAt indent fuel rest
        some (item :: items, rest)

/-- The entries of a mapping. A sequence may stand below its key without further indentation. -/
def entriesAt (indent : Nat) : Nat → List Line → Option (List (String × Yaml) × List Line)
  | 0, _ => none
  | fuel + 1, lines =>
    match skipVoid lines with
    | [] => some ([], [])
    | line :: rest =>
      if indentation line < indent then some ([], line :: rest)
      else if indent < indentation line then none
      else do
        let (key, value) ← key? (content line)
        let (node, rest) ←
          if isVoid value then
            match skipVoid rest with
            | [] => some (.null, [])
            | next :: after =>
              let least := if isItem (content next) then indent else indent + 1
              block least fuel (next :: after)
          else inlineNode (value.dropWhile Flow.isBlank) rest
        let (entries, rest) ← entriesAt indent fuel rest
        some ((key, node) :: entries, rest)

end

/-- The node that takes up all lines. -/
def ofLines? (lines : List Line) : Option Yaml := do
  let (node, rest) ← block 0 (lines.flatten.length + 2 * lines.length + 1) lines
  if (skipVoid rest).isEmpty then some node else none

/-- What stands behind the marker of a new document. -/
def afterMarker? : Line → Option Line
  | '-' :: '-' :: '-' :: rest =>
    if rest.isEmpty || rest.head?.any Flow.isBlank then some ([' ', ' ', ' '] ++ rest) else none
  | _ => none

/-- The lines of each document. Without a marker, void lines alone make no document. -/
def documentLines (marked : Bool) (document : List Line) : List Line → List (List Line)
  | [] => if marked || !(skipVoid document).isEmpty then [document] else []
  | line :: rest =>
    match afterMarker? line with
    | none => documentLines marked (document ++ [line]) rest
    | some first =>
      (if marked || !(skipVoid document).isEmpty then [document] else []) ++
        documentLines true [first] rest

def dropReturn (line : Line) : Line :=
  match line.getLast? with
  | some '\r' => line.dropLast
  | _ => line

/-- The documents of a stream, each read on its own. -/
def documents (text : String) : List (Option Yaml) :=
  (documentLines false [] ((text.toList.splitOn '\n').map dropReturn)).map ofLines?

end ClusterPolicy.Yaml
