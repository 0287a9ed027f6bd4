import ClusterPolicy.Text.Cut

/-! Identifiers, entity type names and entity references. -/

namespace ClusterPolicy.Cedar

def identStart (c : Char) : Bool := c = '_' || c.isAlpha

def identPart (c : Char) : Bool := c = '_' || c.isAlphanum

def isIdent : List Char → Bool
  | [] => false
  | c :: rest => identStart c && rest.all identPart

/-- Words that are no attribute name behind a point. -/
def keywords : List String :=
  ["true", "false", "if", "then", "else", "in", "is", "like", "has"]

/-- Whether an attribute is written bare, as in `resource.name`, and not as a string. -/
def isAttribute (name : String) : Bool :=
  isIdent name.toList && !keywords.contains name && !"__cedar".toList.isPrefixOf name.toList

/-- The parts of a text between its `::`. -/
def segments : List Char → List (List Char)
  | [] => [[]]
  | ':' :: ':' :: rest => [] :: segments rest
  | c :: rest =>
    match segments rest with
    | [] => [[c]]
    | s :: more => (c :: s) :: more

def isNameSegment (s : List Char) : Bool :=
  isIdent s && !("__cedar" :: keywords).contains (String.ofList s)

/-- Identifiers joined by `::`, none of them reserved. -/
def isName (name : String) : Bool := (segments name.toList).all isNameSegment

/-- The last segment of a name. -/
def basename (name : String) : String :=
  String.ofList ((segments name.toList).getLastD [])

structure EntityUid where
  type : String
  id : String
  deriving DecidableEq, Repr, Inhabited

end ClusterPolicy.Cedar
