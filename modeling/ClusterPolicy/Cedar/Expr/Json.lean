import ClusterPolicy.Cedar.Expr
import ClusterPolicy.Json
import ClusterPolicy.Number.Long

namespace ClusterPolicy.Cedar

def EntityUid.toJson (uid : EntityUid) : Json :=
  .object [("type", .string uid.type), ("id", .string uid.id)]

/-- `{"type", "id"}`, which may be wrapped as `{"__entity"}`. -/
def EntityUid.ofJson? (json : Json) : Option EntityUid :=
  let inner := (json.get? "__entity").getD json
  match inner.get? "type", inner.get? "id" with
  | some (.string type), some (.string id) => if isName type then some ⟨type, id⟩ else none
  | _, _ => none

namespace PatternElem

/-- One element, or all characters of a literal. -/
def ofJson? : Json → Option (List PatternElem)
  | .string "Wildcard" => some [wildcard]
  | .object [("Literal", .string s)] => some (s.toList.map char)
  | _ => none

def toJson : PatternElem → Json
  | char c => .object [("Literal", .string (String.singleton c))]
  | wildcard => .string "Wildcard"

end PatternElem

def Operator.key : Operator → String
  | equal => "=="
  | notEqual => "!="
  | less => "<"
  | lessOrEqual => "<="
  | greater => ">"
  | greaterOrEqual => ">="
  | member => "in"
  | add => "+"
  | subtract => "-"
  | multiply => "*"
  | contains => "contains"

def Operator.all : List Operator :=
  [equal, notEqual, less, lessOrEqual, greater, greaterOrEqual, member, add, subtract, multiply, contains]

def Operator.ofKey? (key : String) : Option Operator := Operator.all.find? (·.key = key)

namespace Expr

def pair (key : String) (left right : Json) : Json :=
  .object [(key, .object [("left", left), ("right", right)])]

mutual

def toJson : Expr → Json
  | bool b => .object [("Value", .bool b)]
  | long n => .object [("Value", .int n.toInt)]
  | string s => .object [("Value", .string s)]
  | entity uid => .object [("Value", .object [("__entity", uid.toJson)])]
  | var v => .object [("Var", .string v.name)]
  | and a b => pair "&&" a.toJson b.toJson
  | or a b => pair "||" a.toJson b.toJson
  | not a => .object [("!", .object [("arg", a.toJson)])]
  | neg a => .object [("neg", .object [("arg", a.toJson)])]
  | binary op a b => pair op.key a.toJson b.toJson
  | like a pattern =>
    .object [("like", .object [("left", a.toJson), ("pattern", .array (pattern.map PatternElem.toJson))])]
  | has a attr => .object [("has", .object [("left", a.toJson), ("attr", .string attr)])]
  | access a attr => .object [(".", .object [("left", a.toJson), ("attr", .string attr)])]
  | is a type => .object [("is", .object [("left", a.toJson), ("entity_type", .string type)])]
  | ite c a b =>
    .object [("if-then-else", .object [("if", c.toJson), ("then", a.toJson), ("else", b.toJson)])]
  | set items => .object [("Set", .array (itemsToJson items))]
  | record fields => .object [("Record", .object (fieldsToJson fields))]
  | decimal argument => .object [("decimal", .array [argument.toJson])]

def itemsToJson : List Expr → List Json
  | [] => []
  | e :: rest => e.toJson :: itemsToJson rest

def fieldsToJson : List (String × Expr) → List (String × Json)
  | [] => []
  | (key, e) :: rest => (key, e.toJson) :: fieldsToJson rest

end

/-- A constant of a policy: an entity, a decimal, or data made of them. -/
def ofExtension? (json : Json) : Option Expr :=
  match json.get? "fn", json.get? "arg" with
  | some (.string "decimal"), some (.string s) => some (.decimal (.string s))
  | _, _ => none

mutual

def ofValue? : Json → Option Expr
  | .bool b => some (.bool b)
  | .int n => return .long (← Number.long? n)
  | .string s => some (.string s)
  | .array values => return .set (← ofValues? values)
  | .object members =>
    match Json.member? "__entity" members, Json.member? "__extn" members with
    | some uid, _ => return .entity (← EntityUid.ofJson? uid)
    | none, some call => ofExtension? call
    | none, none =>
      if (members.map (·.1)).Nodup then return .record (← ofFields? members) else none
  | _ => none

def ofValues? : List Json → Option (List Expr)
  | [] => some []
  | v :: rest => return (← ofValue? v) :: (← ofValues? rest)

def ofFields? : List (String × Json) → Option (List (String × Expr))
  | [] => some []
  | (key, v) :: rest => return (key, ← ofValue? v) :: (← ofFields? rest)

end

/-- What an operator over named operands reads as; `operands` are the members read as expressions. -/
def ofOperands? (key : String) (members : List (String × Json)) (operands : List (String × Option Expr)) :
    Option Expr := do
  let operand (name : String) : Option Expr := (operands.lookup name).join
  let text (name : String) : Option String := (members.lookup name).bind Json.string?
  match key with
  | "&&" => return .and (← operand "left") (← operand "right")
  | "||" => return .or (← operand "left") (← operand "right")
  | "!" => return .not (← operand "arg")
  | "neg" => return .neg (← operand "arg")
  | "has" => return .has (← operand "left") (← text "attr")
  | "." => return .access (← operand "left") (← text "attr")
  | "is" =>
    let type ← text "entity_type"
    if isName type then return .is (← operand "left") type else none
  | "like" =>
    let pattern ← (← members.lookup "pattern").array?
    return .like (← operand "left") (← pattern.mapM PatternElem.ofJson?).flatten
  | "if-then-else" => return .ite (← operand "if") (← operand "then") (← operand "else")
  | key => return .binary (← Operator.ofKey? key) (← operand "left") (← operand "right")

def recordOf? (members : List (String × Json)) (fields : List (String × Option Expr)) : Option Expr :=
  if (members.map (·.1)).Nodup then
    Expr.record <$> fields.mapM fun (key, e) => (key, ·) <$> e
  else none

mutual

def ofJson? : Json → Option Expr
  | .object [("Value", value)] => ofValue? value
  | .object [("Var", .string name)] => Expr.var <$> Var.ofName? name
  | .object [("Set", .array items)] => Expr.set <$> (itemsOfJson items).mapM id
  | .object [("Record", .object members)] => recordOf? members (membersOfJson members)
  | .object [("decimal", .array [argument])] => Expr.decimal <$> ofJson? argument
  | .object [(key, .object members)] => ofOperands? key members (membersOfJson members)
  | _ => none

def itemsOfJson : List Json → List (Option Expr)
  | [] => []
  | json :: rest => ofJson? json :: itemsOfJson rest

def membersOfJson : List (String × Json) → List (String × Option Expr)
  | [] => []
  | (key, json) :: rest => (key, ofJson? json) :: membersOfJson rest

end

end Expr

end ClusterPolicy.Cedar
