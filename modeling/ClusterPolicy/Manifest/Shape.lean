import ClusterPolicy.Text.Debug
import ClusterPolicy.Yaml

/-! The shapes that the nodes of a cluster object must have. -/

namespace ClusterPolicy.Manifest

inductive Shape
  | text
  /-- This text and no other, and not null -/
  | constant (text : String)
  | integer
  | flag
  | any
  | list (item : Shape)
  /-- A mapping from any keys to values of one shape -/
  | table (value : Shape)
  /-- An object with the fields that it may have. Under any other key it may hold anything -/
  | object (name : String) (fields : List (String × Shape))

namespace Shape

/-- What is called for where something else is found. -/
def expectation : Shape → String
  | text => "a string"
  | constant _ => "a string"
  | integer => "i64"
  | flag => "a boolean"
  | any => "anything"
  | list _ => "a sequence"
  | table _ => "a map"
  | object name _ => name

/-- How a scalar is named in messages, its number as it is written. -/
def scalarName (source : String) (plain : Bool) : String :=
  if !plain then "string " ++ Text.shownString source
  else if Yaml.isNullText source then "unit value"
  else if Yaml.isBoolText source then
    "boolean `" ++ (if ["true", "True", "TRUE"].contains source then "true" else "false") ++ "`"
  else if Yaml.isIntegerText (Yaml.dropSign source.toList) then "integer `" ++ source ++ "`"
  else if Yaml.isNumberText source then "floating point `" ++ source ++ "`"
  else "string " ++ Text.shownString source

def nodeName : Yaml → String
  | .scalar source plain => scalarName source plain
  | .sequence _ => "sequence"
  | .mapping _ => "map"

def mismatch (shape : Shape) (node : Yaml) : Except String Unit :=
  .error ("invalid type: " ++ nodeName node ++ ", expected " ++ shape.expectation)

def checkScalar (shape : Shape) (source : String) (plain : Bool) : Except String Unit :=
  let node := Yaml.scalar source plain
  match shape with
  | .any => .ok ()
  | .text => if node.string?.isSome then .ok () else mismatch shape node
  | .constant expected =>
    if node.string? = some expected then .ok ()
    else if node.string?.isSome then
      .error ("invalid value: " ++ nodeName node ++ ", expected " ++ expected)
    else mismatch shape node
  | .integer =>
    if plain && Yaml.isIntegerText (Yaml.dropSign source.toList) then .ok () else mismatch shape node
  | .flag => if plain && Yaml.isBoolText source then .ok () else mismatch shape node
  -- Null is a list, a table and an object without anything in it.
  | .list _ | .table _ | .object .. => if node.isNull then .ok () else mismatch shape node

/-- Whether a field of the shape counts as absent where it is null. -/
def isOptional : Shape → Bool
  | constant _ => false
  | _ => true

mutual

/-- Fails at the first node that does not have its shape. -/
def check (shape : Shape) : Yaml → Except String Unit
  | .scalar source plain => checkScalar shape source plain
  | .sequence items =>
    match shape with
    | .any => .ok ()
    | .list item => checkItems item items
    | _ => mismatch shape (.sequence items)
  | .mapping entries =>
    match shape with
    | .any => .ok ()
    | .table value => checkValues value entries
    | .object _ fields => checkFields fields entries
    | _ => mismatch shape (.mapping entries)

def checkItems (item : Shape) : List Yaml → Except String Unit
  | [] => .ok ()
  | node :: rest => do
    check item node
    checkItems item rest

def checkValues (value : Shape) : List (String × Yaml) → Except String Unit
  | [] => .ok ()
  | (_, node) :: rest => do
    check value node
    checkValues value rest

def checkFields (fields : List (String × Shape)) : List (String × Yaml) → Except String Unit
  | [] => .ok ()
  | (key, node) :: rest => do
    match fields.lookup key with
    | none => pure ()
    | some shape => if node.isNull && shape.isOptional then pure () else check shape node
    checkFields fields rest

end

end Shape

end ClusterPolicy.Manifest
