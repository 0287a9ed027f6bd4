import ClusterPolicy.Cedar.Evaluation
import ClusterPolicy.Cedar.Grammar
import ClusterPolicy.Cedar.Value.Json
import ClusterPolicy.Command.Error
import ClusterPolicy.Json.Reader

namespace ClusterPolicy.Command

/-- A request as it is written down. -/
structure RequestFile where
  principal : String
  action : String
  resource : String
  context : Option Json
  entities : Option Json

namespace RequestFile

/-- Values nest less deep than this. -/
def depthLimit : Nat := 128

def fieldNames : List String := ["principal", "action", "resource", "context", "entities"]

/-- A field is given at most once. -/
def field? (members : List (String × Json)) (key : String) : Option (Option Json) :=
  match members.filter (·.1 = key) with
  | [] => some none
  | [(_, value)] => some (some value)
  | _ => none

def isPresent : Json → Bool
  | .null => false
  | _ => true

/-- A text for each of the first three fields; null is like nothing for the others. -/
def ofFields? (members : List (String × Json)) : Option RequestFile := do
  let text (key : String) : Option String := do (← (← field? members key)).string?
  let optional (key : String) : Option (Option Json) := return (← field? members key).filter isPresent
  return ⟨← text "principal", ← text "action", ← text "resource", ← optional "context",
    ← optional "entities"⟩

/-- An object of the fields, or an array of their values in order. -/
def ofJson? : Json → Option RequestFile
  | .object members => ofFields? members
  | .array values =>
    if fieldNames.length < values.length then none else ofFields? (fieldNames.zip values)
  | _ => none

def ofText (text : String) : Except Error RequestFile :=
  match (Json.parse? depthLimit text).bind ofJson? with
  | some file => .ok file
  | none => .error .json

def present {α : Type} (field : RequestField) : Option α → Except Error α
  | some value => .ok value
  | none => .error (.invalidRequest field)

/-- The request that the file asks. -/
def toRequest (file : RequestFile) : Except Error Cedar.Request := do
  let context ← present .context ((file.context.map Cedar.Value.recordOfJson?).getD (some []))
  let principal ← present .principal (Cedar.EntityUid.parse? file.principal)
  let action ← present .action (Cedar.EntityUid.parse? file.action)
  let resource ← present .resource (Cedar.EntityUid.parse? file.resource)
  return ⟨principal, action, resource, context⟩

def toEntities (file : RequestFile) : Except Error Cedar.Entities :=
  present .entities ((file.entities.map Cedar.Entities.ofJson?).getD (some .empty))

end RequestFile

end ClusterPolicy.Command
