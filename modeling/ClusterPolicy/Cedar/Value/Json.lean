import ClusterPolicy.Cedar.Entity
import ClusterPolicy.Cedar.Expr.Json

namespace ClusterPolicy.Cedar

namespace Value

def ofExtension? (json : Json) : Option Value :=
  match json.get? "fn", json.get? "arg" with
  | some (.string "decimal"), some (.string s) => decimalOf? s
  | _, _ => none

mutual

/-- Data that is no value of the engine, such as null or a fraction, is refused. -/
def ofJson? : Json → Option Value
  | .bool b => some (.bool b)
  | .int n => return .long (← Number.long? n)
  | .string s => some (.string s)
  | .array items => return .set (← itemsOfJson? items)
  | .object members =>
    match Json.member? "__entity" members, Json.member? "__extn" members with
    | some uid, _ => return .entity (← EntityUid.ofJson? uid)
    | none, some call => ofExtension? call
    | none, none => return .record (← fieldsOfJson? members)
  | _ => none

def itemsOfJson? : List Json → Option (List Value)
  | [] => some []
  | v :: rest => return (← ofJson? v) :: (← itemsOfJson? rest)

/-- Of fields with one name the last counts. -/
def fieldsOfJson? : List (String × Json) → Option (List (String × Value))
  | [] => some []
  | (key, v) :: rest => do
    let fields ← fieldsOfJson? rest
    if (Json.member? key rest).isSome then some fields else some ((key, ← ofJson? v) :: fields)

end

/-- The fields of a record. -/
def recordOfJson? (json : Json) : Option (List (String × Value)) := do
  match ← ofJson? json with
  | record fields => some fields
  | _ => none

end Value

namespace Entity

def ofJson? (json : Json) : Option Entity := do
  let uid ← EntityUid.ofJson? (← json.get? "uid")
  let attrs ← Value.fieldsOfJson? (← (← json.get? "attrs").object?)
  let parents ← (← (← json.get? "parents").array?).mapM EntityUid.ofJson?
  return ⟨uid, attrs, parents⟩

end Entity

def Entities.ofJson? (json : Json) : Option Entities := do
  ofList? (← (← json.array?).mapM Entity.ofJson?)

end ClusterPolicy.Cedar
