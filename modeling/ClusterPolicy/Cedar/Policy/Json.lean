import ClusterPolicy.Cedar.Expr.Json
import ClusterPolicy.Cedar.Policy

namespace ClusterPolicy.Cedar

def Scope.toJson : Scope → Json
  | any => .object [("op", .string "All")]
  | equal uid => .object [("op", .string "=="), ("entity", uid.toJson)]
  | within uid => .object [("op", .string "in"), ("entity", uid.toJson)]
  | ofType type => .object [("op", .string "is"), ("entity_type", .string type)]

def ActionScope.toJson : ActionScope → Json
  | any => .object [("op", .string "All")]
  | equal uid => .object [("op", .string "=="), ("entity", uid.toJson)]
  | within [uid] => .object [("op", .string "in"), ("entity", uid.toJson)]
  | within uids => .object [("op", .string "in"), ("entities", .array (uids.map EntityUid.toJson))]

def Clause.toJson (clause : Clause) : Json :=
  .object [("kind", .string (if clause.negated then "unless" else "when")), ("body", clause.body.toJson)]

def Policy.toJson (policy : Policy) : Json :=
  .object [
    ("effect", .string policy.effect.name),
    ("principal", policy.principal.toJson),
    ("action", policy.action.toJson),
    ("resource", policy.resource.toJson),
    ("conditions", .array (policy.clauses.map Clause.toJson)),
    ("annotations", .object (policy.annotations.entries.map fun (key, value) => (key, .string value)))]

/-- The members of an object that has no others than those of `keys`. -/
def membersAmong? (keys : List String) (json : Json) : Option (List (String × Json)) := do
  let members ← json.distinctMembers?
  if members.all fun (key, _) => keys.contains key then some members else none

def Scope.ofJson? (json : Json) : Option Scope := do
  match ← (← json.get? "op").string? with
  | "All" => return any
  | "==" => return equal (← EntityUid.ofJson? (← json.get? "entity"))
  | "in" => return within (← EntityUid.ofJson? (← json.get? "entity"))
  | "is" =>
    let type ← (← json.get? "entity_type").string?
    if isName type then return ofType type else none
  | _ => none

/-- Actions are of a type whose last segment is `Action`. -/
def actionOfJson? (json : Json) : Option EntityUid := do
  let uid ← EntityUid.ofJson? json
  if basename uid.type = "Action" then some uid else none

def ActionScope.ofJson? (json : Json) : Option ActionScope := do
  match ← (← json.get? "op").string? with
  | "All" => return any
  | "==" => return equal (← actionOfJson? (← json.get? "entity"))
  | "in" =>
    match json.get? "entity", json.get? "entities" with
    | some uid, _ => return within [← actionOfJson? uid]
    | none, some uids => return within (← (← uids.array?).mapM actionOfJson?)
    | none, none => none
  | _ => none

def Clause.ofJson? (json : Json) : Option Clause := do
  let body ← Expr.ofJson? (← json.get? "body")
  match ← (← json.get? "kind").string? with
  | "when" => return ⟨false, body⟩
  | "unless" => return ⟨true, body⟩
  | _ => none

def effectOfName? : String → Option Effect
  | "permit" => some .permit
  | "forbid" => some .forbid
  | _ => none

def annotationsOfJson? (json : Json) : Option (SortedMap String) := do
  let entries ← (← json.distinctMembers?).mapM fun (key, value) => do
    if isIdent key.toList then some (key, ← value.string?) else none
  return .ofList entries

def Policy.ofJson? (id : String) (json : Json) : Option Policy := do
  let members ← membersAmong?
    ["effect", "principal", "action", "resource", "conditions", "annotations"] json
  return {
    id
    effect := ← effectOfName? (← (← members.lookup "effect").string?)
    annotations := ← annotationsOfJson? ((members.lookup "annotations").getD (.object []))
    principal := ← Scope.ofJson? (← members.lookup "principal")
    action := ← ActionScope.ofJson? (← members.lookup "action")
    resource := ← Scope.ofJson? (← members.lookup "resource")
    clauses := ← (← (← members.lookup "conditions").array?).mapM Clause.ofJson? }

namespace PolicySet

def toJson (policies : PolicySet) : Json :=
  .object [
    ("staticPolicies", .object (policies.entries.map fun (id, policy) => (id, policy.toJson))),
    ("templates", .object []),
    ("templateLinks", .array [])]

/-- Templates and their links are not supported. -/
def ofJson? (json : Json) : Option PolicySet := do
  let members ← membersAmong? ["staticPolicies", "templates", "templateLinks"] json
  let policies ← (← (← members.lookup "staticPolicies").distinctMembers?).mapM fun (id, policy) =>
    (id, ·) <$> Policy.ofJson? id policy
  match ← members.lookup "templates", ← members.lookup "templateLinks" with
  | .object [], .array [] => return .ofList policies
  | _, _ => none

end PolicySet

end ClusterPolicy.Cedar
