import ClusterPolicy.Json
import ClusterPolicy.Settings

namespace ClusterPolicy.Settings

def kindsOfJson? (json : Json) : Option (SortedMap String) := do
  let entries ← (← json.object?).mapM fun (plural, kind) => (plural, ·) <$> kind.string?
  return .ofList entries

/-- A member that is missing keeps its default; kinds that are given replace those of the default. -/
def ofJson? (json : Json) : Option Settings := do
  let members ← json.object?
  let kinds ← (match Json.member? "resourceKinds" members with
    | some kinds => kindsOfJson? kinds
    | none => some default.resourceKinds)
  let group ← (match Json.member? "authenticationGroup" members with
    | some group => group.string?
    | none => some default.authenticationGroup)
  return ⟨kinds, group⟩

end ClusterPolicy.Settings
