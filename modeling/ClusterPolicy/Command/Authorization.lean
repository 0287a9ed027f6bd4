import ClusterPolicy.Cedar.Policy.Json
import ClusterPolicy.Command.RequestFile
import ClusterPolicy.Json.Text
import ClusterPolicy.Tier

/-! One request against stores in files. -/

namespace ClusterPolicy.Command

/-- The last part of a path, if it names a file. -/
def fileName? (path : String) : Option String :=
  match ((path.toList.splitOn '/').filter fun part => part ≠ [] && part ≠ ['.']).getLast? with
  | some part => if part = ['.', '.'] then none else some (String.ofList part)
  | none => none

/-- A file name cut at its last point; a point at the start does not count. -/
def stemAndExtension (name : String) : String × Option String :=
  match (name.toList.splitOn '.').reverse with
  | last :: before :: more =>
    if before = [] && more = [] then (name, none)
    else (String.ofList (['.'].intercalate (before :: more).reverse), some (String.ofList last))
  | _ => (name, none)

/-- A store is named after its file. -/
def storeName (path : String) : String := ((fileName? path).map fun name => (stemAndExtension name).1).getD path

def isJsonFile (path : String) : Bool :=
  ((fileName? path).bind fun name => (stemAndExtension name).2) = some "json"

/-- A file with the extension `json` holds a policy set in that form, and any other the text of
policies. -/
def loadStore (files : Files) (path : String) : Except Error Store := do
  let text ← files.read path
  let name := storeName path
  if isJsonFile path then
    match (Json.parse? RequestFile.depthLimit text).bind Cedar.PolicySet.ofJson? with
    | some policies => .ok (.ofPolicySet name policies)
    | none => .error (.policy (.policyParse name))
  else liftError (Store.ofText name text)

/-- Reads the stores, then the request. -/
def authorize (files : Files) (stores : List String) (request : String) : Except Error TieredResponse := do
  let stores ← stores.mapM (loadStore files)
  let file ← RequestFile.ofText (← files.read request)
  let entities ← file.toEntities
  return evaluate stores (← file.toRequest) entities

namespace Report

/-- The reasons with ids as they are shown, in the order of these. -/
def reasons (response : TieredResponse) : List Reason :=
  (response.reasons.map fun r => ⟨Text.shownId r.policyId, r.store⟩).mergeSort
    fun a b => decide (a.policyId ≤ b.policyId)

def errors (response : TieredResponse) : List String :=
  (response.errors.map Text.shownId).mergeSort fun a b => decide (a ≤ b)

/-- One fact on a line. -/
def text (response : TieredResponse) (stores : List String) : String :=
  let tier := response.tier.toList.map fun tier =>
    "tier: " ++ tier.repr ++ " (" ++ (stores[tier]?).getD "" ++ ")"
  "\n".intercalate (("decision: " ++ response.verdict.name) :: tier ++
    (reasons response).map (fun r => "reason: " ++ r.policyId ++ " (" ++ r.store ++ ")") ++
    (errors response).map (fun id => "error: " ++ id))

def json (response : TieredResponse) : Json :=
  .object [
    ("decision", .string response.verdict.name),
    ("tier", (response.tier.map fun tier => Json.int tier).getD .null),
    ("reasons", .array ((reasons response).map fun r =>
      .object [("policyId", .string r.policyId), ("store", .string r.store)])),
    ("errors", .array ((errors response).map .string))]

end Report

structure AuthorizeOptions where
  /-- In order of precedence -/
  stores : List String
  request : String
  json : Bool
  deriving DecidableEq, Repr

/-- What an authorization prints. -/
def report (files : Files) (options : AuthorizeOptions) : Except Error String := do
  let response ← authorize files options.stores options.request
  return if options.json then (Report.json response).pretty "" else Report.text response options.stores

end ClusterPolicy.Command
