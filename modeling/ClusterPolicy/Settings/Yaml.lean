import ClusterPolicy.Error
import ClusterPolicy.Settings
import ClusterPolicy.Yaml.Document

namespace ClusterPolicy.Settings

/-- What a configuration says beyond the defaults. -/
structure Overrides where
  kinds : List (String × String)
  authenticationGroup : Option String
  deriving DecidableEq, Repr

/-- The one document of a text; no document is like an empty one. -/
def document? (text : String) : Option Yaml :=
  match Yaml.documents text with
  | [] => some .null
  | [document] => document
  | _ => none

/-- The entries of a mapping, which are none where nothing is written. -/
def entriesOrNone? : Yaml → Option (List (String × Yaml))
  | .scalar "" true => some []
  | node => node.entries?

/-- The value under a key, which must not be repeated. -/
def field? (entries : List (String × Yaml)) (key : String) : Option (Option Yaml) :=
  match entries.filter (·.1 = key) with
  | [] => some none
  | [(_, node)] => some (some node)
  | _ => none

/-- Any scalar is a kind, in the text it is written with. -/
def kindsOfYaml? (node : Yaml) : Option (List (String × String)) := do
  (← entriesOrNone? node).mapM fun (plural, kind) => (plural, ·) <$> kind.sourceText?

def groupOfYaml? (node : Yaml) : Option (Option String) :=
  if node.isNull then some none else some <$> node.sourceText?

def Overrides.ofYaml? (node : Yaml) : Option Overrides := do
  let entries ← entriesOrNone? node
  let kinds ← field? entries "resourceKinds"
  let group ← field? entries "authenticationGroup"
  return ⟨← (kinds.map kindsOfYaml?).getD (some []), ← (group.map groupOfYaml?).getD (some none)⟩

/-- The defaults, with kinds added or replaced. -/
def override (overrides : Overrides) : Except ConfigurationProblem Settings :=
  if overrides.authenticationGroup = some "" then .error .emptyAuthenticationGroup
  else .ok ⟨default.resourceKinds.insertAll overrides.kinds,
    overrides.authenticationGroup.getD default.authenticationGroup⟩

/-- Reads the text of a configuration file. -/
def ofText (text : String) : Except Error Settings :=
  match (document? text).bind Overrides.ofYaml? with
  | none => .error (.configuration .invalid)
  | some overrides => (override overrides).mapError .configuration

end ClusterPolicy.Settings
