import ClusterPolicy.Command.Error
import ClusterPolicy.Json.Text
import ClusterPolicy.Rbac.Compilation
import ClusterPolicy.Settings.Yaml

/-! Manifest files to policies. -/

namespace ClusterPolicy.Command

inductive OutputFormat
  | cedar
  | json
  deriving DecidableEq, Repr

namespace OutputFormat

def name : OutputFormat → String
  | cedar => "cedar"
  | json => "json"

def ofName? (name : String) : Option OutputFormat := [cedar, json].find? (·.name = name)

end OutputFormat

structure ConvertOptions where
  files : List String
  output : OutputFormat
  /-- A configuration file -/
  config : Option String
  /-- The name of the collection -/
  name : Option String
  /-- Whether to fail if anything is skipped -/
  strict : Bool
  deriving DecidableEq, Repr

def loadSettings (files : Files) : Option String → Except Error Settings
  | none => .ok .default
  | some path => do liftError (Settings.ofText (← files.read path))

def loadManifest (readers : Manifest.Readers) (files : Files) (m : Manifests) (path : String) :
    Except Error Manifests := do
  match (Manifests.addText readers (← files.read path)).run m with
  | .ok () m => .ok m
  | .error problem _ => .error (.invalidManifest path problem)

def loadManifests (readers : Manifest.Readers) (files : Files) (paths : List String) :
    Except Error Manifests :=
  paths.foldlM (loadManifest readers files) .empty

/-- Policies, and what was skipped. -/
structure Conversion where
  collection : PolicyCollection
  skipped : List String

namespace Conversion

def ofRbac (settings : Settings) (name : String) (m : Manifests) : Conversion :=
  let compilation := Rbac.compileAll settings name m.bindings m.roles
  ⟨compilation.collection, compilation.diagnostics.map Rbac.Diagnostic.text⟩

/-- Every policy on its own, all in one collection. -/
def ofAdmission (settings : Settings) (name : String) (m : Manifests) :
    Except ClusterPolicy.Error Conversion := do
  let compilations := m.admissionPolicies.map (Admission.compile settings)
  let collection ← (PolicyCollection.new name).mergeAll (compilations.map (·.collection))
  return ⟨collection, compilations.flatMap (·.errors.map Admission.Diagnostic.text)⟩

/-- Whether the program ends while the manifests are compiled. -/
def overflows (target : Target) (settings : Settings) (m : Manifests) : Bool :=
  target = .admission && m.admissionPolicies.any fun policy => (Admission.compile? settings policy).isNone

def of (target : Target) (settings : Settings) (name : Option String) (m : Manifests) :
    Except ClusterPolicy.Error Conversion :=
  let name := name.getD target.name
  match target with
  | .rbac => .ok (ofRbac settings name m)
  | .admission => ofAdmission settings name m

def returned (target : Target) (settings : Settings) (name : Option String) (m : Manifests) :
    Except Error Conversion :=
  if overflows target settings m then .error .overflow else liftError (of target settings name m)

end Conversion

def render (collection : PolicyCollection) : OutputFormat → Except ClusterPolicy.Error String
  | .cedar => .ok collection.text
  | .json => return (← collection.toJson).pretty ""

/-- What a conversion prints. -/
def convert (readers : Manifest.Readers) (files : Files) (target : Target) (options : ConvertOptions) :
    Except Error String := do
  let settings ← loadSettings files options.config
  let manifests ← loadManifests readers files options.files
  let conversion ← Conversion.returned target settings options.name manifests
  if options.strict && !conversion.skipped.isEmpty then .error (.validation target conversion.skipped)
  else liftError (render conversion.collection options.output)

end ClusterPolicy.Command
