import ClusterPolicy.Cedar.Entity
import ClusterPolicy.EntityType
import ClusterPolicy.Error
import ClusterPolicy.Text.LetterCase

/-! The entities of the cluster's schema, with the attributes that compiled policies ask for. -/

namespace ClusterPolicy.EntityBuilders

open Cedar (Entity EntityUid)

def uid (type id : String) : Except Error EntityUid :=
  if Cedar.isName type then .ok ⟨type, id⟩ else .error (.entityType type)

def action (verb : String) : EntityUid := ⟨EntityType.action, verb⟩

def admissionAction (operation : String) : EntityUid :=
  ⟨EntityType.admissionAction, Text.lowercase operation⟩

def texts (attrs : List (String × String)) : List (String × Cedar.Value) :=
  attrs.map fun (name, value) => (name, .string value)

def group (name : String) : Entity := ⟨⟨EntityType.group, name⟩, texts [("name", name)], []⟩

def member (type id : String) (attrs : List (String × String)) (groups : List String) : Entity :=
  ⟨⟨type, id⟩, texts attrs, groups.map fun g => ⟨EntityType.group, g⟩⟩

/-- A user, behind its groups. -/
def user (name : String) (groups : List String) : List Entity :=
  groups.map group ++ [member EntityType.user name [("name", name)] groups]

/-- A service account, behind its groups. -/
def serviceAccount (ns name : String) (groups : List String) : List Entity :=
  groups.map group ++
    [member EntityType.serviceAccount ("system:serviceaccount:" ++ ns ++ ":" ++ name)
      [("name", name), ("namespace", ns)] groups]

structure ResourceAttributes where
  apiGroup : String
  resource : String
  subresource : Option String
  namespaceName : Option String
  name : Option String
  deriving DecidableEq, Repr

/-- A path like that of a request: `/apps/namespaces/prod/deployments/web`. -/
def ResourceAttributes.path (attrs : ResourceAttributes) : String :=
  let group := if attrs.apiGroup = "" then "core" else attrs.apiGroup
  let ns := match attrs.namespaceName with
    | some ns => "/namespaces/" ++ ns
    | none => ""
  let tail := [attrs.name, attrs.subresource].map fun
    | some segment => "/" ++ segment
    | none => ""
  "/" ++ group ++ ns ++ "/" ++ attrs.resource ++ String.join tail

/-- Attributes that are absent are left off. -/
def resource (attrs : ResourceAttributes) : Entity :=
  let present (name : String) (value : Option String) : List (String × String) :=
    value.toList.map fun v => (name, v)
  ⟨⟨EntityType.resource, attrs.path⟩,
    texts ([("apiGroup", attrs.apiGroup), ("resource", attrs.resource)] ++
      present "subresource" attrs.subresource ++ present "namespace" attrs.namespaceName ++
      present "name" attrs.name), []⟩

def nonResourceUrl (path : String) : Entity :=
  ⟨⟨EntityType.nonResourceUrl, path⟩, texts [("path", path)], []⟩

def principalUid (uid : String) : Entity := ⟨⟨EntityType.principalUid, uid⟩, [], []⟩

/-- One key of a user's extra data, and a value if it matters. -/
def extra (key : String) (value : Option String) : Entity :=
  match value with
  | some v => ⟨⟨EntityType.extra, key ++ "=" ++ v⟩, texts [("key", key), ("value", v)], []⟩
  | none => ⟨⟨EntityType.extra, key⟩, texts [("key", key)], []⟩

end ClusterPolicy.EntityBuilders
