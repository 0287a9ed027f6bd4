/-! Roles, the rules they hold, and the bindings that grant them. -/

namespace ClusterPolicy.Rbac

/-- In every list but `resourceNames` the entry `*` stands for anything. -/
structure Rule where
  verbs : List String
  apiGroups : List String
  /-- A subresource is written behind a slash -/
  resources : List String
  /-- Empty for any name -/
  resourceNames : List String
  /-- Paths; a `*` at the end stands for any continuation -/
  nonResourceUrls : List String
  deriving DecidableEq, Repr

structure Role where
  kind : String
  name : String
  namespaceName : Option String
  rules : List Rule
  deriving DecidableEq, Repr

inductive SubjectKind
  | group
  | user
  | serviceAccount
  deriving DecidableEq, Repr

namespace SubjectKind

def name : SubjectKind → String
  | group => "Group"
  | user => "User"
  | serviceAccount => "ServiceAccount"

def ofName? (name : String) : Option SubjectKind :=
  [group, user, serviceAccount].find? (·.name = name)

end SubjectKind

structure Subject where
  kind : SubjectKind
  name : String
  namespaceName : Option String
  deriving DecidableEq, Repr

inductive BindingKind
  | clusterRoleBinding
  | roleBinding
  deriving DecidableEq, Repr

def BindingKind.name : BindingKind → String
  | clusterRoleBinding => "ClusterRoleBinding"
  | roleBinding => "RoleBinding"

structure RoleRef where
  kind : String
  name : String
  deriving DecidableEq, Repr

structure Binding where
  name : String
  kind : BindingKind
  role : RoleRef
  subjects : List Subject
  namespaceName : Option String
  deriving DecidableEq, Repr

/-- The name in policy ids: bindings of different namespaces may share a name. -/
def Binding.idName (binding : Binding) : String :=
  match binding.namespaceName with
  | some ns => ns ++ "/" ++ binding.name
  | none => binding.name

/-- The entries without repetitions, each where it stands first. -/
def distinct (items : List String) : List String :=
  items.foldl (fun seen item => if seen.contains item then seen else seen ++ [item]) []

/-- A list with `*` in it says nothing more than `*`. -/
def reduceWildcard (items : List String) : List String :=
  if items.contains "*" then ["*"] else distinct items

def isWildcard (items : List String) : Bool := items == ["*"]

end ClusterPolicy.Rbac
