import ClusterPolicy.Manifest.Typed
import ClusterPolicy.Yaml

/-! Streams of cluster objects. What the compilers read is kept, and other kinds are passed over. -/

namespace ClusterPolicy

namespace Manifest

inductive Problem
  /-- A document cannot be read, for the reason that the reader gives -/
  | malformed (message : String)
  | noKind
  /-- The fields of an object do not fit its kind -/
  | misfit (kind message : String)
  deriving DecidableEq, Repr

def Problem.text : Problem → String
  | malformed message => message
  | noKind => "document has no kind"
  | misfit kind message => kind ++ ": " ++ message

inductive ClusterObject
  | role (role : Rbac.Role)
  | binding (binding : Rbac.Binding)
  | admissionPolicy (policy : Admission.Policy)
  deriving DecidableEq, Repr

/-- What reads the documents of a stream, and a document as an object of its kind. -/
structure Readers where
  documents : String → List (Except String Yaml)
  clusterRole : Yaml → Except String RoleObject
  role : Yaml → Except String RoleObject
  clusterRoleBinding : Yaml → Except String BindingObject
  roleBinding : Yaml → Except String BindingObject
  admissionPolicy : Yaml → Except String AdmissionObject

/-- How an object of a kind is read and what is kept of it. -/
def Readers.kinds (readers : Readers) : List (String × (Yaml → Except String ClusterObject)) :=
  [("ClusterRole", fun node =>
      (readers.clusterRole node).map fun role => .role (role.toRole "ClusterRole" false)),
    ("Role", fun node => (readers.role node).map fun role => .role (role.toRole "Role" true)),
    ("ClusterRoleBinding", fun node =>
      (readers.clusterRoleBinding node).map fun binding => .binding (binding.toBinding .clusterRoleBinding)),
    ("RoleBinding", fun node =>
      (readers.roleBinding node).map fun binding => .binding (binding.toBinding .roleBinding)),
    ("ValidatingAdmissionPolicy", fun node =>
      (readers.admissionPolicy node).map fun policy => .admissionPolicy policy.toPolicy)]

def kind? (node : Yaml) : Option String := (node.get? "kind").bind Yaml.string?

/-- The object of a node; none if it is of a kind that is passed over. -/
def read (readers : Readers) (node : Yaml) : Except Problem (Option ClusterObject) :=
  match kind? node with
  | none => .error .noKind
  | some kind =>
    match readers.kinds.lookup kind with
    | none => .ok none
    | some reader => ((reader node).map some).mapError (.misfit kind)

end Manifest

structure Manifests where
  roles : List Rbac.Role
  bindings : List Rbac.Binding
  admissionPolicies : List Admission.Policy
  deriving DecidableEq, Repr

namespace Manifests

open Manifest (ClusterObject Problem Readers kind?)

def empty : Manifests := ⟨[], [], []⟩

def isEmpty (m : Manifests) : Bool := m.roles.isEmpty && m.bindings.isEmpty && m.admissionPolicies.isEmpty

def add (m : Manifests) : ClusterObject → Manifests
  | .role role => { m with roles := m.roles ++ [role] }
  | .binding binding => { m with bindings := m.bindings ++ [binding] }
  | .admissionPolicy policy => { m with admissionPolicies := m.admissionPolicies ++ [policy] }

/-- Adds to what is there, up to the first problem. What was added before it stays. -/
abbrev Addition := EStateM Problem Manifests Unit

def addObject (readers : Readers) (node : Yaml) : Addition :=
  match Manifest.read readers node with
  | .ok object => modify fun m => object.elim m m.add
  | .error problem => throw problem

mutual

/-- A `List` stands for its items, and null for nothing. -/
def addValue (readers : Readers) : Yaml → Addition
  | .mapping entries =>
    if kind? (.mapping entries) = some "List" then addItems readers entries
    else addObject readers (.mapping entries)
  | node => if node.isNull then pure () else addObject readers node

/-- Adds what stands under `items`, which is nothing unless it is a sequence. -/
def addItems (readers : Readers) : List (String × Yaml) → Addition
  | [] => pure ()
  | (key, node) :: rest =>
    if key = "items" then
      match node with
      | .sequence items => addValues readers items
      | _ => pure ()
    else addItems readers rest

def addValues (readers : Readers) : List Yaml → Addition
  | [] => pure ()
  | node :: rest => do
    addValue readers node
    addValues readers rest

end

/-- Adds the documents of a text. -/
def addText (readers : Readers) (text : String) : Addition :=
  (readers.documents text).forM fun
    | .ok document => addValue readers document
    | .error message => throw (.malformed message)

end Manifests

end ClusterPolicy
