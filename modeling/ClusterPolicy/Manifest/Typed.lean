import ClusterPolicy.Admission
import ClusterPolicy.Rbac.Rule

/-! Cluster objects in the form in which they are read, and what the compilers keep of them. -/

namespace ClusterPolicy.Manifest

structure Metadata where
  name : Option String
  namespaceName : Option String
  deriving DecidableEq, Repr

structure PolicyRule where
  verbs : List String
  apiGroups : Option (List String)
  resources : Option (List String)
  resourceNames : Option (List String)
  nonResourceUrls : Option (List String)
  deriving DecidableEq, Repr

/-- A list that is absent is empty. -/
def PolicyRule.toRule (rule : PolicyRule) : Rbac.Rule where
  verbs := rule.verbs
  apiGroups := rule.apiGroups.getD []
  resources := rule.resources.getD []
  resourceNames := rule.resourceNames.getD []
  nonResourceUrls := rule.nonResourceUrls.getD []

/-- A role of the cluster or of a namespace. -/
structure RoleObject where
  metadata : Metadata
  rules : Option (List PolicyRule)
  deriving DecidableEq, Repr

def RoleObject.toRole (kind : String) (namespaced : Bool) (role : RoleObject) : Rbac.Role where
  kind
  name := role.metadata.name.getD ""
  namespaceName := if namespaced then some (role.metadata.namespaceName.getD "") else none
  rules := (role.rules.getD []).map PolicyRule.toRule

structure SubjectObject where
  kind : String
  name : String
  namespaceName : Option String
  deriving DecidableEq, Repr

/-- Absent if the subject is of no kind that is compiled. -/
def SubjectObject.toSubject? (subject : SubjectObject) : Option Rbac.Subject :=
  (Rbac.SubjectKind.ofName? subject.kind).map fun kind => ⟨kind, subject.name, subject.namespaceName⟩

structure BindingObject where
  metadata : Metadata
  roleRef : Rbac.RoleRef
  subjects : Option (List SubjectObject)
  deriving DecidableEq, Repr

def BindingObject.toBinding (kind : Rbac.BindingKind) (binding : BindingObject) : Rbac.Binding where
  name := binding.metadata.name.getD ""
  kind
  role := binding.roleRef
  subjects := (binding.subjects.getD []).filterMap SubjectObject.toSubject?
  namespaceName := if kind = .roleBinding then some (binding.metadata.namespaceName.getD "") else none

structure ResourceRule where
  operations : Option (List String)
  apiGroups : Option (List String)
  apiVersions : Option (List String)
  resources : Option (List String)
  resourceNames : Option (List String)
  deriving DecidableEq, Repr

def ResourceRule.toRule (rule : ResourceRule) : Admission.Rule where
  operations := rule.operations.getD []
  apiGroups := rule.apiGroups.getD []
  apiVersions := rule.apiVersions.getD []
  resources := rule.resources.getD []
  resourceNames := rule.resourceNames.getD []

structure MatchConstraints where
  resourceRules : Option (List ResourceRule)
  deriving DecidableEq, Repr

structure AdmissionSpec where
  matchConstraints : Option MatchConstraints
  /-- Expressions -/
  validations : Option (List String)
  deriving DecidableEq, Repr

structure AdmissionObject where
  metadata : Metadata
  spec : Option AdmissionSpec
  deriving DecidableEq, Repr

/-- Constraints without rules are not the same as no constraints. -/
def AdmissionObject.toPolicy (policy : AdmissionObject) : Admission.Policy where
  name := policy.metadata.name.getD ""
  rules := (policy.spec.bind (·.matchConstraints)).map fun constraints =>
    (constraints.resourceRules.getD []).map ResourceRule.toRule
  validations := (policy.spec.bind (·.validations)).getD []

end ClusterPolicy.Manifest
