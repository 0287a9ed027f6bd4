import ClusterPolicy.Collection
import ClusterPolicy.Rbac.Impersonation
import ClusterPolicy.Settings

/-! Permits for what bindings grant. Every subject and rule of a binding yields policies, or a reason
why it yields none. -/

namespace ClusterPolicy.Rbac

open Cedar (ActionScope EntityUid Scope)
open Condition (both)

inductive SkipReason
  | noVerbs
  | noResources
  | noApiGroups
  | invalidServiceAccount (identity : String)
  | unsupportedImpersonation (resource : String)
  | missingRole (kind name : String)
  | duplicatePolicy (id : String)
  deriving DecidableEq, Repr

def SkipReason.text : SkipReason → String
  | noVerbs => "rule has no verbs"
  | noResources => "rule has no resources"
  | noApiGroups => "rule has no apiGroups"
  | invalidServiceAccount identity => "invalid service account identity " ++ identity
  | unsupportedImpersonation resource => "unsupported impersonation resource " ++ resource
  | missingRole kind name => "role " ++ kind ++ " " ++ name ++ " not found"
  | duplicatePolicy id => "duplicate policy id " ++ id

/-- A rule that was skipped. -/
structure Diagnostic where
  binding : String
  subjectIndex : Nat
  ruleIndex : Nat
  reason : SkipReason
  deriving DecidableEq, Repr

def Diagnostic.text (d : Diagnostic) : String :=
  d.binding ++ " subject " ++ d.subjectIndex.repr ++ " rule " ++ d.ruleIndex.repr ++ ": " ++ d.reason.text

structure Compilation where
  collection : PolicyCollection
  diagnostics : List Diagnostic

/-- Deterministic, and different for every kind of policy, subject and rule of a binding. -/
def policyId (binding kind : String) (subjectIndex ruleIndex : Nat) : String :=
  binding ++ ":" ++ kind ++ ":" ++ subjectIndex.repr ++ "." ++ ruleIndex.repr

/-- The principals that a subject stands for. -/
structure Principals where
  scope : Scope
  condition : Condition

def serviceAccountIdentity (ns name : String) : String := "system:serviceaccount:" ++ ns ++ ":" ++ name

def principalAttr (name value : String) : Condition :=
  .equal (.access .principal name) (.string value)

/-- A colon would make a service account's identity ambiguous. -/
def Principals.of (subject : Subject) : Except SkipReason Principals :=
  match subject.kind with
  | .group => .ok ⟨.within ⟨EntityType.group, subject.name⟩, .empty⟩
  | .user => .ok ⟨.ofType EntityType.user, principalAttr "name" subject.name⟩
  | .serviceAccount =>
    let ns := subject.namespaceName.getD ""
    if ns.toList.contains ':' || subject.name.toList.contains ':' then
      .error (.invalidServiceAccount (serviceAccountIdentity ns subject.name))
    else
      .ok ⟨.ofType EntityType.serviceAccount,
        both (principalAttr "namespace" ns) (principalAttr "name" subject.name)⟩

def actionUid (verb : String) : EntityUid := ⟨EntityType.action, verb⟩

def actionScope (verbs : List String) : ActionScope :=
  match verbs with
  | [only] => if only = "*" then .any else .equal (actionUid only)
  | many => .within (many.map actionUid)

def impersonateVerb : String := "impersonate"

/-- Where a policy comes from: one subject of a binding and one rule of its role. -/
structure Origin where
  binding : Binding
  role : Role
  /-- The namespace that the grant is limited to -/
  namespaceName : Option String
  subjectIndex : Nat
  ruleIndex : Nat

namespace Origin

def id (origin : Origin) (suffix : String) : String :=
  policyId origin.binding.idName (origin.binding.kind.name ++ suffix) origin.subjectIndex origin.ruleIndex

/-- A number with at least two digits. -/
def paddedIndex (n : Nat) : String := if n < 10 then "0" ++ n.repr else n.repr

def annotations (origin : Origin) : List (String × String) :=
  [(origin.binding.kind.name, origin.binding.name), (origin.role.kind, origin.role.name),
    ("policyRule", paddedIndex origin.ruleIndex)] ++
    (origin.namespaceName.toList.map fun ns => ("namespace", ns))

def permit (origin : Origin) (principals : Principals) (suffix : String) (action : ActionScope)
    (resource : Scope) (condition : Condition) : CompiledPolicy :=
  { id := origin.id suffix
    effect := .permit
    principal := principals.scope
    action
    resource
    condition := both principals.condition condition
    annotations := .ofList origin.annotations }

def diagnostic (origin : Origin) (reason : SkipReason) : Diagnostic :=
  ⟨origin.binding.name, origin.subjectIndex, origin.ruleIndex, reason⟩

end Origin

/-- Whether reduced lists grant impersonation. -/
def isImpersonation (settings : Settings) (verbs resources groups : List String) : Bool :=
  (isWildcard verbs && isWildcard resources && isWildcard groups) ||
    (verbs.contains impersonateVerb && groups.contains settings.authenticationGroup)

def resourceRuleCondition (groups resources names : List String) (ns : Option String) : Condition :=
  .all [
    apiGroupsCondition groups,
    resourcesCondition resources,
    resourceNamesCondition names,
    namespaceCondition ns,
    if resources.any hasSlash then .empty else noSubresource]

abbrev Emission := Except SkipReason CompiledPolicy

def impersonationEmission (origin : Origin) (principals : Principals) (resources names : List String) :
    Emission :=
  match Impersonation.of resources names with
  | .ok target =>
    .ok (origin.permit principals "/impersonate" (.equal (actionUid impersonateVerb)) target.resource
      target.condition)
  | .error resource => .error (.unsupportedImpersonation resource)

/-- What one rule yields for one subject. -/
def ruleEmissions (settings : Settings) (origin : Origin) (principals : Principals) (rule : Rule) :
    List Emission :=
  let verbs := reduceWildcard rule.verbs
  let groups := reduceWildcard rule.apiGroups
  let resources := reduceWildcard rule.resources
  let names := distinct rule.resourceNames
  if verbs.isEmpty then [.error .noVerbs]
  else if !rule.nonResourceUrls.isEmpty then
    [.ok (origin.permit principals "/nonresource" (actionScope verbs) (.ofType EntityType.nonResourceUrl)
      (urlsCondition rule.nonResourceUrls))]
  else if resources.isEmpty then [.error .noResources]
  else if groups.isEmpty then [.error .noApiGroups]
  else
    let ordinary : Emission := .ok (origin.permit principals "" (actionScope verbs)
      (.ofType EntityType.resource) (resourceRuleCondition groups resources names origin.namespaceName))
    if isImpersonation settings verbs resources groups then
      impersonationEmission origin principals resources names ::
        (if verbs = [impersonateVerb] then [] else [ordinary])
    else [ordinary]

namespace Compilation

def new (name : String) : Compilation := ⟨.new name, []⟩

def skip (c : Compilation) (diagnostic : Diagnostic) : Compilation :=
  { c with diagnostics := c.diagnostics ++ [diagnostic] }

def emit (c : Compilation) (origin : Origin) (emission : Emission) : Compilation :=
  match emission with
  | .error reason => c.skip (origin.diagnostic reason)
  | .ok policy =>
    match c.collection.insert policy with
    | .ok collection => { c with collection }
    | .error _ => c.skip (origin.diagnostic (.duplicatePolicy policy.id))

/-- The policies of `other`, then its diagnostics. A policy whose id is taken is dropped. -/
def absorb (c other : Compilation) : Compilation :=
  let c := other.collection.policies.values.foldl (fun c policy =>
    match c.collection.insert policy with
    | .ok collection => { c with collection }
    | .error _ => c.skip ⟨other.collection.name, 0, 0, .duplicatePolicy policy.id⟩) c
  { c with diagnostics := c.diagnostics ++ other.diagnostics }

end Compilation

/-- Every subject with every rule. -/
def origins (binding : Binding) (role : Role) (ns : Option String) : List (Subject × Rule × Origin) :=
  binding.subjects.zipIdx.flatMap fun (subject, subjectIndex) =>
    role.rules.zipIdx.map fun (rule, ruleIndex) =>
      (subject, rule, ⟨binding, role, ns, subjectIndex, ruleIndex⟩)

def emissions (settings : Settings) (subject : Subject) (rule : Rule) (origin : Origin) : List Emission :=
  match Principals.of subject with
  | .ok principals => ruleEmissions settings origin principals rule
  | .error reason => [.error reason]

/-- The permits for what a binding to `role` grants, limited to the namespace `ns` if there is one. -/
def compile (settings : Settings) (binding : Binding) (role : Role) (ns : Option String) : Compilation :=
  (origins binding role ns).foldl (fun c (subject, rule, origin) =>
    (emissions settings subject rule origin).foldl (fun c emission => c.emit origin emission) c)
    (.new binding.idName)

/-- A binding is limited to its own namespace. -/
def compileBinding (settings : Settings) (binding : Binding) (role : Role) : Compilation :=
  compile settings binding role binding.namespaceName

/-- Whether a binding refers to a role: by kind and name, and within its own namespace or to a role
without one. -/
def Binding.refersTo (binding : Binding) (role : Role) : Bool :=
  role.kind == binding.role.kind && role.name == binding.role.name &&
    (role.namespaceName.isNone || role.namespaceName == binding.namespaceName)

/-- Every binding with the first role it refers to. Without one, every subject is reported. -/
def compileAll (settings : Settings) (name : String) (bindings : List Binding) (roles : List Role) :
    Compilation :=
  bindings.foldl (fun c binding =>
    match roles.find? binding.refersTo with
    | some role => c.absorb (compileBinding settings binding role)
    | none =>
      (List.range binding.subjects.length).foldl (fun c subjectIndex =>
        c.skip ⟨binding.name, subjectIndex, 0, .missingRole binding.role.kind binding.role.name⟩) c)
    (.new name)

end ClusterPolicy.Rbac
