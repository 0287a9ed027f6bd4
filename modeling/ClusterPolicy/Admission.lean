import ClusterPolicy.Cel.Grammar
import ClusterPolicy.Cel.Compilation
import ClusterPolicy.Collection
import ClusterPolicy.EntityType
import ClusterPolicy.Rbac.Rule
import ClusterPolicy.Settings
import ClusterPolicy.Text.Cut
import ClusterPolicy.Text.Debug

/-! Forbids for what validating admission policies refuse. Every validation and every resource rule
yield a policy that applies to the objects of the rule for which the validation is false. -/

namespace ClusterPolicy.Admission

open Cedar (ActionScope EntityUid Scope)
open Rbac (reduceWildcard)

structure Rule where
  operations : List String
  apiGroups : List String
  apiVersions : List String
  resources : List String
  /-- Empty for any name -/
  resourceNames : List String
  deriving DecidableEq, Repr

structure Policy where
  name : String
  /-- Absent without match constraints -/
  rules : Option (List Rule)
  /-- Expressions -/
  validations : List String
  deriving DecidableEq, Repr

inductive SkipReason
  | syntaxError (e : Cel.SyntaxError)
  | unsupported (obstacle : Cel.Obstacle)
  | partialWildcard (groups versions resources : List String)
  | subresource (resource : String)
  | noOperations
  | duplicatePolicy (id : String)
  /-- The least integer was negated, so the program ended: see `compile?` -/
  | overflow
  deriving DecidableEq, Repr

def SkipReason.text : SkipReason → String
  | syntaxError e => "parse error: " ++ e.text
  | unsupported obstacle => obstacle.text
  | partialWildcard groups versions resources =>
    "cannot match a wildcard over only some of apiGroups " ++ Text.shownList groups ++
      ", apiVersions " ++ Text.shownList versions ++ ", resources " ++ Text.shownList resources
  | subresource resource => "subresource " ++ resource ++ " cannot be matched by entity type"
  | noOperations => "resource rule has no operations"
  | duplicatePolicy id => "duplicate policy id " ++ id
  | overflow => Cel.overflowText

/-- A validation that was skipped, for one rule or for all. -/
structure Diagnostic where
  policy : String
  validation : Nat
  rule : Option Nat
  reason : SkipReason
  deriving DecidableEq, Repr

def Diagnostic.text (d : Diagnostic) : String :=
  let rule := match d.rule with
    | some index => " resource rule " ++ index.repr
    | none => ""
  d.policy ++ " validation " ++ d.validation.repr ++ rule ++ ": " ++ d.reason.text

inductive Warning
  | expression (validation : Nat) (warning : Cel.Warning)
  | inferredKind (resource kind : String)
  deriving DecidableEq, Repr

def Warning.text : Warning → String
  | expression validation warning => "validation " ++ validation.repr ++ ": " ++ warning.text
  | inferredKind resource kind =>
    "no Kind configured for " ++ resource ++ ", assuming " ++ kind ++ "; add it to resourceKinds"

structure Compilation where
  collection : PolicyCollection
  errors : List Diagnostic
  warnings : List Warning

namespace Compilation

def new (name : String) : Compilation := ⟨.new name, [], []⟩

def skip (c : Compilation) (d : Diagnostic) : Compilation := { c with errors := c.errors ++ [d] }

/-- A warning is given once. -/
def warn (c : Compilation) (warning : Warning) : Compilation :=
  if c.warnings.contains warning then c else { c with warnings := c.warnings ++ [warning] }

/-- Whether the program ended before the compilation did. -/
def overflows (c : Compilation) : Bool := c.errors.any (·.reason = .overflow)

end Compilation

def sorted (items : List String) : List String := items.mergeSort (fun a b => decide (a ≤ b))

/-- The operations that together are all there are. -/
def allOperations : List String := ["connect", "create", "delete", "update"]

def operations (given : List String) : List String :=
  let operations := sorted (reduceWildcard (given.map Text.lowercase))
  if operations = allOperations then ["*"] else operations

def actionUid (operation : String) : EntityUid := ⟨EntityType.admissionAction, operation⟩

def actionScope? (operations : List String) : Option ActionScope :=
  match operations with
  | [] => none
  | [only] => some (if only = "*" then .any else .equal (actionUid only))
  | many => some (.within (many.map actionUid))

/-- The parts of a group's domain, outermost first: `networking.k8s.io` lives in
`io::k8s::networking`. -/
def groupPath (group : String) : String :=
  if group = "" then "core" else "::".intercalate ((group.toList.splitOn '.').map String.ofList).reverse

/-- The entity type of a resource; the kind is inferred where none is configured. -/
def entityType (settings : Settings) (group version resource : String) : String × List Warning :=
  let (kind, warnings) :=
    match settings.kindOf? resource with
    | some kind => (kind, [])
    | none => (Text.capitalize resource, [.inferredKind resource (Text.capitalize resource)])
  (groupPath group ++ "::" ++ version ++ "::" ++ kind, warnings)

/-- Reduced and sorted; an empty list stands for anything. -/
def sortedOrAny (items : List String) : List String :=
  let items := sorted (reduceWildcard items)
  if items.isEmpty then ["*"] else items

/-- The scope and the condition that select the objects of a rule. -/
def typeMatch (settings : Settings) (rule : Rule) :
    Except SkipReason ((Scope × Condition) × List Warning) :=
  let groups := sortedOrAny rule.apiGroups
  let versions := sortedOrAny rule.apiVersions
  let resources := sortedOrAny rule.resources
  let wildcards := [groups, versions, resources].countP (·.head? = some "*")
  if wildcards = 3 then .ok ((.any, .empty), [])
  else if wildcards ≠ 0 then .error (.partialWildcard groups versions resources)
  else
    match resources.find? (·.toList.contains '/') with
    | some resource => .error (.subresource resource)
    | none =>
      let types := groups.flatMap fun group => versions.flatMap fun version =>
        resources.map (entityType settings group version)
      let warnings := types.flatMap (·.2)
      match types.map (·.1) with
      | [type] => .ok ((.ofType type, .empty), warnings)
      | types => .ok ((.any, .any (types.map (Condition.is .resource))), warnings)

/-- That the object's name is among some. -/
def namesCondition (names : List String) : Condition :=
  let metadata : Condition := .access .resource "metadata"
  match names with
  | [] => .empty
  | names =>
    .all [.has .resource "metadata", .has metadata "name",
      match names with
      | [one] => .equal (.access metadata "name") (.string one)
      | many => .contains (.strings many) (.access metadata "name")]

def policyId (name : String) (validation rule : Nat) : String :=
  name ++ "." ++ validation.repr ++ "." ++ rule.repr

def forbid (name : String) (validation rule : Nat) (action : ActionScope) (resource : Scope)
    (condition : Condition) : CompiledPolicy :=
  { id := policyId name validation rule
    effect := .forbid
    principal := .any
    action
    resource
    condition
    annotations := .ofList [("ValidatingAdmissionPolicy", name), ("ResourceRule", rule.repr),
      ("Validation", validation.repr)] }

/-- The policies of one validation. A wildcard over only a part of a type ends them. -/
def compileRules (settings : Settings) (name : String) (validation : Nat) (condition : Condition) :
    List (Rule × Nat) → Compilation → Compilation
  | [], c => c
  | (rule, index) :: rest, c =>
    let skip (reason : SkipReason) : Compilation := c.skip ⟨name, validation, some index, reason⟩
    let goOn := compileRules settings name validation condition rest
    match actionScope? (operations rule.operations) with
    | none => goOn (skip .noOperations)
    | some action =>
      match typeMatch settings rule with
      | .error (.partialWildcard groups versions resources) =>
        skip (.partialWildcard groups versions resources)
      | .error reason => goOn (skip reason)
      | .ok ((resource, typeCondition), warnings) =>
        let c := warnings.foldl Compilation.warn c
        let policy := forbid name validation index action resource
          (.all [typeCondition, namesCondition rule.resourceNames, .not condition])
        match c.collection.insert policy with
        | .ok collection => goOn { c with collection }
        | .error _ => goOn (c.skip ⟨name, validation, some index, .duplicatePolicy policy.id⟩)

/-- The condition of an expression, with warnings. -/
def validationCondition (source : String) : Except SkipReason (Condition × List Cel.Warning) :=
  match Cel.parse source with
  | .error (.syntaxError e) => .error (.syntaxError e)
  | .error .overflow => .error .overflow
  | .ok e =>
    match e.compile with
    | .error obstacle => .error (.unsupported obstacle)
    | .ok compiled => .ok compiled

def compileValidation (settings : Settings) (name : String) (rules : List Rule) (c : Compilation)
    (validation : String × Nat) : Compilation :=
  let (source, index) := validation
  match validationCondition source with
  | .error reason => c.skip ⟨name, index, none, reason⟩
  | .ok (condition, warnings) =>
    compileRules settings name index condition rules.zipIdx
      (warnings.foldl (fun c w => c.warn (.expression index w)) c)

def compile (settings : Settings) (policy : Policy) : Compilation :=
  match policy.rules with
  | none => .new policy.name
  | some rules =>
    policy.validations.zipIdx.foldl (compileValidation settings policy.name rules) (.new policy.name)

/-- The compilation that is returned, if the program gets to return one. -/
def compile? (settings : Settings) (policy : Policy) : Option Compilation :=
  let c := compile settings policy
  if c.overflows then none else some c

end ClusterPolicy.Admission
