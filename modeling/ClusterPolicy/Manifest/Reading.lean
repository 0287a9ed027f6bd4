import ClusterPolicy.Manifest
import ClusterPolicy.Manifest.Shape
import ClusterPolicy.Yaml.Document

/-! The readers of cluster objects. A node is checked against the shape of its kind, and then its
fields are read out. A time counts as any text. -/

namespace ClusterPolicy.Manifest

abbrev Fields := List (String × Yaml)

namespace Fields

/-- Null has no fields. -/
def ofYaml (node : Yaml) : Fields := node.entries?.getD []

/-- A field that is null is absent. -/
def find? (fields : Fields) (key : String) : Option Yaml :=
  (fields.lookup key).filter fun node => !node.isNull

def text? (fields : Fields) (key : String) : Option String := (fields.find? key).bind Yaml.string?

def text (fields : Fields) (key : String) : String := (fields.text? key).getD ""

def texts? (fields : Fields) (key : String) : Option (List String) :=
  (fields.find? key).map fun node => (node.items?.getD []).filterMap Yaml.string?

def object? {α : Type} (fields : Fields) (key : String) (build : Fields → α) : Option α :=
  (fields.find? key).map (build ∘ ofYaml)

/-- An object that is absent is empty. -/
def object {α : Type} (fields : Fields) (key : String) (build : Fields → α) : α :=
  build (ofYaml ((fields.find? key).getD .null))

def objects? {α : Type} (fields : Fields) (key : String) (build : Fields → α) : Option (List α) :=
  (fields.find? key).map fun node => (node.items?.getD []).map (build ∘ ofYaml)

end Fields

namespace Shape

def texts : Shape := list text

/-- An object whose fields are texts. -/
def textual (name : String) (keys : List String) : Shape := object name (keys.map (·, text))

def metadata : Shape :=
  object "ObjectMeta" [("annotations", table text), ("creationTimestamp", text),
    ("deletionGracePeriodSeconds", integer), ("deletionTimestamp", text), ("finalizers", texts),
    ("generateName", text), ("generation", integer), ("labels", table text),
    ("managedFields", list (object "ManagedFieldsEntry" [("apiVersion", text), ("fieldsType", text),
      ("fieldsV1", any), ("manager", text), ("operation", text), ("subresource", text), ("time", text)])),
    ("name", text), ("namespace", text),
    ("ownerReferences", list (object "OwnerReference" [("apiVersion", text), ("blockOwnerDeletion", flag),
      ("controller", flag), ("kind", text), ("name", text), ("uid", text)])),
    ("resourceVersion", text), ("selfLink", text), ("uid", text)]

def labelSelector : Shape :=
  object "LabelSelector" [("matchExpressions", list (object "LabelSelectorRequirement"
      [("key", text), ("operator", text), ("values", texts)])),
    ("matchLabels", table text)]

/-- An object of the cluster, with the fields of its kind. -/
def resource (kind version : String) (fields : List (String × Shape)) : Shape :=
  object kind ([("apiVersion", constant version), ("kind", constant kind), ("metadata", metadata)] ++ fields)

def rbacVersion : String := "rbac.authorization.k8s.io/v1"

def admissionVersion : String := "admissionregistration.k8s.io/v1"

def rules : Shape :=
  list (object "PolicyRule" [("apiGroups", texts), ("nonResourceURLs", texts), ("resourceNames", texts),
    ("resources", texts), ("verbs", texts)])

def clusterRole : Shape :=
  resource "ClusterRole" rbacVersion
    [("aggregationRule", object "AggregationRule" [("clusterRoleSelectors", list labelSelector)]),
      ("rules", rules)]

def role : Shape := resource "Role" rbacVersion [("rules", rules)]

def binding (kind : Rbac.BindingKind) : Shape :=
  resource kind.name rbacVersion [("roleRef", textual "RoleRef" ["apiGroup", "kind", "name"]),
    ("subjects", list (textual "Subject" ["apiGroup", "kind", "name", "namespace"]))]

def resourceRules : Shape :=
  list (object "NamedRuleWithOperations" [("apiGroups", texts), ("apiVersions", texts),
    ("operations", texts), ("resourceNames", texts), ("resources", texts), ("scope", text)])

def matchConstraints : Shape :=
  object "MatchResources" [("excludeResourceRules", resourceRules), ("matchPolicy", text),
    ("namespaceSelector", labelSelector), ("objectSelector", labelSelector), ("resourceRules", resourceRules)]

def admissionSpec : Shape :=
  object "ValidatingAdmissionPolicySpec"
    [("auditAnnotations", list (textual "AuditAnnotation" ["key", "valueExpression"])),
      ("failurePolicy", text),
      ("matchConditions", list (textual "MatchCondition" ["expression", "name"])),
      ("matchConstraints", matchConstraints),
      ("paramKind", textual "ParamKind" ["apiVersion", "kind"]),
      ("validations", list (textual "Validation" ["expression", "message", "messageExpression", "reason"])),
      ("variables", list (textual "Variable" ["expression", "name"]))]

def admissionStatus : Shape :=
  object "ValidatingAdmissionPolicyStatus"
    [("conditions", list (object "Condition" [("lastTransitionTime", text), ("message", text),
        ("observedGeneration", integer), ("reason", text), ("status", text), ("type", text)])),
      ("observedGeneration", integer),
      ("typeChecking", object "TypeChecking"
        [("expressionWarnings", list (textual "ExpressionWarning" ["fieldRef", "warning"]))])]

def admissionPolicy : Shape :=
  resource "ValidatingAdmissionPolicy" admissionVersion
    [("spec", admissionSpec), ("status", admissionStatus)]

end Shape

def Metadata.ofFields (fields : Fields) : Metadata := ⟨fields.text? "name", fields.text? "namespace"⟩

def PolicyRule.ofFields (fields : Fields) : PolicyRule where
  verbs := (fields.texts? "verbs").getD []
  apiGroups := fields.texts? "apiGroups"
  resources := fields.texts? "resources"
  resourceNames := fields.texts? "resourceNames"
  nonResourceUrls := fields.texts? "nonResourceURLs"

def RoleObject.ofFields (fields : Fields) : RoleObject :=
  ⟨fields.object "metadata" .ofFields, fields.objects? "rules" .ofFields⟩

def SubjectObject.ofFields (fields : Fields) : SubjectObject :=
  ⟨fields.text "kind", fields.text "name", fields.text? "namespace"⟩

def BindingObject.ofFields (fields : Fields) : BindingObject where
  metadata := fields.object "metadata" .ofFields
  roleRef := fields.object "roleRef" fun role => ⟨role.text "kind", role.text "name"⟩
  subjects := fields.objects? "subjects" .ofFields

def ResourceRule.ofFields (fields : Fields) : ResourceRule where
  operations := fields.texts? "operations"
  apiGroups := fields.texts? "apiGroups"
  apiVersions := fields.texts? "apiVersions"
  resources := fields.texts? "resources"
  resourceNames := fields.texts? "resourceNames"

def AdmissionSpec.ofFields (fields : Fields) : AdmissionSpec where
  matchConstraints := fields.object? "matchConstraints" fun constraints =>
    ⟨constraints.objects? "resourceRules" .ofFields⟩
  validations := fields.objects? "validations" (·.text "expression")

def AdmissionObject.ofFields (fields : Fields) : AdmissionObject :=
  ⟨fields.object "metadata" .ofFields, fields.object? "spec" .ofFields⟩

def readAs {α : Type} (shape : Shape) (build : Fields → α) (node : Yaml) : Except String α := do
  shape.check node
  return build (.ofYaml node)

def readDocuments (text : String) : List (Except String Yaml) :=
  (Yaml.documents text).map fun
    | some document => if document.hasDistinctKeys then .ok document else .error "duplicate entry"
    | none => .error "invalid document"

def Readers.standard : Readers where
  documents := readDocuments
  clusterRole := readAs .clusterRole .ofFields
  role := readAs .role .ofFields
  clusterRoleBinding := readAs (.binding .clusterRoleBinding) .ofFields
  roleBinding := readAs (.binding .roleBinding) .ofFields
  admissionPolicy := readAs .admissionPolicy .ofFields

end ClusterPolicy.Manifest
