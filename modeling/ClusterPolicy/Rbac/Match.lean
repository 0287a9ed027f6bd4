import ClusterPolicy.Condition
import ClusterPolicy.Rbac.Rule
import ClusterPolicy.Text.Cut

/-! Conditions on the resource of a request that say what the lists of a rule say. -/

namespace ClusterPolicy.Rbac

open Condition (both either)

/-- Whether a value is among some; no values ask for nothing. -/
def equalsAny (value : Condition) : List String → Condition
  | [] => .empty
  | [one] => .equal value (.string one)
  | many => .contains (.strings many) value

def attr (name : String) : Condition := .access .resource name

/-- That an attribute is present and among some values. -/
def presentAndAny (name : String) (values : List String) : Condition :=
  if values.isEmpty then .empty else both (.has .resource name) (equalsAny (attr name) values)

def apiGroupsCondition (groups : List String) : Condition :=
  if isWildcard groups then .empty else equalsAny (attr "apiGroup") groups

def splitSlash (resource : String) : Option (String × String) :=
  (Text.cut? '/' resource.toList).map fun (parent, child) => (String.ofList parent, String.ofList child)

def hasSlash (resource : String) : Bool := resource.toList.contains '/'

def resourceCondition (resource : String) : Condition :=
  if resource = "*" then .empty
  else
    match splitSlash resource with
    | none => .equal (attr "resource") (.string resource)
    | some (parent, child) =>
      .all [
        if parent = "*" then .empty else .equal (attr "resource") (.string parent),
        .has .resource "subresource",
        if child = "*" then .binary .notEqual (attr "subresource") (.string "")
        else .equal (attr "subresource") (.string child)]

def noSubresource : Condition := .not (.has .resource "subresource")

/-- Beside subresources, a plain resource stands for itself alone. -/
def resourcesCondition (resources : List String) : Condition :=
  match resources with
  | [one] => resourceCondition one
  | many =>
    let plain := many.filter (!hasSlash ·)
    let withChild := many.filter hasSlash
    let named := equalsAny (attr "resource") plain
    either (if plain.isEmpty || withChild.isEmpty then named else both named noSubresource)
      (.any (withChild.map resourceCondition))

def resourceNamesCondition (names : List String) : Condition := presentAndAny "name" names

def namespaceCondition : Option String → Condition
  | some ns => presentAndAny "namespace" [ns]
  | none => .empty

def isGlob (url : String) : Bool := url.toList.getLast? = some '*'

def urlsCondition (urls : List String) : Condition :=
  let urls := reduceWildcard urls
  if isWildcard urls then .empty
  else
    let globs := (urls.filter isGlob).map fun url =>
      Condition.like (attr "path") (.startingWith (String.ofList url.toList.dropLast))
    either (.any globs) (equalsAny (attr "path") (urls.filter (!isGlob ·)))

end ClusterPolicy.Rbac
