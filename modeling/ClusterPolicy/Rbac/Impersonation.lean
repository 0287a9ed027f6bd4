import ClusterPolicy.Cedar.Policy
import ClusterPolicy.EntityType
import ClusterPolicy.Rbac.Match

/-! What a rule on the resources `users`, `groups`, `uids` and `userextras` lets one act as. -/

namespace ClusterPolicy.Rbac

open Cedar (Scope)
open Condition (both)

inductive Target
  | users
  | groups
  | uids
  | extras
  deriving DecidableEq, Repr

namespace Target

def ofResource? (resource : String) : Option Target :=
  match resource with
  | "users" => some users
  | "groups" => some groups
  | "uids" => some uids
  | r => if "userextras".toList.isPrefixOf r.toList then some extras else none

def entityType : Target → String
  | users => EntityType.user
  | groups => EntityType.group
  | uids => EntityType.principalUid
  | extras => EntityType.extra

def uidsCondition (names : List String) : Condition :=
  if names.isEmpty then .empty
  else .member .resource (.set (names.map fun n => .entity ⟨EntityType.principalUid, n⟩))

def extrasCondition (resources names : List String) : Condition :=
  let keys := (resources.filterMap splitSlash).map (·.2)
  both (equalsAny (attr "key") keys) (presentAndAny "value" names)

/-- That the target is one that the names ask for. -/
def condition (resources names : List String) : Target → Condition
  | users | groups => equalsAny (attr "name") names
  | uids => uidsCondition names
  | extras => extrasCondition resources names

/-- A condition that also asks for the target's type. -/
def typedCondition (resources names : List String) (target : Target) : Condition :=
  match target, names with
  | uids, [name] => .equal .resource (.entity ⟨EntityType.principalUid, name⟩)
  | target, names =>
    .all [.is .resource target.entityType, target.condition resources names]

end Target

structure Impersonation where
  resource : Scope
  condition : Condition

/-- Anyone, or every identity that has one of the names. -/
def Impersonation.ofAnyKind (names : List String) : Impersonation :=
  ⟨.any,
    if names.isEmpty then .empty
    else .any ([Target.users, Target.groups, Target.uids].map fun t =>
      both (.is .resource t.entityType) (t.condition ["*"] names))⟩

/-- The kinds of target that resources name, each where it is named first. -/
def Target.among (resources : List String) : List Target :=
  (resources.filterMap Target.ofResource?).foldl
    (fun seen t => if seen.contains t then seen else seen ++ [t]) []

/-- The identities that reduced resources and names select, or the resource that names none. -/
def Impersonation.of (resources names : List String) : Except String Impersonation :=
  if isWildcard resources then .ok (ofAnyKind names)
  else
    match Target.among resources with
    | [] => .error (",".intercalate resources)
    | [target] =>
      match target, names with
      | .uids, [name] => .ok ⟨.equal ⟨EntityType.principalUid, name⟩, .empty⟩
      | target, names =>
        if resources.length = 1 ∨ target = .extras then
          .ok ⟨.ofType target.entityType, target.condition resources names⟩
        else .ok ⟨.any, .any [target.typedCondition resources names]⟩
    | targets => .ok ⟨.any, .any (targets.map (Target.typedCondition resources names))⟩

end ClusterPolicy.Rbac
