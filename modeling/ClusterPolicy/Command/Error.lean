import ClusterPolicy.Error
import ClusterPolicy.Manifest

namespace ClusterPolicy.Command

/-- What a conversion compiles. -/
inductive Target
  | rbac
  | admission
  deriving DecidableEq, Repr

def Target.name : Target → String
  | rbac => "rbac"
  | admission => "admission"

/-- The parts that a target is compiled from. -/
def Target.parts : Target → String
  | rbac => "rules"
  | admission => "validations"

/-- The parts of a request that are checked one by one. -/
inductive RequestField
  | principal
  | action
  | resource
  | context
  | entities
  deriving DecidableEq, Repr

def RequestField.name : RequestField → String
  | principal => "principal"
  | action => "action"
  | resource => "resource"
  | context => "context"
  | entities => "entities"

inductive Error
  | unreadable (path : String)
  | invalidManifest (path : String) (problem : Manifest.Problem)
  /-- The text of a request is not of the form of one -/
  | json
  | invalidRequest (field : RequestField)
  | policy (error : ClusterPolicy.Error)
  /-- A strict conversion would have left parts out -/
  | validation (target : Target) (skipped : List String)
  /-- The program ended without an error of its own -/
  | overflow
  deriving DecidableEq, Repr

namespace Error

def message : Error → String
  | unreadable path => "failed to read " ++ path ++ ": No such file or directory (os error 2)"
  | invalidManifest path problem => "invalid manifest in " ++ path ++ ": " ++ problem.text
  | json => "json error"
  | invalidRequest field => "invalid request: " ++ field.name
  | policy error => error.message
  | validation target skipped =>
    "validation error: " ++ skipped.length.repr ++ " " ++ target.parts ++ " skipped: " ++
      "; ".intercalate skipped
  | overflow => Cel.overflowText

def exitCode : Error → UInt32
  | overflow => 101
  | _ => 1

end Error

def liftError {α : Type} (result : Except ClusterPolicy.Error α) : Except Error α :=
  result.mapError .policy

/-- The texts of the files that there are. -/
abbrev Files := String → Option String

def Files.read (files : Files) (path : String) : Except Error String :=
  match files path with
  | some text => .ok text
  | none => .error (.unreadable path)

end ClusterPolicy.Command
