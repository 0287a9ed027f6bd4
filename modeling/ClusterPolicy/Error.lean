namespace ClusterPolicy

/-- What is wrong with a configuration. -/
inductive ConfigurationProblem
  | invalid
  | emptyAuthenticationGroup
  deriving DecidableEq, Repr

inductive Error
  | duplicatePolicyId (collection id : String)
  /-- A compiled policy has no meaning for the engine -/
  | policyConversion (id : String)
  | policyParse (source : String)
  | templatesUnsupported (source : String)
  | entityType (type : String)
  | configuration (problem : ConfigurationProblem)
  deriving DecidableEq, Repr

namespace Error

def message : Error → String
  | duplicatePolicyId collection id => "duplicate policy id " ++ id ++ " in collection " ++ collection
  | policyConversion id => "policy conversion error for " ++ id
  | policyParse source => "policy parse error in " ++ source
  | templatesUnsupported source =>
    "policy parse error in " ++ source ++ ": policy templates are not supported"
  | entityType type => "request error: invalid Cedar entity type name '" ++ type
  | configuration .invalid => "configuration error: invalid compiler config"
  | configuration .emptyAuthenticationGroup => "configuration error: authenticationGroup must not be empty"

/-- Whether the error points at the compilers and not at their input. -/
def isInternal : Error → Bool
  | policyConversion _ => true
  | _ => false

end Error

end ClusterPolicy
