import ClusterPolicy.Cedar.Grammar
import ClusterPolicy.CompiledPolicy
import ClusterPolicy.Error

namespace ClusterPolicy

open Cedar (PolicySet)

/-- The id of the policy at a position of a text: its `@id`, or else one made from the position. -/
def effectiveId (statement : Cedar.Parser.Statement) (position : Nat) : String :=
  (statement.annotations.find? CompiledPolicy.idKey).getD ("policy" ++ position.repr)

/-- The policies of a text under their effective ids, which have to be distinct. -/
def parsePolicySet (source text : String) : Except Error PolicySet :=
  match Cedar.parseStatements? text with
  | none => .error (.policyParse source)
  | some statements =>
    match statements.mapM Cedar.Parser.Statement.policy? with
    | none => .error (.templatesUnsupported source)
    | some policies =>
      let ids := statements.zipIdx.map fun (s, position) => effectiveId s position
      if ids.Nodup then .ok (.ofList ((ids.zip policies).map fun (id, policy) => (id, policy id)))
      else .error (.policyParse source)

end ClusterPolicy
