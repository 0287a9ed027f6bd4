import ClusterPolicy.Cedar.Evaluation
import ClusterPolicy.Cedar.Policy

namespace ClusterPolicy.Cedar

namespace Scope

def holds (entities : Entities) (scope : Scope) (uid : EntityUid) : Bool :=
  match scope with
  | any => true
  | equal other => uid == other
  | within group => entities.reaches uid group
  | ofType type => uid.type == type

end Scope

namespace ActionScope

def holds (entities : Entities) (scope : ActionScope) (uid : EntityUid) : Bool :=
  match scope with
  | any => true
  | equal other => uid == other
  | within groups => groups.any fun group => entities.reaches uid group

end ActionScope

/-- Whether all clauses hold, up to the first that does not. -/
def Clause.allHold (request : Request) (entities : Entities) : List Clause → Except EvalError Bool
  | [] => .ok true
  | clause :: rest => do
    let value ← (← clause.body.evaluate request entities).asBool
    if value == clause.negated then return false else Clause.allHold request entities rest

namespace Policy

def scopesHold (policy : Policy) (request : Request) (entities : Entities) : Bool :=
  policy.principal.holds entities request.principal && policy.action.holds entities request.action &&
    policy.resource.holds entities request.resource

/-- Whether the policy applies to a request. -/
def satisfied (policy : Policy) (request : Request) (entities : Entities) : Except EvalError Bool :=
  if policy.scopesHold request entities then Clause.allHold request entities policy.clauses else .ok false

def applies (policy : Policy) (request : Request) (entities : Entities) : Bool :=
  match policy.satisfied request entities with
  | .ok b => b
  | .error _ => false

def fails (policy : Policy) (request : Request) (entities : Entities) : Bool :=
  match policy.satisfied request entities with
  | .ok _ => false
  | .error _ => true

end Policy

inductive Decision
  | allow
  | deny
  deriving DecidableEq, Repr

structure Response where
  decision : Decision
  /-- The ids of the policies that decided -/
  reasons : List String
  /-- The ids of the policies that could not be evaluated -/
  errors : List String
  deriving DecidableEq, Repr

namespace PolicySet

def applying (policies : PolicySet) (effect : Effect) (request : Request) (entities : Entities) :
    List String :=
  (policies.values.filter fun p => p.effect = effect && p.applies request entities).map Policy.id

/-- A forbid that applies denies; else a permit that applies allows; else the answer is no. -/
def authorize (policies : PolicySet) (request : Request) (entities : Entities) : Response :=
  let forbids := policies.applying .forbid request entities
  let permits := policies.applying .permit request entities
  let errors := (policies.values.filter fun p => p.fails request entities).map Policy.id
  if !forbids.isEmpty then ⟨.deny, forbids, errors⟩
  else if !permits.isEmpty then ⟨.allow, permits, errors⟩
  else ⟨.deny, [], errors⟩

end PolicySet

end ClusterPolicy.Cedar
