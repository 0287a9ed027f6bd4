import ClusterPolicy.Cedar.Expr
import ClusterPolicy.SortedMap

namespace ClusterPolicy.Cedar

inductive Effect
  | permit
  | forbid
  deriving DecidableEq, Repr

def Effect.name : Effect → String
  | permit => "permit"
  | forbid => "forbid"

/-- What a policy asks of its principal or its resource. -/
inductive Scope
  | any
  | equal (uid : EntityUid)
  | within (uid : EntityUid)
  | ofType (type : String)
  deriving DecidableEq, Repr

inductive ActionScope
  | any
  | equal (uid : EntityUid)
  | within (uids : List EntityUid)
  deriving DecidableEq, Repr

/-- A `when` clause, or an `unless` clause if negated. -/
structure Clause where
  negated : Bool
  body : Expr

structure Policy where
  id : String
  effect : Effect
  annotations : SortedMap String
  principal : Scope
  action : ActionScope
  resource : Scope
  clauses : List Clause

/-- Policies under their ids. -/
abbrev PolicySet := SortedMap Policy

end ClusterPolicy.Cedar
