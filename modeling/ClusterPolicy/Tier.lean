import ClusterPolicy.Cedar.Authorization
import ClusterPolicy.Store

/-! Stores in order of precedence. The first one in which a policy applies or fails decides; where
none does, the last one answers. -/

namespace ClusterPolicy

open Cedar (Decision Entities Request)

inductive Verdict
  | allow
  | deny
  | noOpinion
  deriving DecidableEq, Repr

def Verdict.name : Verdict → String
  | allow => "allow"
  | deny => "deny"
  | noOpinion => "no-opinion"

/-- A policy that decided, and its store. -/
structure Reason where
  policyId : String
  store : String
  deriving DecidableEq, Repr

structure TieredResponse where
  decision : Decision
  reasons : List Reason
  /-- The ids of the policies that could not be evaluated -/
  errors : List String
  /-- The position of the store that answered -/
  tier : Option Nat
  deriving DecidableEq, Repr

namespace TieredResponse

def empty : TieredResponse := ⟨.deny, [], [], none⟩

def ofStore (store : Store) (tier : Nat) (request : Request) (entities : Entities) : TieredResponse :=
  let response := Cedar.PolicySet.authorize store.snapshot.policies request entities
  ⟨response.decision, response.reasons.map (⟨·, store.name⟩), response.errors, some tier⟩

/-- Whether the stores behind are not asked. -/
def isTerminal (r : TieredResponse) : Bool := !r.reasons.isEmpty || !r.errors.isEmpty

/-- Without a reason there is no opinion, whatever failed. -/
def verdict (r : TieredResponse) : Verdict :=
  if r.reasons.isEmpty then .noOpinion
  else
    match r.decision with
    | .allow => .allow
    | .deny => .deny

end TieredResponse

/-- The answer of the stores from position `tier` on; `answer` if there are none. -/
def evaluateFrom (request : Request) (entities : Entities) (answer : TieredResponse) (tier : Nat) :
    List Store → TieredResponse
  | [] => answer
  | store :: rest =>
    let response := TieredResponse.ofStore store tier request entities
    if response.isTerminal then response else evaluateFrom request entities response (tier + 1) rest

def evaluate (stores : List Store) (request : Request) (entities : Entities) : TieredResponse :=
  evaluateFrom request entities .empty 0 stores

end ClusterPolicy
