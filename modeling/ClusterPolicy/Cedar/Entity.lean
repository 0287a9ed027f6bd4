import ClusterPolicy.Cedar.Value

namespace ClusterPolicy.Cedar

structure Entity where
  uid : EntityUid
  attrs : List (String × Value)
  parents : List EntityUid
  deriving Inhabited

/-- Whether two descriptions say the same of an entity. -/
def Entity.agrees (a b : Entity) : Bool :=
  a.uid == b.uid && Value.same (.record a.attrs) (.record b.attrs) &&
    a.parents.all b.parents.contains && b.parents.all a.parents.contains

/-- The entities that are known to a request, one for each uid. -/
structure Entities where
  all : List Entity

namespace Entities

def empty : Entities := ⟨[]⟩

def find? (entities : Entities) (uid : EntityUid) : Option Entity :=
  entities.all.find? fun e => decide (e.uid = uid)

def parents (entities : Entities) (uid : EntityUid) : List EntityUid :=
  ((entities.find? uid).map Entity.parents).getD []

/-- Adds the parents of all that are there. -/
def widen (entities : Entities) (known : List EntityUid) : List EntityUid :=
  (known.flatMap entities.parents).foldr List.insert known

/-- What is reached from the given in at most `steps` steps to a parent. -/
def reachedWithin (entities : Entities) : Nat → List EntityUid → List EntityUid
  | 0, known => known
  | n + 1, known => entities.reachedWithin n (entities.widen known)

/-- Membership is reflexive and goes through all parents. -/
def reaches (entities : Entities) (uid group : EntityUid) : Bool :=
  (entities.reachedWithin entities.all.length [uid]).contains group

def isAcyclic (entities : Entities) : Bool :=
  entities.all.all fun e => e.parents.all fun parent => !entities.reaches parent e.uid

/-- One entity for each uid, unless two descriptions disagree or an entity is among its own
ancestors. -/
def ofList? (given : List Entity) : Option Entities :=
  let entities : Entities := ⟨given.foldl (fun known e =>
    if known.any (·.uid == e.uid) then known else known ++ [e]) []⟩
  if given.all (fun e => (entities.find? e.uid).any e.agrees) && entities.isAcyclic then some entities
  else none

end Entities

end ClusterPolicy.Cedar
