import ClusterPolicy.Collection
import ClusterPolicy.PolicyText

namespace ClusterPolicy

open Cedar (PolicySet)

/-- A set of policies that was published, and the version it was published under. -/
structure Snapshot where
  policies : PolicySet
  version : String
  /-- How many policies there are, counted once -/
  count : Nat

def Snapshot.of (policies : PolicySet) (version : String) : Snapshot :=
  ⟨policies, version, policies.size⟩

/-- A store answers from its snapshot; it is not loaded until something is published. -/
structure Store where
  name : String
  snapshot : Snapshot
  loaded : Bool

namespace Store

def new (name : String) : Store := ⟨name, .of .empty "", false⟩

/-- Publishes a set and says whether it did: the version that is loaded is not published again. -/
def publish (store : Store) (policies : PolicySet) (version : String) : Store × Bool :=
  if store.loaded && store.snapshot.version == version then (store, false)
  else (⟨store.name, .of policies version, true⟩, true)

def publishText (store : Store) (text version : String) : Except Error (Store × Bool) := do
  return store.publish (← parsePolicySet store.name text) version

def publishCollection (store : Store) (collection : PolicyCollection) (version : String) :
    Except Error (Store × Bool) := do
  return store.publish (← collection.toPolicySet) version

def initialVersion : String := "initial"

def ofPolicySet (name : String) (policies : PolicySet) : Store :=
  ((new name).publish policies initialVersion).1

def ofCollection (collection : PolicyCollection) : Except Error Store := do
  return ofPolicySet collection.name (← collection.toPolicySet)

def ofText (name text : String) : Except Error Store := do
  return ((← (new name).publishText text initialVersion)).1

def size (store : Store) : Nat := store.snapshot.count

def isEmpty (store : Store) : Bool := store.size == 0

end Store

end ClusterPolicy
