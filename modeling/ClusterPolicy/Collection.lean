import ClusterPolicy.Cedar.Policy.Json
import ClusterPolicy.CompiledPolicy.Text
import ClusterPolicy.Error

namespace ClusterPolicy

open Cedar (PolicySet)

/-- Compiled policies under their ids. -/
structure PolicyCollection where
  name : String
  policies : SortedMap CompiledPolicy
  keyed : ∀ e ∈ policies.entries, e.1 = e.2.id

namespace PolicyCollection

def new (name : String) : PolicyCollection := ⟨name, .empty, nofun⟩

theorem keyed_insertAll {m : SortedMap CompiledPolicy} (entries : List (String × CompiledPolicy))
    (hm : ∀ e ∈ m.entries, e.1 = e.2.id) (he : ∀ e ∈ entries, e.1 = e.2.id) :
    ∀ e ∈ (m.insertAll entries).entries, e.1 = e.2.id :=
  fun e h => (SortedMap.mem_insertAll h).elim (hm e) (he e)

def insert (c : PolicyCollection) (policy : CompiledPolicy) : Except Error PolicyCollection :=
  if c.policies.contains policy.id then .error (.duplicatePolicyId c.name policy.id)
  else .ok {
    name := c.name
    policies := c.policies.insert policy.id policy
    keyed := keyed_insertAll [(policy.id, policy)] c.keyed (by simp) }

/-- All policies of `other`, or none of them if one of their ids is taken. -/
def merge (c other : PolicyCollection) : Except Error PolicyCollection :=
  match other.policies.keys.find? c.policies.contains with
  | some id => .error (.duplicatePolicyId c.name id)
  | none => .ok {
    name := c.name
    policies := c.policies.insertAll other.policies.entries
    keyed := keyed_insertAll other.policies.entries c.keyed other.keyed }

def insertAll (c : PolicyCollection) (policies : List CompiledPolicy) : Except Error PolicyCollection :=
  policies.foldlM insert c

def mergeAll (c : PolicyCollection) (others : List PolicyCollection) : Except Error PolicyCollection :=
  others.foldlM merge c

/-- Policies separated by blank lines. -/
def text (c : PolicyCollection) : String := "\n\n".intercalate (c.policies.values.map CompiledPolicy.text)

def toCedar (policy : CompiledPolicy) : Except Error Cedar.Policy :=
  match policy.toCedar? with
  | some p => .ok p
  | none => .error (.policyConversion policy.id)

/-- The policies for the engine. The first that has no meaning there is the error. -/
def toPolicySet (c : PolicyCollection) : Except Error PolicySet := do
  let policies ← c.policies.values.mapM toCedar
  return .ofList (policies.map fun p => (p.id, p))

def toJson (c : PolicyCollection) : Except Error Json := do
  return Cedar.PolicySet.toJson (← c.toPolicySet)

end PolicyCollection

end ClusterPolicy
