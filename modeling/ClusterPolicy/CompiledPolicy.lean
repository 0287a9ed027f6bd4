import ClusterPolicy.Cedar.Policy
import ClusterPolicy.Condition

/-! Policies as the compilers emit them. -/

namespace ClusterPolicy

open Cedar (ActionScope Effect Scope)

structure CompiledPolicy where
  id : String
  effect : Effect
  principal : Scope
  action : ActionScope
  resource : Scope
  condition : Condition
  annotations : SortedMap String

namespace CompiledPolicy

def new (id : String) (effect : Effect) : CompiledPolicy :=
  ⟨id, effect, .any, .any, .any, .empty, .empty⟩

/-- Adds a condition to those that the policy has. -/
def when (policy : CompiledPolicy) (condition : Condition) : CompiledPolicy :=
  { policy with condition := policy.condition.both condition }

/-- A later value replaces an earlier one under the same key. -/
def annotate (policy : CompiledPolicy) (key value : String) : CompiledPolicy :=
  { policy with annotations := policy.annotations.insert key value }

/-- The annotation that carries a policy's id through its text. -/
def idKey : String := "id"

def writtenAnnotations (policy : CompiledPolicy) : List (String × String) :=
  (idKey, policy.id) :: policy.annotations.entries.filter (·.1 ≠ idKey)

end CompiledPolicy

end ClusterPolicy
