import ClusterPolicy.Proofs.Condition.Answers
import ClusterPolicy.Proofs.Rbac.Extra

/-! What one more entry in a list of a rule does to the conditions that the list is written as. Requests
and graphs are arbitrary here: an entity need not have the attributes of its type. -/

namespace ClusterPolicy.Rbac

open Cedar (Entities EntityUid Request)
open Condition (both either)

/-! ## Lists -/

/-- A reduced list before and after an entry is added. -/
inductive Widens (x : String) : List String → List String → Prop
  | same (items : List String) : Widens x items items
  | wild {items : List String} (isWild : x = "*") (plain : "*" ∉ items) : Widens x items ["*"]
  | more {items : List String} (notWild : x ≠ "*") (plain : "*" ∉ items) :
      Widens x items (items ++ [x])

section
variable {request : Request} {graph : Entities} {x : String} {before after : List String}

/-! ## Actions and groups -/

section
variable {plain withChild : List String}

end

end

end ClusterPolicy.Rbac
