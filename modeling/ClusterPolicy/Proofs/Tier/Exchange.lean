import ClusterPolicy.Tier
import Mathlib.Data.List.Forall2

namespace ClusterPolicy

open Cedar (Entities Request)

namespace TieredResponse

/-- The same policies decided the same in the same place, and the same ones failed. -/
structure Agrees (r other : TieredResponse) : Prop where
  decision : r.decision = other.decision
  verdict : r.verdict = other.verdict
  reasons : r.reasons.map (·.policyId) = other.reasons.map (·.policyId)
  errors : r.errors = other.errors
  tier : r.tier = other.tier

theorem Agrees.refl (r : TieredResponse) : r.Agrees r := ⟨rfl, rfl, rfl, rfl, rfl⟩

theorem Agrees.isTerminal {r other : TieredResponse} (h : r.Agrees other) :
    r.isTerminal = other.isTerminal := by
  have ids := congrArg List.isEmpty h.reasons
  rw [List.isEmpty_map, List.isEmpty_map] at ids
  rw [TieredResponse.isTerminal, TieredResponse.isTerminal, ids, h.errors]

end TieredResponse

/-- The stores may have different names and versions. -/
def Store.HoldsSame (s t : Store) : Prop := s.snapshot.policies = t.snapshot.policies

section
variable {request : Request} {entities : Entities} {stores others : List Store}

theorem Store.HoldsSame.agrees {s t : Store} (h : s.HoldsSame t) (tier : Nat) :
    (TieredResponse.ofStore s tier request entities).Agrees (.ofStore t tier request entities) := by
  have same : s.snapshot.policies = t.snapshot.policies := h
  constructor <;> simp [TieredResponse.ofStore, TieredResponse.verdict, same]

theorem evaluateFrom_agrees (same : List.Forall₂ Store.HoldsSame stores others)
    {answer answer' : TieredResponse} (agrees : answer.Agrees answer') (tier : Nat) :
    (evaluateFrom request entities answer tier stores).Agrees
      (evaluateFrom request entities answer' tier others) := by
  induction same generalizing answer answer' tier with
  | nil => exact agrees
  | @cons s t stores others first _ ih =>
    have next : (TieredResponse.ofStore s tier request entities).Agrees (.ofStore t tier request entities) :=
      first.agrees tier
    simp only [evaluateFrom]
    rw [← next.isTerminal]
    split
    · exact next
    · exact ih next (tier + 1)

/-- Stores that hold the same policies, one by one, give the same answers. -/
theorem evaluate_agrees (same : List.Forall₂ Store.HoldsSame stores others) :
    (evaluate stores request entities).Agrees (evaluate others request entities) :=
  evaluateFrom_agrees same (.refl _) 0

/-- Only the name of a store that is exchanged for an equal one can be told from the answer. -/
theorem evaluate_exchange {s t : Store} (same : s.HoldsSame t) (front back : List Store) :
    (evaluate (front ++ s :: back) request entities).Agrees
      (evaluate (front ++ t :: back) request entities) := by
  have kept (kept : List Store) : List.Forall₂ Store.HoldsSame kept kept :=
    List.forall₂_same.mpr fun _ _ => rfl
  exact evaluate_agrees (List.rel_append (kept front) (.cons same (kept back)))

end

end ClusterPolicy
