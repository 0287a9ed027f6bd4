import Mathlib.Logic.Relation

/-! The parts of a tree that is given by the children of its nodes. -/

namespace ClusterPolicy

variable {α : Type} {children : α → List α} {P : α → Prop} {whole : α}

/-- A part of a tree, at any depth and in any place. The whole is one of its parts. -/
def Part (children : α → List α) (part whole : α) : Prop :=
  Relation.ReflTransGen (fun child parent => child ∈ children parent) part whole

/-- Every part is of a kind. -/
def Everywhere (children : α → List α) (P : α → Prop) (whole : α) : Prop :=
  ∀ part, Part children part whole → P part

theorem everywhere_iff : Everywhere children P whole ↔
    P whole ∧ ∀ child ∈ children whole, Everywhere children P child := by
  constructor
  · intro each
    exact ⟨each _ .refl, fun child mem part isPart => each part (isPart.tail mem)⟩
  · rintro ⟨self, below⟩ part isPart
    rcases Relation.ReflTransGen.cases_tail isPart with rfl | ⟨child, isPart, mem⟩
    · exact self
    · exact below child mem part isPart

end ClusterPolicy
