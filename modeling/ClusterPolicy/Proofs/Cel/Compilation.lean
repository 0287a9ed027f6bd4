import ClusterPolicy.Cel.Compilation

namespace ClusterPolicy.Cel

open Compilation (inOrder)

section
variable {α β : Type}

/-- Two compilations behind each other yield what the second does, with the warnings of both. -/
theorem bind_eq_ok {t : Compilation α} {f : α → Compilation β} {b : β} {warnings : List Warning} :
    (t >>= f) = .ok (b, warnings) ↔ ∃ a before behind, t = .ok (a, before) ∧
      f a = .ok (b, behind) ∧ warnings = before ++ behind := by
  constructor
  · intro h
    rcases t with obstacle | ⟨a, before⟩
    · cases h
    · dsimp only [Bind.bind] at h
      split at h
      · cases h
      · rename_i behind next
        cases h
        exact ⟨a, before, behind, rfl, next, rfl⟩
  · rintro ⟨a, before, behind, rfl, next, rfl⟩
    dsimp only [Bind.bind]
    rw [next]

/-! ## What is yielded -/

/-- What a compilation yields, if it does, is of a kind. -/
def Ensures (t : Compilation α) (P : α → Prop) : Prop := ∀ a warnings, t = .ok (a, warnings) → P a

section
variable {P : α → Prop} {Q : β → Prop}

theorem Ensures.pure {a : α} (h : P a) : Ensures (Pure.pure a : Compilation α) P := by
  intro b warnings same
  cases same
  exact h

theorem Ensures.refuse (obstacle : Obstacle) : Ensures (Compilation.refuse obstacle) P := nofun

theorem Ensures.warn (warning : Warning) : Ensures (Compilation.warn warning) fun _ => True :=
  fun _ _ _ => trivial

theorem Ensures.bind {t : Compilation α} {f : α → Compilation β} (ht : Ensures t P)
    (hf : ∀ a, P a → Ensures (f a) Q) : Ensures (t >>= f) Q := by
  intro b warnings h
  obtain ⟨a, before, behind, first, next, -⟩ := bind_eq_ok.mp h
  exact hf a (ht a before first) b behind next

theorem Ensures.inOrder {compiled : List (Compilation α)} (h : ∀ t ∈ compiled, Ensures t P) :
    Ensures (inOrder compiled) fun items => ∀ a ∈ items, P a := by
  induction compiled with
  | nil => exact .pure nofun
  | cons t rest ih =>
    obtain ⟨first, others⟩ := List.forall_mem_cons.mp h
    refine first.bind fun a hasA => (ih others).bind fun items each => .pure ?_
    exact List.forall_mem_cons.mpr ⟨hasA, each⟩

end

/-! ## Whether anything is yielded -/

/-- The compilation yields something. -/
def Succeeds (t : Compilation α) : Prop := ∃ a warnings, t = .ok (a, warnings)

@[simp] theorem succeeds_pure (a : α) : Succeeds (pure a : Compilation α) := ⟨a, [], rfl⟩

@[simp] theorem not_succeeds_refuse (obstacle : Obstacle) :
    ¬Succeeds (Compilation.refuse obstacle : Compilation α) := by
  rintro ⟨a, warnings, ⟨⟩⟩

@[simp] theorem succeeds_warn (warning : Warning) : Succeeds (Compilation.warn warning) := ⟨(), [warning], rfl⟩

/-- Whether the rest succeeds does not depend on what comes first. -/
theorem succeeds_bind {t : Compilation α} {f : α → Compilation β} {p : Prop}
    (next : ∀ a, Succeeds (f a) ↔ p) : Succeeds (t >>= f) ↔ Succeeds t ∧ p := by
  constructor
  · rintro ⟨b, warnings, run⟩
    obtain ⟨a, before, behind, first, rest, -⟩ := bind_eq_ok.mp run
    exact ⟨⟨a, before, first⟩, (next a).mp ⟨b, behind, rest⟩⟩
  · rintro ⟨⟨a, before, first⟩, holds⟩
    obtain ⟨b, behind, rest⟩ := (next a).mpr holds
    exact ⟨b, before ++ behind, bind_eq_ok.mpr ⟨a, before, behind, first, rest, rfl⟩⟩

theorem succeeds_map {t : Compilation α} (f : α → β) :
    Succeeds (t >>= fun a => pure (f a)) ↔ Succeeds t := by
  rw [succeeds_bind (p := True) fun a => iff_of_true (succeeds_pure _) trivial, and_true]

theorem succeeds_inOrder {compiled : List (Compilation α)} :
    Succeeds (inOrder compiled) ↔ ∀ t ∈ compiled, Succeeds t := by
  induction compiled with
  | nil => exact iff_of_true (succeeds_pure _) nofun
  | cons t rest ih =>
    rw [inOrder, succeeds_bind fun a => succeeds_map _, ih, List.forall_mem_cons]

end

/-- A result that passes a test is a result. -/
theorem exists_eq_ok {ε α : Type} {x : Except ε α} {test : α → Bool} (passes : x.toOption.any test = true) :
    ∃ a, x = .ok a ∧ test a = true := by
  cases x with
  | error e => cases passes
  | ok a => exact ⟨a, rfl, passes⟩

end ClusterPolicy.Cel
