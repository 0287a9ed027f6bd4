import ClusterPolicy.Proofs.Tier

/-! Which of several stores answers: the first one that speaks, or the last where none does. -/

namespace ClusterPolicy

open Cedar (Entities Request)

/-- A policy of the store applies to the request, or fails on it. -/
def Store.Speaks (request : Request) (entities : Entities) (store : Store) : Prop :=
  ∃ q ∈ store.snapshot.policies.values,
    q.applies request entities = true ∨ q.fails request entities = true

/-- The store at a position is the first that speaks, or the last where none does. -/
structure Decides (request : Request) (entities : Entities) (stores : List Store) (tier : Nat)
    (store : Store) : Prop where
  found : stores[tier]? = some store
  silent : ∀ i < tier, ∀ earlier, stores[i]? = some earlier → ¬earlier.Speaks request entities
  final : store.Speaks request entities ∨ tier + 1 = stores.length

section
variable {request : Request} {entities : Entities}

/-! ## One store -/

/-- A store ends the walk if one of its policies applies or fails. -/
theorem isTerminal_ofStore {store : Store} {tier : Nat} :
    (TieredResponse.ofStore store tier request entities).isTerminal = true ↔
      store.Speaks request entities := by
  have applying : store.snapshot.policies.applying .forbid request entities ≠ [] ∨
      store.snapshot.policies.applying .permit request entities ≠ [] ↔
        ∃ q ∈ store.snapshot.policies.values, q.applies request entities = true := by
    rw [applying_ne_nil, applying_ne_nil]
    constructor
    · rintro (⟨q, hq, -, applies⟩ | ⟨q, hq, -, applies⟩) <;> exact ⟨q, hq, applies⟩
    · rintro ⟨q, hq, applies⟩
      cases effect : q.effect with
      | forbid => exact .inl ⟨q, hq, effect, applies⟩
      | permit => exact .inr ⟨q, hq, effect, applies⟩
  have failing : (store.snapshot.policies.values.filter fun q => q.fails request entities) ≠ [] ↔
      ∃ q ∈ store.snapshot.policies.values, q.fails request entities = true := by
    simp [List.filter_eq_nil_iff]
  simp only [Store.Speaks, and_or_left, exists_or]
  rw [← applying, ← failing]
  unfold TieredResponse.isTerminal TieredResponse.ofStore Cedar.PolicySet.authorize
  generalize store.snapshot.policies.applying .forbid request entities = forbids
  generalize store.snapshot.policies.applying .permit request entities = permits
  cases forbids <;> cases permits <;> simp

theorem isTerminal_ofStore_eq_false {store : Store} {tier : Nat}
    (silent : ¬store.Speaks request entities) :
    (TieredResponse.ofStore store tier request entities).isTerminal = false := by
  rwa [← Bool.not_eq_true, isTerminal_ofStore]

/-! ## The walk -/

/-- The first store that speaks decides, or the last where none does. -/
theorem exists_decides {stores : List Store} (nonempty : stores ≠ []) :
    ∃ tier store, Decides request entities stores tier store := by
  induction stores with
  | nil => exact absurd rfl nonempty
  | cons store rest ih =>
    by_cases speaks : store.Speaks request entities
    · exact ⟨0, store, rfl, nofun, .inl speaks⟩
    by_cases alone : rest = []
    · exact ⟨0, store, rfl, nofun, .inr (by simp [alone])⟩
    obtain ⟨tier, decider, found, silent, final⟩ := ih alone
    refine ⟨tier + 1, decider, found, ?_, final.imp_right (congrArg (· + 1))⟩
    intro i before earlier at_
    cases i with
    | zero => cases at_; exact speaks
    | succ i => exact silent i (Nat.lt_of_succ_lt_succ before) earlier at_

/-- From position `first` on, whatever was answered before. -/
theorem evaluateFrom_of_decides {stores : List Store} {tier : Nat} {store : Store}
    (h : Decides request entities stores tier store) (answer : TieredResponse) (first : Nat) :
    evaluateFrom request entities answer first stores =
      .ofStore store (first + tier) request entities := by
  induction stores generalizing tier answer first with
  | nil => cases h.found
  | cons head rest ih =>
    obtain ⟨found, silent, final⟩ := h
    cases tier with
    | zero =>
      cases found
      rcases final with speaks | alone
      · simp [evaluateFrom, isTerminal_ofStore.mpr speaks]
      · obtain rfl : rest = [] := List.eq_nil_of_length_eq_zero (by simpa using alone.symm)
        simp [evaluateFrom]
    | succ tier =>
      have passed : (TieredResponse.ofStore head first request entities).isTerminal = false :=
        isTerminal_ofStore_eq_false (silent 0 (Nat.succ_pos tier) head rfl)
      have behind : Decides request entities rest tier store :=
        ⟨found, fun i before => silent (i + 1) (Nat.succ_lt_succ before),
          final.imp_right Nat.succ.inj⟩
      simp only [evaluateFrom, passed, Bool.false_eq_true, ↓reduceIte]
      rw [ih behind, Nat.add_right_comm, Nat.add_assoc]

/-- The answer is that of the deciding store alone. -/
theorem evaluate_of_decides {stores : List Store} {tier : Nat} {store : Store}
    (h : Decides request entities stores tier store) :
    evaluate stores request entities = .ofStore store tier request entities := by
  rw [evaluate, evaluateFrom_of_decides h, Nat.zero_add]

/-! ## Other stores -/

/-- What stands behind a store that speaks has no say. -/
theorem Decides.replace {front later : List Store} {tier : Nat} {store : Store}
    (h : Decides request entities (front ++ later) tier store) (within : tier < front.length)
    (speaks : store.Speaks request entities) (others : List Store) :
    Decides request entities (front ++ others) tier store := by
  have same : ∀ i, i ≤ tier → (front ++ others)[i]? = (front ++ later)[i]? := by
    intro i le
    have inside : i < front.length := by omega
    rw [List.getElem?_append_left inside, List.getElem?_append_left inside]
  refine ⟨(same tier (Nat.le_refl tier)).trans h.found, ?_, .inl speaks⟩
  intro i before earlier at_
  exact h.silent i before earlier ((same i (Nat.le_of_lt before)).symm.trans at_)

/-- Where a store that is put behind `front` moves the one at a position. -/
def shifted (front tier : Nat) : Nat := if front ≤ tier then tier + 1 else tier

theorem getElem?_shifted (front back : List Store) (inserted : Store) (i : Nat) :
    (front ++ inserted :: back)[shifted front.length i]? = (front ++ back)[i]? := by
  unfold shifted
  split
  · rename_i behind
    rw [List.getElem?_append_right (by omega), List.getElem?_append_right behind,
      Nat.sub_add_comm behind, List.getElem?_cons_succ]
  · rename_i before
    rw [List.getElem?_append_left (by omega), List.getElem?_append_left (by omega)]

/-- A silent store with others behind it leaves the decision to the same store as before. -/
theorem Decides.insert {front back : List Store} {tier : Nat} {store silent : Store}
    (h : Decides request entities (front ++ back) tier store)
    (quiet : ¬silent.Speaks request entities) (others : back ≠ []) :
    Decides request entities (front ++ silent :: back) (shifted front.length tier) store := by
  refine ⟨(getElem?_shifted front back silent tier).trans h.found, ?_, ?_⟩
  · intro i before earlier at_
    by_cases own : i = front.length
    · subst own
      rw [List.getElem?_append_right (Nat.le_refl _), Nat.sub_self] at at_
      cases at_
      exact quiet
    · -- every other position is that of a store that was there before
      obtain ⟨j, rfl, less⟩ : ∃ j, shifted front.length j = i ∧ j < tier := by
        unfold shifted at before ⊢
        by_cases inside : i < front.length
        · refine ⟨i, if_neg (by omega), ?_⟩
          split at before <;> omega
        · refine ⟨i - 1, ?_, ?_⟩
          · rw [if_pos (by omega)]
            omega
          · split at before <;> omega
      rw [getElem?_shifted] at at_
      exact h.silent j less earlier at_
  · refine h.final.imp_right fun last => ?_
    have room := List.length_pos_iff.mpr others
    rw [List.length_append] at last
    rw [shifted, if_pos (by omega), List.length_append, List.length_cons]
    omega

/-- A silent store in front of others moves the deciding one, and does nothing else. -/
theorem evaluate_insert {front back : List Store} {silent : Store}
    (quiet : ¬silent.Speaks request entities) (others : back ≠ []) :
    evaluate (front ++ silent :: back) request entities =
      { evaluate (front ++ back) request entities with
        tier := (evaluate (front ++ back) request entities).tier.map (shifted front.length) } := by
  have nonempty : front ++ back ≠ [] := fun none => others (List.append_eq_nil_iff.mp none).2
  obtain ⟨tier, store, decides⟩ := exists_decides nonempty
  rw [evaluate_of_decides decides, evaluate_of_decides (decides.insert quiet others)]
  rfl

theorem verdict_ofStore_eq_allow_iff {store : Store} {tier : Nat} :
    (TieredResponse.ofStore store tier request entities).verdict = .allow ↔
      (∀ q ∈ store.snapshot.policies.values, q.effect = .forbid →
        q.applies request entities = false) ∧
      ∃ q ∈ store.snapshot.policies.values, q.effect = .permit ∧
        q.applies request entities = true := by
  rw [← verdict_eq_allow_iff, evaluate_singleton]
  rfl

end

/-- The first store that speaks answers, or the last where none does, and it answers alone. So
* a request is allowed only by a permit of that store, with none of its forbids against it and no
  store before it that speaks;
* the stores behind an answer that ends the walk may be any others;
* a silent store that is not put last counts for nothing but its place. -/
theorem evaluate_precedence (stores : List Store) (request : Request) (entities : Entities) :
    evaluate [] request entities = ⟨.deny, [], [], none⟩ ∧
    (stores ≠ [] → ∃ tier store, Decides request entities stores tier store ∧
      let response := store.snapshot.policies.authorize request entities
      evaluate stores request entities =
        ⟨response.decision, response.reasons.map (⟨·, store.name⟩), response.errors, some tier⟩) ∧
    ((evaluate stores request entities).verdict = .allow →
      ∃ tier store, Decides request entities stores tier store ∧
        (evaluate stores request entities).tier = some tier ∧
        (∃ q ∈ store.snapshot.policies.values,
          q.effect = .permit ∧ q.applies request entities = true) ∧
        ∀ q ∈ store.snapshot.policies.values, q.effect = .forbid →
          q.applies request entities = false) ∧
    (∀ front later tier, stores = front ++ later →
      (evaluate stores request entities).tier = some tier → tier < front.length →
      (evaluate stores request entities).isTerminal = true →
      ∀ others, evaluate (front ++ others) request entities = evaluate stores request entities) ∧
    ∀ front back silent, stores = front ++ back → back ≠ [] → ¬silent.Speaks request entities →
      evaluate (front ++ silent :: back) request entities =
        { evaluate stores request entities with
          tier := (evaluate stores request entities).tier.map (shifted front.length) } := by
  refine ⟨rfl, ?_, ?_, ?_, ?_⟩
  · intro nonempty
    obtain ⟨tier, store, decides⟩ := exists_decides nonempty
    exact ⟨tier, store, decides, evaluate_of_decides decides⟩
  · intro allowed
    have nonempty : stores ≠ [] := by
      rintro rfl
      cases allowed
    obtain ⟨tier, store, decides⟩ := exists_decides nonempty
    rw [evaluate_of_decides decides] at allowed ⊢
    obtain ⟨noForbid, permit⟩ := verdict_ofStore_eq_allow_iff.mp allowed
    exact ⟨tier, store, decides, rfl, permit, noForbid⟩
  · rintro front later tier rfl at_ within terminal others
    have nonempty : front ++ later ≠ [] := by
      intro none
      rw [(List.append_eq_nil_iff.mp none).1] at within
      exact absurd within (Nat.not_lt_zero tier)
    obtain ⟨decider, store, decides⟩ := exists_decides nonempty
    rw [evaluate_of_decides decides] at at_ terminal ⊢
    cases at_
    exact evaluate_of_decides (decides.replace within (isTerminal_ofStore.mp terminal) others)
  · rintro front back silent rfl others quiet
    exact evaluate_insert quiet others

end ClusterPolicy
