import ClusterPolicy.Metrics
import ClusterPolicy.Proofs.Store.Publication
import ClusterPolicy.Proofs.Tier.Precedence
import Mathlib.Algebra.BigOperators.Group.Finset.Piecewise
import Mathlib.Algebra.Order.BigOperators.Group.Finset

/-! What the counters of an evaluator add up to, until one of them is full. -/

namespace ClusterPolicy

open Cedar (Entities Request)

/-- The answer is that of one of so many stores; without any there is none. -/
def TieredResponse.Placed (r : TieredResponse) (tiers : Nat) : Prop :=
  match r.tier with
  | none => tiers = 0
  | some tier => tier < tiers

theorem placed_evaluate (stores : List Store) (request : Request) (entities : Entities) :
    (evaluate stores request entities).Placed stores.length := by
  by_cases some : stores = []
  · rw [some]
    rfl
  · obtain ⟨tier, store, decides⟩ : ∃ tier store, Decides request entities stores tier store :=
      exists_decides some
    rw [evaluate_of_decides decides]
    exact (List.getElem?_eq_some_iff.mp decides.found).1

namespace Metrics

/-! ## Counters -/

/-- What an answer adds to each counter. -/
theorem record_eq (m : Metrics) (r : TieredResponse) (nanoseconds : Nat) : m.record r nanoseconds =
    { requests := m.requests + 1
      allowed := m.allowed + if r.verdict = .allow then 1 else 0
      denied := m.denied + if r.verdict = .deny then 1 else 0
      noOpinion := m.noOpinion + if r.verdict = .noOpinion then 1 else 0
      errors := m.errors + if r.errors.isEmpty = false then 1 else 0
      fallthroughs := m.fallthroughs + .ofNat (r.tier.getD 0)
      notReady := m.notReady
      evaluationTime := m.evaluationTime + .ofNat (nanoseconds / 1000)
      decisions := (r.tier.map fun tier => m.decisions.modify tier (· + 1)).getD m.decisions } := by
  unfold record
  cases r.verdict <;> cases r.tier <;> cases r.errors.isEmpty <;> simp [countVerdict, countTier]

theorem tierDecisions_record (m : Metrics) (r : TieredResponse) (nanoseconds : Nat) {tier : Nat}
    (within : tier < m.decisions.length) : (m.record r nanoseconds).tierDecisions tier =
      m.tierDecisions tier + if r.tier = some tier then 1 else 0 := by
  rw [record_eq]
  unfold tierDecisions
  cases r.tier with
  | none => simp
  | some t =>
    by_cases own : t = tier <;> simp [own, within]

theorem tierDecisions_of_length_le {m : Metrics} {tier : Nat} (beyond : m.decisions.length ≤ tier) :
    m.tierDecisions tier = 0 := by
  simp [tierDecisions, List.getElem?_eq_none beyond]

/-- A counter that is not full. -/
theorem toNat_add_ite {c : Prop} [Decidable c] {n : UInt64} (fits : n.toNat + 1 < 2 ^ 64) :
    (n + if c then 1 else 0).toNat = n.toNat + if c then 1 else 0 := by
  split
  · rw [UInt64.toNat_add]
    exact Nat.mod_eq_of_lt fits
  · simp

theorem toNat_add_one {n : UInt64} (fits : n.toNat + 1 < 2 ^ 64) : (n + 1).toNat = n.toNat + 1 :=
  toNat_add_ite (c := True) fits

/-! ## Balance -/

/-- What the counters of an evaluator over so many stores add up to: every request has a verdict or was
refused, those with errors are among the first, each of which one of the stores answered, and the stores
before that one were passed over. -/
structure Balanced (m : Metrics) (tiers : Nat) : Prop where
  verdicts : m.requests.toNat =
    m.allowed.toNat + m.denied.toNat + m.noOpinion.toNat + m.notReady.toNat
  errors : m.errors.toNat ≤ m.requests.toNat - m.notReady.toNat
  length : m.decisions.length = tiers
  answered : 0 < tiers →
    ∑ i ∈ Finset.range tiers, (m.tierDecisions i).toNat = m.requests.toNat - m.notReady.toNat
  fallthroughs : m.fallthroughs =
    .ofNat (∑ i ∈ Finset.range tiers, i * (m.tierDecisions i).toNat)

theorem balanced_new (tiers : Nat) : (new tiers).Balanced tiers := by
  have zero : ∀ i, (new tiers).tierDecisions i = 0 := by
    intro i
    by_cases within : i < tiers <;> simp [new, tierDecisions, within]
  refine ⟨rfl, Nat.le_refl _, List.length_replicate, fun _ => ?_, ?_⟩
  · exact Finset.sum_eq_zero fun i _ => by rw [zero i]; rfl
  · have none : ∑ i ∈ Finset.range tiers, i * ((new tiers).tierDecisions i).toNat = 0 :=
      Finset.sum_eq_zero fun i _ => by rw [zero i]; exact Nat.mul_zero i
    rw [none]
    rfl

section
variable {m : Metrics} {tiers : Nat}

theorem Balanced.notReady_le (h : m.Balanced tiers) : m.notReady.toNat ≤ m.requests.toNat := by
  rw [h.verdicts]
  exact Nat.le_add_left _ _

/-- The requests that were evaluated are what is left without those refused. -/
theorem Balanced.toNat_evaluated (h : m.Balanced tiers) :
    m.evaluated.toNat = m.requests.toNat - m.notReady.toNat :=
  UInt64.toNat_sub_of_le _ _ (UInt64.le_iff_toNat_le.mpr h.notReady_le)

theorem Balanced.toNat_averageTime (h : m.Balanced tiers) :
    m.averageTime.toNat = m.evaluationTime.toNat / (m.requests.toNat - m.notReady.toNat) := by
  rw [← h.toNat_evaluated, averageTime]
  split
  · rename_i none
    rw [none]
    exact (Nat.div_zero _).symm
  · exact UInt64.toNat_div _ _

theorem Balanced.tierDecisions_le (h : m.Balanced tiers) {tier : Nat} (within : tier < tiers) :
    (m.tierDecisions tier).toNat ≤ m.requests.toNat := by
  have one := Finset.single_le_sum (f := fun i => (m.tierDecisions i).toNat)
    (fun _ _ => Nat.zero_le _) (Finset.mem_range.mpr within)
  have all := h.answered (Nat.zero_lt_of_lt within)
  omega

/-- No counter is ahead of that of the requests, so none is full before it. -/
theorem Balanced.tierDecisions_record (h : m.Balanced tiers) (fits : m.requests.toNat + 1 < 2 ^ 64)
    (r : TieredResponse) (nanoseconds : Nat) {tier : Nat} (within : tier < tiers) :
    ((m.record r nanoseconds).tierDecisions tier).toNat =
      (m.tierDecisions tier).toNat + if r.tier = some tier then 1 else 0 := by
  have below := h.tierDecisions_le within
  rw [Metrics.tierDecisions_record m r nanoseconds (h.length ▸ within), toNat_add_ite (by omega)]

/-- Whatever a store's answers weigh, an answer adds its own weight. -/
theorem Balanced.sum_record (h : m.Balanced tiers) (fits : m.requests.toNat + 1 < 2 ^ 64)
    {r : TieredResponse} (placed : r.Placed tiers) (nanoseconds : Nat) (weight : Nat → Nat) :
    ∑ i ∈ Finset.range tiers, weight i * ((m.record r nanoseconds).tierDecisions i).toNat =
      ∑ i ∈ Finset.range tiers, weight i * (m.tierDecisions i).toNat +
        (r.tier.map weight).getD 0 := by
  have each : ∀ i ∈ Finset.range tiers,
      weight i * ((m.record r nanoseconds).tierDecisions i).toNat =
        weight i * (m.tierDecisions i).toNat + if r.tier = some i then weight i else 0 := by
    intro i mem
    rw [h.tierDecisions_record fits r nanoseconds (Finset.mem_range.mp mem), Nat.mul_add, mul_ite,
      Nat.mul_one, Nat.mul_zero]
  rw [Finset.sum_congr rfl each, Finset.sum_add_distrib]
  unfold TieredResponse.Placed at placed
  cases tier : r.tier with
  | none => simp
  | some t =>
    rw [tier] at placed
    have within : t < tiers := placed
    simp [within]

/-- An answer keeps the counters balanced, until one of them is full. -/
theorem Balanced.record (h : m.Balanced tiers) (fits : m.requests.toNat + 1 < 2 ^ 64)
    {r : TieredResponse} (placed : r.Placed tiers) (nanoseconds : Nat) :
    (m.record r nanoseconds).Balanced tiers := by
  have bound := h.notReady_le
  have sums := h.sum_record fits placed nanoseconds
  obtain ⟨verdicts, errors, length, answered, fallthroughs⟩ := h
  refine ⟨?_, ?_, ?_, ?_, ?_⟩
  · rw [record_eq]
    dsimp only
    rw [toNat_add_one fits, toNat_add_ite (by omega), toNat_add_ite (by omega),
      toNat_add_ite (by omega)]
    cases r.verdict <;> simp <;> omega
  · rw [record_eq]
    dsimp only
    rw [toNat_add_one fits, toNat_add_ite (by omega)]
    split <;> omega
  · rw [record_eq, ← length]
    cases r.tier <;> simp
  · intro some
    have one := sums fun _ => 1
    simp only [Nat.one_mul] at one
    rw [one, answered some, record_eq]
    dsimp only
    rw [toNat_add_one fits]
    unfold TieredResponse.Placed at placed
    cases tier : r.tier with
    | none => rw [tier] at placed; omega
    | some t => simp; omega
  · rw [sums fun i => i, UInt64.ofNat_add, ← fallthroughs, record_eq]
    simp

/-- A refusal keeps the counters balanced, until one of them is full. -/
theorem Balanced.recordNotReady (h : m.Balanced tiers) (fits : m.requests.toNat + 1 < 2 ^ 64) :
    m.recordNotReady.Balanced tiers := by
  obtain ⟨verdicts, errors, length, answered, fallthroughs⟩ := h
  have requests : (m.requests + 1).toNat = m.requests.toNat + 1 := toNat_add_one fits
  have notReady : (m.notReady + 1).toNat = m.notReady.toNat + 1 := toNat_add_one (by omega)
  refine ⟨?_, ?_, length, fun some => (answered some).trans ?_, fallthroughs⟩
  all_goals simp only [Metrics.recordNotReady, requests, notReady]
  all_goals omega

end

end Metrics

/-! ## A service -/

/-- An evaluator of stores that are published into elsewhere. Each goes by a key, and one may stand in
several places of the order. -/
structure Service where
  stores : String → Session
  order : List String
  metrics : Metrics

namespace Service

/-- What may happen to a service. -/
inductive Event
  | publish (key : String) (call : Call)
  | evaluate (request : Request) (entities : Entities) (nanoseconds : Nat)
  | authorize (request : Request) (entities : Entities) (nanoseconds : Nat)

def Event.isRequest : Event → Bool
  | publish _ _ => false
  | evaluate _ _ _ | authorize _ _ _ => true

/-- As the stores were made. -/
def new (origins : String → Origin) (stores : String → Store) (order : List String) : Service :=
  ⟨fun key => ⟨stores key, (origins key).published, []⟩, order,
    (Evaluator.new (order.map stores)).metrics⟩

def evaluator (s : Service) : Evaluator := ⟨s.order.map fun key => (s.stores key).store, s.metrics⟩

def step (s : Service) : Event → Service
  | .publish key call =>
    { s with stores := fun k => if k = key then (s.stores k).step (.call call) else s.stores k }
  | .evaluate request entities nanoseconds =>
    { s with metrics := (s.evaluator.evaluate request entities nanoseconds).1.metrics }
  | .authorize request entities nanoseconds =>
    { s with metrics := (s.evaluator.authorize request entities nanoseconds).1.metrics }

def run (s : Service) (events : List Event) : Service := events.foldl step s

/-- Nothing was ever published to some store. -/
def Waits (s : Service) : Prop := ∃ key ∈ s.order, (s.stores key).published = []

/-- The events that are not evaluated. -/
inductive Refuses (s : Service) : Event → Prop
  | authorize (waits : s.Waits) (request : Request) (entities : Entities) (nanoseconds : Nat) :
      Refuses s (.authorize request entities nanoseconds)

/-- Every store shows what took effect last. -/
def Shows (s : Service) : Prop := ∀ key, (s.stores key).Shows

section
variable {s : Service}

theorem step_shows (h : s.Shows) (event : Event) : (s.step event).Shows := by
  cases event with
  | publish key call =>
    intro k
    unfold step
    dsimp only
    split
    · exact Session.step_shows (h k) _
    · exact h k
  | evaluate | authorize => exact h

theorem run_shows (h : s.Shows) (events : List Event) : (s.run events).Shows :=
  List.foldlRecOn events step h fun _ h event _ => step_shows h event

theorem order_step (s : Service) (event : Event) : (s.step event).order = s.order := by
  cases event <;> rfl

/-- The stores are loaded as soon as each of them was published to. -/
theorem ready_iff (h : s.Shows) : s.evaluator.ready = true ↔ ¬s.Waits := by
  simp [evaluator, Evaluator.ready, Waits, (h _).loaded]

theorem authorize_of_waits (h : s.Shows) (waits : s.Waits) (request : Request) (entities : Entities)
    (nanoseconds : Nat) : s.evaluator.authorize request entities nanoseconds =
      ({ s.evaluator with metrics := s.metrics.recordNotReady }, .noOpinion) := by
  have unready : ¬s.evaluator.ready = true := fun ready => (ready_iff h).mp ready waits
  rw [Evaluator.authorize, if_neg unready]
  rfl

theorem authorize_of_not_waits (h : s.Shows) (ready : ¬s.Waits) (request : Request)
    (entities : Entities) (nanoseconds : Nat) :
    (s.evaluator.authorize request entities nanoseconds).1 =
      (s.evaluator.evaluate request entities nanoseconds).1 := by
  rw [Evaluator.authorize, if_pos ((ready_iff h).mpr ready)]

theorem metrics_of_refuses (h : s.Shows) {event : Event} (refuses : s.Refuses event) :
    (s.step event).metrics = s.metrics.recordNotReady := by
  cases refuses with
  | authorize waits request entities nanoseconds =>
    unfold step
    dsimp only
    rw [authorize_of_waits h waits]

/-- An event adds nothing to the counters, a refusal or an answer. -/
inductive Counts (s : Service) (event : Event) : Metrics → Prop
  | published (other : event.isRequest = false) : Counts s event s.metrics
  | refused (refuses : s.Refuses event) : Counts s event s.metrics.recordNotReady
  | answered (request : event.isRequest = true) (evaluates : ¬s.Refuses event) {r : TieredResponse}
      (placed : r.Placed s.order.length) (nanoseconds : Nat) :
      Counts s event (s.metrics.record r nanoseconds)

theorem counts_step (h : s.Shows) (event : Event) : s.Counts event (s.step event).metrics := by
  have placed : ∀ request entities,
      (ClusterPolicy.evaluate s.evaluator.stores request entities).Placed s.order.length := by
    intro request entities
    simpa [evaluator] using placed_evaluate s.evaluator.stores request entities
  cases event with
  | publish key call => exact .published rfl
  | evaluate request entities nanoseconds =>
    exact .answered rfl (by rintro ⟨⟩) (placed request entities) nanoseconds
  | authorize request entities nanoseconds =>
    by_cases waits : s.Waits
    · have refuses : s.Refuses (.authorize request entities nanoseconds) := .authorize waits _ _ _
      rw [metrics_of_refuses h refuses]
      exact .refused refuses
    · unfold step
      dsimp only
      rw [authorize_of_not_waits h waits]
      refine .answered rfl ?_ (placed request entities) nanoseconds
      rintro ⟨some⟩
      exact waits some

theorem Refuses.isRequest {event : Event} (h : s.Refuses event) : event.isRequest = true := by
  cases h
  rfl

/-- One event keeps the balance, and is counted if it is a request. -/
theorem step_balanced {event : Event} (h : s.Shows) (balanced : s.metrics.Balanced s.order.length)
    (fits : s.metrics.requests.toNat + (if event.isRequest then 1 else 0) < 2 ^ 64) :
    (s.step event).metrics.Balanced s.order.length ∧ (s.step event).metrics.requests.toNat =
      s.metrics.requests.toNat + if event.isRequest then 1 else 0 := by
  have counts := counts_step h event
  generalize (s.step event).metrics = m at counts ⊢
  cases counts with
  | published other => exact ⟨balanced, by simp [other]⟩
  | refused refuses =>
    rw [refuses.isRequest] at fits ⊢
    exact ⟨balanced.recordNotReady fits, Metrics.toNat_add_one fits⟩
  | answered request evaluates placed nanoseconds =>
    rw [request] at fits ⊢
    refine ⟨balanced.record fits placed nanoseconds, ?_⟩
    rw [Metrics.record_eq]
    exact Metrics.toNat_add_one fits

/-- As long as the requests can be counted, they are, and the counters are balanced. -/
theorem run_balanced {events : List Event} (h : s.Shows)
    (balanced : s.metrics.Balanced s.order.length)
    (few : s.metrics.requests.toNat + events.countP Event.isRequest < 2 ^ 64) :
    (s.run events).metrics.Balanced s.order.length ∧ (s.run events).metrics.requests.toNat =
      s.metrics.requests.toNat + events.countP Event.isRequest := by
  induction events generalizing s with
  | nil => exact ⟨balanced, rfl⟩
  | cons event events ih =>
    rw [List.countP_cons] at few ⊢
    have fits : s.metrics.requests.toNat + (if event.isRequest then 1 else 0) < 2 ^ 64 := by omega
    obtain ⟨next, counted⟩ := step_balanced h balanced fits
    rw [← order_step s event] at next ⊢
    obtain ⟨balanced, all⟩ := ih (step_shows h event) next (by rw [counted]; omega)
    refine ⟨balanced, all.trans ?_⟩
    rw [counted]
    omega

/-- A refusal, and nothing else, is counted as one. -/
theorem notReady_step {event : Event} (h : s.Shows)
    (fits : event.isRequest = true → s.metrics.notReady.toNat + 1 < 2 ^ 64) :
    ((s.step event).metrics.notReady.toNat = s.metrics.notReady.toNat + 1 ↔ s.Refuses event) ∧
      (¬s.Refuses event → (s.step event).metrics.notReady = s.metrics.notReady) := by
  have counts := counts_step h event
  generalize (s.step event).metrics = m at counts ⊢
  cases counts with
  | published other =>
    have evaluates : ¬s.Refuses event := fun refuses => by simp [refuses.isRequest] at other
    exact ⟨iff_of_false (by omega) evaluates, fun _ => rfl⟩
  | refused refuses =>
    have counted := Metrics.toNat_add_one (fits refuses.isRequest)
    exact ⟨iff_of_true counted refuses, fun evaluates => absurd refuses evaluates⟩
  | answered request evaluates placed nanoseconds =>
    rw [Metrics.record_eq]
    exact ⟨iff_of_false (by dsimp only; omega) evaluates, fun _ => rfl⟩

end

/-- The counters of an evaluator are balanced after any events of which fewer than can be counted are
requests. Counted as refused are the requests that are not evaluated because nothing was published to a
store yet; they get no opinion and move no other counter but that of the requests, of which they are a
part. -/
theorem balanced_of_create {origins : String → Origin} {stores : String → Store}
    (created : ∀ key, (origins key).create = .ok (stores key)) (order : List String)
    {events : List Event} (few : events.countP Event.isRequest < 2 ^ 64) :
    let start := new origins stores order
    let m := (start.run events).metrics
    m.requests.toNat = events.countP Event.isRequest ∧ m.Balanced order.length ∧
    (order = [] → m.fallthroughs = 0 ∧ ∀ tier, m.tierDecisions tier = 0) ∧
    (∀ tier, order.length ≤ tier → m.tierDecisions tier = 0) ∧
    (m.notReady.toNat ≤ m.requests.toNat ∧
      m.averageTime.toNat = m.evaluationTime.toNat / (m.requests.toNat - m.notReady.toNat)) ∧
    ∀ before event after, events = before ++ event :: after →
      let s := start.run before
      let next := (s.step event).metrics
      (next.notReady.toNat = s.metrics.notReady.toNat + 1 ↔ s.Refuses event) ∧
      (¬s.Refuses event → next.notReady = s.metrics.notReady) ∧
      (s.Refuses event → next = { s.metrics with
        requests := s.metrics.requests + 1, notReady := s.metrics.notReady + 1 }) ∧
      (s.Waits → ∀ request entities nanoseconds,
        (s.evaluator.authorize request entities nanoseconds).2 = .noOpinion) := by
  intro start m
  have shows : start.Shows := fun key => Session.shows_create (created key)
  have fresh : start.metrics.Balanced order.length := by
    have made := Metrics.balanced_new (order.map stores).length
    rw [List.length_map] at made
    simpa [start, new, Evaluator.new] using made
  have none : start.metrics.requests.toNat = 0 := rfl
  obtain ⟨balanced, requests⟩ : m.Balanced order.length ∧ _ :=
    run_balanced shows fresh (by rw [none]; omega)
  rw [none, Nat.zero_add] at requests
  have beyond : ∀ tier, order.length ≤ tier → m.tierDecisions tier = 0 :=
    fun tier le => Metrics.tierDecisions_of_length_le (balanced.length.trans_le le)
  refine ⟨requests, balanced, ?_, beyond, ⟨balanced.notReady_le, balanced.toNat_averageTime⟩, ?_⟩
  · rintro rfl
    exact ⟨balanced.fallthroughs, fun tier => beyond tier (Nat.zero_le tier)⟩
  · rintro before event after rfl s next
    have here : s.Shows := run_shows shows before
    rw [List.countP_append, List.countP_cons] at few
    obtain ⟨now, counted⟩ : s.metrics.Balanced order.length ∧ s.metrics.requests.toNat = _ :=
      run_balanced shows fresh (by rw [none]; omega)
    rw [none, Nat.zero_add] at counted
    have bound : s.metrics.notReady.toNat ≤ s.metrics.requests.toNat := now.notReady_le
    have fits : event.isRequest = true → s.metrics.notReady.toNat + 1 < 2 ^ 64 := by
      intro request
      rw [if_pos request] at few
      omega
    obtain ⟨refused, evaluated⟩ := notReady_step here fits
    refine ⟨refused, evaluated, metrics_of_refuses here, ?_⟩
    intro waits request entities nanoseconds
    rw [authorize_of_waits here waits]

/-- A request that comes too early, one that falls through to the second store, and one that the first
store decides. -/
theorem balanced_of_create_late :
    let policy : Cedar.Policy :=
      { id := "all", effect := .permit, principal := .any, action := .any, resource := .any
        clauses := [], annotations := .empty }
    let policies : Cedar.PolicySet := .ofList [("all", policy)]
    let origins : String → Origin := fun key =>
      if key = "static" then .policySet "static" policies else .new key
    let stores : String → Store := fun key =>
      if key = "static" then .ofPolicySet "static" policies else .new key
    let request : Request := ⟨⟨"User", "ann"⟩, ⟨"Action", "get"⟩, ⟨"Pod", "web"⟩, []⟩
    let events : List Event :=
      [.authorize request .empty 0, .publish "dynamic" (.set .empty "1"),
        .authorize request .empty 3000, .publish "dynamic" (.set policies "2"),
        .evaluate request .empty 1000]
    (∀ key, (origins key).create = .ok (stores key)) ∧ events.countP Event.isRequest < 2 ^ 64 ∧
    let m := ((new origins stores ["dynamic", "static"]).run events).metrics
    m.Balanced 2 ∧ m = ⟨3, 2, 0, 0, 0, 1, 1, 4, [1, 1]⟩ ∧ m.averageTime = 2 := by
  intro policy policies origins stores request events
  have created : ∀ key, (origins key).create = .ok (stores key) := by
    intro key
    by_cases static : key = "static" <;> simp [origins, stores, static, Origin.create]
  have few : events.countP Event.isRequest < 2 ^ 64 := by decide
  obtain ⟨-, balanced, -⟩ := balanced_of_create created ["dynamic", "static"] few
  exact ⟨created, few, balanced, by decide, by decide⟩

end Service

end ClusterPolicy
