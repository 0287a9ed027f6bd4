import ClusterPolicy.Tier

namespace ClusterPolicy

/-- Counters of an evaluator's answers, which wrap at 64 bits. -/
structure Metrics where
  requests : UInt64
  allowed : UInt64
  denied : UInt64
  noOpinion : UInt64
  /-- Answers with errors -/
  errors : UInt64
  /-- Stores passed over -/
  fallthroughs : UInt64
  /-- Requests refused because a store was not loaded -/
  notReady : UInt64
  /-- In microseconds -/
  evaluationTime : UInt64
  /-- Answers of each store -/
  decisions : List UInt64
  deriving DecidableEq, Repr

namespace Metrics

def new (tiers : Nat) : Metrics := ⟨0, 0, 0, 0, 0, 0, 0, 0, List.replicate tiers 0⟩

def countVerdict (m : Metrics) (verdict : Verdict) : Metrics :=
  match verdict with
  | .allow => { m with allowed := m.allowed + 1 }
  | .deny => { m with denied := m.denied + 1 }
  | .noOpinion => { m with noOpinion := m.noOpinion + 1 }

def countTier (m : Metrics) (tier : Option Nat) : Metrics :=
  match tier with
  | none => m
  | some tier =>
    { m with
      fallthroughs := m.fallthroughs + .ofNat tier
      decisions := m.decisions.modify tier (· + 1) }

/-- Counts an answer that took so many nanoseconds. -/
def record (m : Metrics) (response : TieredResponse) (nanoseconds : Nat) : Metrics :=
  let m := (m.countVerdict response.verdict).countTier response.tier
  { m with
    requests := m.requests + 1
    errors := if response.errors.isEmpty then m.errors else m.errors + 1
    evaluationTime := m.evaluationTime + .ofNat (nanoseconds / 1000) }

def recordNotReady (m : Metrics) : Metrics :=
  { m with requests := m.requests + 1, notReady := m.notReady + 1 }

def tierDecisions (m : Metrics) (tier : Nat) : UInt64 := (m.decisions[tier]?).getD 0

def evaluated (m : Metrics) : UInt64 := m.requests - m.notReady

/-- The average time of the requests that were evaluated, in microseconds. -/
def averageTime (m : Metrics) : UInt64 := if m.evaluated = 0 then 0 else m.evaluationTime / m.evaluated

end Metrics

/-- Stores in order of precedence, with counters. -/
structure Evaluator where
  stores : List Store
  metrics : Metrics

namespace Evaluator

open Cedar (Entities Request)

def new (stores : List Store) : Evaluator := ⟨stores, .new stores.length⟩

def ready (e : Evaluator) : Bool := e.stores.all (·.loaded)

/-- Answers a request, which takes so many nanoseconds. -/
def evaluate (e : Evaluator) (request : Request) (entities : Entities) (nanoseconds : Nat) :
    Evaluator × TieredResponse :=
  let response := ClusterPolicy.evaluate e.stores request entities
  ({ e with metrics := e.metrics.record response nanoseconds }, response)

/-- No opinion until every store is loaded. -/
def authorize (e : Evaluator) (request : Request) (entities : Entities) (nanoseconds : Nat) :
    Evaluator × Verdict :=
  if e.ready then
    let (e, response) := e.evaluate request entities nanoseconds
    (e, response.verdict)
  else ({ e with metrics := e.metrics.recordNotReady }, .noOpinion)

end Evaluator

end ClusterPolicy
