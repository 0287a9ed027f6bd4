import ClusterPolicy.Store

/-! What a store shows, call after call: whatever took effect last. What was taken from it stays what it
was. -/

namespace ClusterPolicy

open Cedar (PolicySet)

/-! ## Calls -/

/-- A call that is to publish something under a version. -/
inductive Call
  | set (policies : PolicySet) (version : String)
  | text (source version : String)
  | collection (c : PolicyCollection) (version : String)

namespace Call

def version : Call → String
  | set _ version | text _ version | collection _ version => version

/-- What is to be published, if it can be read or converted. -/
def policies (name : String) : Call → Except Error PolicySet
  | set policies _ => .ok policies
  | text source _ => parsePolicySet name source
  | collection c _ => c.toPolicySet

end Call

namespace Store

/-- The store after a call, which is the one before if the call fails. -/
def after (store : Store) : Except Error (Store × Bool) → Store × Except Error Bool
  | .ok (next, published) => (next, .ok published)
  | .error e => (store, .error e)

/-- The store after a call, and the answer. -/
def call (store : Store) : Call → Store × Except Error Bool
  | .set policies version => store.after (.ok (store.publish policies version))
  | .text source version => store.after (store.publishText source version)
  | .collection c version => store.after (store.publishCollection c version)

/-- The store is loaded with a version. -/
def Has (store : Store) (version : String) : Prop :=
  store.loaded = true ∧ store.snapshot.version = version

instance (store : Store) (version : String) : Decidable (store.Has version) :=
  inferInstanceAs (Decidable (_ ∧ _))

/-- What takes effect by a call: its policies, unless there are none or their version is loaded. -/
def effect (store : Store) (call : Call) : List Snapshot :=
  match call.policies store.name with
  | .ok policies => if store.Has call.version then [] else [⟨policies, call.version, policies.size⟩]
  | .error _ => []

/-- What a call does: the store after it, the answer and what took effect. -/
inductive Answers (store : Store) (call : Call) : Store → Except Error Bool → List Snapshot → Prop
  | effective {policies : PolicySet} (converts : call.policies store.name = .ok policies)
      (other : ¬store.Has call.version) :
      Answers store call ⟨store.name, ⟨policies, call.version, policies.size⟩, true⟩ (.ok true)
        [⟨policies, call.version, policies.size⟩]
  | same {policies : PolicySet} (converts : call.policies store.name = .ok policies)
      (has : store.Has call.version) : Answers store call store (.ok false) []
  | failed {e : Error} (fails : call.policies store.name = .error e) :
      Answers store call store (.error e) []

theorem publish_of_has {store : Store} {version : String} (has : store.Has version)
    (policies : PolicySet) : store.publish policies version = (store, false) := by
  simp [publish, has.1, has.2]

theorem publish_of_not_has {store : Store} {version : String} (other : ¬store.Has version)
    (policies : PolicySet) :
    store.publish policies version =
      (⟨store.name, ⟨policies, version, policies.size⟩, true⟩, true) := by
  have unlike : (store.loaded && store.snapshot.version == version) = false := by
    simpa [Has] using other
  simp [publish, unlike, Snapshot.of]

/-- All calls publish what they convert. -/
theorem call_eq (store : Store) (call : Call) : store.call call =
    store.after ((call.policies store.name).map (store.publish · call.version)) := by
  cases call with
  | set policies version => rfl
  | text source version =>
    rw [Store.call, publishText, Call.policies]
    cases parsePolicySet store.name source <;> rfl
  | collection c version =>
    rw [Store.call, publishCollection, Call.policies]
    cases c.toPolicySet <;> rfl

/-- A call takes effect, or finds its version loaded, or fails, and only the first of these changes the
store. -/
theorem answers_call (store : Store) (call : Call) :
    Answers store call (store.call call).1 (store.call call).2 (store.effect call) := by
  rw [call_eq, effect]
  cases converts : call.policies store.name with
  | error e => exact .failed converts
  | ok policies =>
    by_cases has : store.Has call.version
    · simp only [Except.map, publish_of_has has, if_pos has]
      exact .same converts has
    · simp only [Except.map, publish_of_not_has has, if_neg has]
      exact .effective converts has

theorem ofText_eq (name source : String) :
    ofText name source = (parsePolicySet name source).map (ofPolicySet name) := by
  rw [ofText, publishText]
  change (parsePolicySet name source >>= _) >>= _ = _
  cases parsePolicySet name source <;> rfl

theorem ofCollection_eq (c : PolicyCollection) :
    ofCollection c = c.toPolicySet.map (ofPolicySet c.name) := by
  rw [ofCollection]
  cases c.toPolicySet <;> rfl

end Store

/-! ## Origins -/

/-- What a store is made of. -/
inductive Origin
  | new (name : String)
  | policySet (name : String) (policies : PolicySet)
  | text (name source : String)
  | collection (c : PolicyCollection)

namespace Origin

def create : Origin → Except Error Store
  | new name => .ok (.new name)
  | policySet name policies => .ok (.ofPolicySet name policies)
  | text name source => Store.ofText name source
  | collection c => Store.ofCollection c

/-- The policies that a store is made with, unless there are none or they cannot be read or
converted. -/
def policies? : Origin → Option PolicySet
  | new _ => none
  | policySet _ policies => some policies
  | text name source => (parsePolicySet name source).toOption
  | collection c => c.toPolicySet.toOption

/-- What is published as the store is made. -/
def published (origin : Origin) : List Snapshot :=
  origin.policies?.toList.map fun policies => ⟨policies, Store.initialVersion, policies.size⟩

end Origin

/-! ## Sessions -/

/-- What may happen to a store. -/
inductive Event
  | call (call : Call)
  | take

/-- A store, all that took effect, and all that readers took from it. -/
structure Session where
  store : Store
  published : List Snapshot
  taken : List Snapshot

namespace Session

def step (s : Session) : Event → Session
  | .call call =>
    ⟨(s.store.call call).1, s.published ++ s.store.effect call, s.taken⟩
  | .take => { s with taken := s.taken ++ [s.store.snapshot] }

def run (s : Session) (events : List Event) : Session := events.foldl step s

/-- The store shows what took effect last. -/
structure Shows (s : Session) : Prop where
  snapshot : s.store.snapshot = s.published.getLast?.getD ⟨.empty, "", 0⟩
  loaded : s.store.loaded = true ↔ s.published ≠ []
  count : s.store.size = s.store.snapshot.policies.size

theorem shows_create {origin : Origin} {store : Store} (created : origin.create = .ok store) :
    Shows ⟨store, origin.published, []⟩ := by
  cases origin with
  | new name =>
    cases created
    exact ⟨rfl, iff_of_false nofun (· rfl), rfl⟩
  | policySet name policies =>
    cases created
    exact ⟨rfl, iff_of_true rfl nofun, rfl⟩
  | text name source =>
    rw [Origin.create, Store.ofText_eq] at created
    rw [Origin.published, Origin.policies?]
    cases reads : parsePolicySet name source with
    | error e => rw [reads] at created; cases created
    | ok policies =>
      rw [reads] at created
      cases created
      exact ⟨rfl, iff_of_true rfl nofun, rfl⟩
  | collection c =>
    rw [Origin.create, Store.ofCollection_eq] at created
    rw [Origin.published, Origin.policies?]
    cases converts : c.toPolicySet with
    | error e => rw [converts] at created; cases created
    | ok policies =>
      rw [converts] at created
      cases created
      exact ⟨rfl, iff_of_true rfl nofun, rfl⟩

theorem Shows.answers {s : Session} (h : s.Shows) {call : Call} {next : Store}
    {answer : Except Error Bool} {effect : List Snapshot}
    (answers : Store.Answers s.store call next answer effect) :
    Shows ⟨next, s.published ++ effect, s.taken⟩ := by
  cases answers with
  | effective converts other => exact ⟨by simp, by simp, rfl⟩
  | same converts has | failed fails =>
    rw [List.append_nil]
    exact ⟨h.snapshot, h.loaded, h.count⟩

/-- Whatever is called, the store shows what took effect last. -/
theorem step_shows {s : Session} (h : s.Shows) (event : Event) : (s.step event).Shows := by
  cases event with
  | take => exact ⟨h.snapshot, h.loaded, h.count⟩
  | call call => exact h.answers (Store.answers_call s.store call)

theorem run_shows {s : Session} (h : s.Shows) (events : List Event) : (s.run events).Shows :=
  List.foldlRecOn events step h fun _ h event _ => step_shows h event

theorem taken_step (s : Session) (event : Event) : s.taken <+: (s.step event).taken := by
  cases event with
  | call call => exact List.prefix_refl _
  | take => exact List.prefix_append _ _

theorem published_step (s : Session) (event : Event) : s.published <+: (s.step event).published := by
  cases event with
  | call call => exact List.prefix_append _ _
  | take => exact List.prefix_refl _

/-- Whatever happens, what was taken and what took effect stays. -/
theorem prefix_run (s : Session) (events : List Event) :
    s.taken <+: (s.run events).taken ∧ s.published <+: (s.run events).published := by
  refine List.foldlRecOn (motive := fun t : Session => s.taken <+: t.taken ∧
    s.published <+: t.published) events step ⟨List.prefix_refl _, List.prefix_refl _⟩ ?_
  rintro t ⟨taken, published⟩ event -
  exact ⟨taken.trans (taken_step t event), published.trans (published_step t event)⟩

theorem Shows.loaded_run {s : Session} (h : s.Shows) (loaded : s.store.loaded = true)
    (events : List Event) : (s.run events).store.loaded = true := by
  have some := h.loaded.mp loaded
  obtain ⟨-, more⟩ := s.prefix_run events
  exact (run_shows h events).loaded.mpr (more.ne_nil some)

/-- After any events a store, however it was made, shows what took effect last, and the next call takes
effect, or finds its version loaded, or fails. Nothing that follows unloads the store, or changes what
was taken from it. -/
theorem shows_of_create {origin : Origin} {store : Store} (created : origin.create = .ok store)
    (events : List Event) :
    let s := run ⟨store, origin.published, []⟩ events
    s.Shows ∧
    (∀ call, Store.Answers s.store call (s.step (.call call)).store (s.store.call call).2
      (s.store.effect call)) ∧
    ∀ later,
      (s.store.loaded = true → (s.run later).store.loaded = true) ∧
      s.published <+: (s.run later).published ∧ s.taken <+: (s.run later).taken ∧
      s.taken ++ [s.store.snapshot] <+: ((s.step .take).run later).taken := by
  intro s
  have shows := run_shows (shows_create created) events
  refine ⟨shows, Store.answers_call s.store, fun later => ?_⟩
  obtain ⟨taken, published⟩ := s.prefix_run later
  exact ⟨fun loaded => shows.loaded_run loaded later, published, taken,
    ((s.step .take).prefix_run later).1⟩

/-- A text that cannot be read, a first version, and a second one once the first was taken. -/
theorem shows_of_create_reloaded :
    let policy : Cedar.Policy :=
      { id := "all", effect := .permit, principal := .any, action := .any, resource := .any
        clauses := [], annotations := .empty }
    let policies : PolicySet := .ofList [("all", policy)]
    let events : List Event := [.call (.text "permit" "1"), .call (.set .empty "1"), .take,
      .call (.set policies "1"), .call (.set policies "2")]
    ∃ store, (Origin.new "cluster").create = .ok store ∧
      let s := run ⟨store, [], []⟩ events
      s.Shows ∧ s.published = [⟨.empty, "1", 0⟩, ⟨policies, "2", 1⟩] ∧
        s.taken = [⟨.empty, "1", 0⟩] ∧ s.store = ⟨"cluster", ⟨policies, "2", 1⟩, true⟩ := by
  intro policy policies events
  have created : (Origin.new "cluster").create = .ok (.new "cluster") := rfl
  obtain ⟨shows, -⟩ := shows_of_create created events
  exact ⟨_, created, shows, rfl, rfl, rfl⟩

end Session

end ClusterPolicy
