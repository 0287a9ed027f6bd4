import ClusterPolicy.Proofs.Cedar.Parser
import Mathlib.Logic.Relation

/-! What a level of the grammar reads, and how a chain of operands grows. A level that chains reads up
to its own next operator too, so that an operand can be added behind. -/

namespace ClusterPolicy.Cedar

/-- The level of what takes a token for itself behind an operand: operators and suffixes, a call or
a path; none is 0. -/
def Token.pull (t : Token) : Nat :=
  match t with
  | .symbol .parenOpen | .symbol .path => 8
  | .symbol .point | .symbol .bracketOpen => 7
  | .symbol .times => 5
  | .symbol .plus | .symbol .minus => 4
  | .symbol .equal | .symbol .notEqual | .symbol .less | .symbol .lessOrEqual | .symbol .greater
  | .symbol .greaterOrEqual => 3
  | .symbol .and => 2
  | .symbol .or => 1
  | t => if t = .word "in" ∨ t = .word "has" ∨ t = .word "like" ∨ t = .word "is" then 3 else 0

/-- Nothing follows that an expression of this level would take in. -/
def Ends (level : Nat) (rest : List Token) : Prop :=
  ∀ t ∈ rest.head?, t.pull = 0 ∨ t.pull < level

theorem Ends.mono {j k : Nat} (h : j ≤ k) {rest : List Token} (ends : Ends j rest) : Ends k rest :=
  fun t ht => (ends t ht).imp_right fun less => by omega

namespace Parser

variable {nested : Parser Expr}

/-- The parser of a level. -/
def atLevel (nested : Parser Expr) : Nat → Parser Expr
  | 0 => exprWith nested
  | 1 => disjunction nested
  | 2 => conjunction nested
  | 3 => relation nested
  | 4 => sum nested
  | 5 => product nested
  | 6 => unary nested
  | _ => member nested

/-- A level reads an expression from its tokens, up to what it would not take in. -/
def Reads (nested : Parser Expr) (level : Nat) (ts : List Token) (e : Expr) : Prop :=
  ∀ rest, Ends level rest → atLevel nested level (ts ++ rest) = some (e, rest)

/-- The levels whose parsers read a first operand and then repeat a step. -/
def Chains (level : Nat) : Prop := level ∈ [1, 2, 4, 5, 7]

instance (level : Nat) : Decidable (Chains level) :=
  inferInstanceAs (Decidable (level ∈ [1, 2, 4, 5, 7]))

/-- What an operator of a level makes of its operands. -/
def build? : Nat → Token → Option (Expr → Expr → Expr)
  | 1, t => if t = .symbol .or then some .or else none
  | 2, t => if t = .symbol .and then some .and else none
  | 4, t =>
    if t = .symbol .plus then some (.binary .add)
    else if t = .symbol .minus then some (.binary .subtract)
    else none
  | 5, t => if t = .symbol .times then some (.binary .multiply) else none
  | _, _ => none

/-- One more operator and its operand, if an operator comes next. -/
def link? (build? : Token → Option (Expr → Expr → Expr)) (operand : Parser Expr) (left : Expr) :
    Parser (Option Expr) := do
  match (← peek).bind build? with
  | none => return none
  | some build =>
    discard token
    return some (build left (← operand))

def first (nested : Parser Expr) (level : Nat) : Parser Expr :=
  if level = 7 then primary nested else atLevel nested (level + 1)

def step? (nested : Parser Expr) (level : Nat) : Expr → Parser (Option Expr) :=
  if level = 7 then suffix? nested else link? (build? level) (atLevel nested (level + 1))

def steps (step? : Expr → Parser (Option Expr)) (left : Expr) : Nat → Parser Expr
  | 0 => return left
  | n + 1 => do
    match ← step? left with
    | none => return left
    | some longer => steps step? longer n

theorem chain_eq (build? : Token → Option (Expr → Expr → Expr)) (operand : Parser Expr) :
    chain build? operand = steps (link? build? operand) := by
  funext left n
  induction n generalizing left with
  | zero => rfl
  | succ n ih =>
    funext ts
    simp only [chain, steps, link?, run_bind, peek_eq, Option.bind_some]
    cases ts.head?.bind build? with
    | none => rfl
    | some build =>
      simp only [ih, run_bind, Option.bind_assoc, run_pure, Option.bind_some]

theorem suffixes_eq : suffixes nested = steps (suffix? nested) := by
  funext left n
  induction n generalizing left with
  | zero => rfl
  | succ n ih =>
    funext ts
    simp only [suffixes, steps, run_bind]
    congr 1
    funext r
    cases r.1 with
    | none => rfl
    | some longer => exact congrFun (ih longer) r.2

theorem level_eq (build? : Token → Option (Expr → Expr → Expr)) (operand : Parser Expr) :
    level build? operand = operand >>= fun left => bounded (steps (link? build? operand) left) := by
  rw [level, chain_eq]

theorem atLevel_chain {k : Nat} (h : Chains k) : atLevel nested k =
    first nested k >>= fun left => bounded (steps (step? nested k) left) := by
  simp only [Chains, List.mem_cons, List.not_mem_nil, or_false] at h
  rcases h with rfl | rfl | rfl | rfl | rfl
  · exact level_eq ..
  · exact level_eq ..
  · exact level_eq ..
  · exact level_eq ..
  · simp only [atLevel, member, suffixes_eq, first, step?, ↓reduceIte]

theorem pull_of_build? {k : Nat} {t : Token} {build : Expr → Expr → Expr}
    (h : build? k t = some build) : t.pull = k ∧ 0 < k := by
  unfold build? at h
  split at h
  · split at h <;> simp_all [Token.pull]
  · split at h <;> simp_all [Token.pull]
  · split at h
    · simp_all [Token.pull]
    · split at h <;> simp_all [Token.pull]
  · split at h <;> simp_all [Token.pull]
  · cases h

theorem suffix?_none {rest : List Token} (ends : Ends 7 rest) (left : Expr) :
    suffix? nested left rest = some (none, rest) := by
  have point : ∀ t ∈ rest.head?, t ≠ .symbol .point := by
    rintro t ht rfl
    simpa [Token.pull] using ends _ ht
  have bracket : ∀ t ∈ rest.head?, t ≠ .symbol .bracketOpen := by
    rintro t ht rfl
    simpa [Token.pull] using ends _ ht
  simp [suffix?, accept_other point, accept_other bracket, -String.reduceToList]

/-- Nothing that a chain takes in follows. -/
theorem step?_none {k : Nat} {rest : List Token} (ends : Ends k rest) (left : Expr) :
    step? nested k left rest = some (none, rest) := by
  unfold step?
  split
  · rename_i whole
    exact suffix?_none (whole ▸ ends) left
  · have none : rest.head?.bind (build? k) = none := by
      cases ht : rest.head? with
      | none => rfl
      | some t =>
        cases hb : build? k t with
        | none => simp [hb]
        | some build =>
          have pull := pull_of_build? hb
          have := ends t ht
          omega
    simp [link?, none]

/-- A step of a chain that takes tokens in. -/
def Steps (nested : Parser Expr) (k : Nat) (a b : Expr × List Token) : Prop :=
  step? nested k a.1 a.2 = some (some b.1, b.2) ∧ b.2.length < a.2.length

theorem steps_of_reflTransGen {k : Nat} {a b : Expr × List Token}
    (h : Relation.ReflTransGen (Steps nested k) a b) : ∃ s, s + b.2.length ≤ a.2.length ∧
      ∀ n, steps (step? nested k) a.1 (n + s) a.2 = steps (step? nested k) b.1 n b.2 := by
  induction h with
  | refl => exact ⟨0, by omega, fun n => rfl⟩
  | @tail b c _ step ih =>
    obtain ⟨s, room, run⟩ := ih
    refine ⟨s + 1, by have := step.2; omega, fun n => ?_⟩
    rw [Nat.add_comm s, ← Nat.add_assoc, run]
    simp [steps, step.1]

theorem steps_stop {k : Nat} {rest : List Token} (ends : Ends k rest) (left : Expr)
    (n : Nat) : steps (step? nested k) left n rest = some (left, rest) := by
  cases n with
  | zero => rfl
  | succ n => simp [steps, step?_none ends]

/-- Read by a level up to what the next higher level leaves. -/
def Grows (nested : Parser Expr) (k : Nat) (ts : List Token) (e : Expr) : Prop :=
  ∀ rest, Ends (k + 1) rest → ∃ a, first nested k (ts ++ rest) = some a ∧
    Relation.ReflTransGen (Steps nested k) a (e, rest)

theorem reads_of_grows {k : Nat} (h : Chains k) {ts : List Token} {e : Expr}
    (grows : Grows nested k ts e) : Reads nested k ts e := by
  intro rest ends
  obtain ⟨a, start, more⟩ := grows rest (ends.mono (Nat.le_succ k))
  obtain ⟨s, room, run⟩ := steps_of_reflTransGen more
  obtain ⟨n, hn⟩ := Nat.exists_eq_add_of_le' (Nat.le_trans (Nat.le_add_right s _) room)
  simp only [atLevel_chain h, run_bind, start, Option.bind_some, run_bounded, hn, run, steps_stop ends]

theorem grows_of_reads {k : Nat} (hk : k ≠ 7) {ts : List Token} {e : Expr}
    (reads : Reads nested (k + 1) ts e) : Grows nested k ts e := by
  intro rest ends
  refine ⟨(e, rest), ?_, .refl⟩
  simp [first, hk, reads rest ends]

/-- One more operator and its operand. -/
theorem Grows.operator {k : Nat} {ts ts' : List Token} {t : Token} {e e' : Expr}
    {build : Expr → Expr → Expr} (hl : Grows nested k ts e) (ht : build? k t = some build)
    (hr : Reads nested (k + 1) ts' e') : Grows nested k (ts ++ t :: ts') (build e e') := by
  intro rest ends
  have pull := pull_of_build? ht
  have behind : Ends (k + 1) (t :: (ts' ++ rest)) := by
    rintro _ ⟨⟩
    omega
  obtain ⟨a, start, more⟩ := hl _ behind
  refine ⟨a, by simpa using start, more.tail ⟨?_, ?_⟩⟩
  · have notMember : k ≠ 7 := by rintro rfl; simp [build?] at ht
    simp [step?, notMember, link?, ht, hr rest ends]
  · simp only [List.length_append, List.length_cons]
    omega

end Parser

end ClusterPolicy.Cedar
