import ClusterPolicy.Proofs.Cel.Lexing

namespace ClusterPolicy.Cel.Parser

variable {nested : Parser Expr}

/-! ## Operators -/

def operators (level : Nat) : List Operator := Operator.all.filter fun op => op.level = level

theorem level_of_mem_operators {k : Nat} {op : Operator} (h : op ∈ operators k) : op.level = k := by
  simpa using (List.mem_filter.mp h).2

/-- The level of an operator shows in its first character. -/
theorem exists_head_symbol (op : Operator) :
    ∃ c, op.symbol.toList.head? = some c ∧ pull c = op.level := by
  cases op <;> exact ⟨_, rfl, rfl⟩

/-- An operator is taken at its own level, where blanks stand around it. -/
theorem operatorOf_spaced (op : Operator) (rest : List Char) :
    operatorOf (operators op.level) (' ' :: (op.symbol.toList ++ ' ' :: rest)) =
      .ok op (' ' :: rest) := by
  cases op <;> rfl

/-- A level takes no operator where its expression ends. -/
theorem operatorOf_misses {k : Nat} {rest : List Char} (ends : Ends k rest) :
    Misses (operatorOf (operators k)) rest := by
  refine ⟨rest, Misses.firstOf fun p mem => ?_⟩
  obtain ⟨op, hop, rfl⟩ := List.mem_map.mp mem
  obtain ⟨c, starts, pulls⟩ := exists_head_symbol op
  rw [level_of_mem_operators hop] at pulls
  have other : peek rest ≠ some c := ends.peek_ne (Nat.le_of_eq pulls.symm)
  apply Misses.constant
  split
  · exact word_misses_head starts other
  · exact symbol_misses starts other

/-! ## Levels -/

/-- The parser of a level. -/
def atLevel (nested : Parser Expr) : Nat → Parser Expr
  | 0 | 1 => conditional nested
  | 2 => disjunction nested
  | 3 => conjunction nested
  | 4 => relation nested
  | 5 => sum nested
  | 6 => product nested
  | 7 => unary nested
  | _ => member nested

/-- A level reads an expression from its text, up to what it would not take in. -/
def Reads (nested : Parser Expr) (level : Nat) (text : List Char) (e : Expr) : Prop :=
  Takes (atLevel nested level) level text e

/-- The levels whose parsers read a first operand and then one link after the other. -/
def Chains (level : Nat) : Prop := level ∈ [2, 3, 4, 5, 6, 9]

instance (level : Nat) : Decidable (Chains level) :=
  inferInstanceAs (Decidable (level ∈ [2, 3, 4, 5, 6, 9]))

/-- One more operator and its operand, if an operator comes next. -/
def link? (operators : List Operator) (operand : Parser Expr) (left : Expr) : Parser (Option Expr) := do
  match ← (operatorOf operators).optional with
  | none => return none
  | some op => return some (.operation op left (← operand.commit))

def first (nested : Parser Expr) (level : Nat) : Parser Expr :=
  if level = 9 then primary nested else atLevel nested (level + 1)

def step? (nested : Parser Expr) (level : Nat) : Expr → Parser (Option Expr) :=
  if level = 9 then suffix? nested else link? (operators level) (atLevel nested (level + 1))

def steps (step? : Expr → Parser (Option Expr)) (left : Expr) : Nat → Parser Expr
  | 0 => return left
  | n + 1 => do
    match ← step? left with
    | none => return left
    | some longer => steps step? longer n

theorem steps_succ {step? : Expr → Parser (Option Expr)} {left longer : Expr} {s rest : List Char}
    (h : step? left s = .ok (some longer) rest) (n : Nat) :
    steps step? left (n + 1) s = steps step? longer n rest := by
  rw [steps, run_bind, h]
  rfl

theorem steps_stop {step? : Expr → Parser (Option Expr)} {left : Expr} {s : List Char}
    (h : step? left s = .ok none s) (n : Nat) : steps step? left n s = .ok left s := by
  cases n with
  | zero => rfl
  | succ n =>
    rw [steps, run_bind, h]
    rfl

theorem chain_eq (operators : List Operator) (operand : Parser Expr) :
    chain operators operand = steps (link? operators operand) := by
  funext left n
  induction n generalizing left with
  | zero => rfl
  | succ n ih =>
    funext s
    simp only [chain, steps, link?, run_bind]
    cases (operatorOf operators).optional s with
    | ok op rest =>
      cases op with
      | none => rfl
      | some op =>
        simp only [Outcome.ok_next, run_bind, ih]
        cases operand.commit rest <;> rfl
    | miss rest => rfl
    | fail problem rest => rfl
    | overflow => rfl

theorem suffixes_eq : suffixes nested = steps (suffix? nested) := by
  funext left n
  induction n generalizing left with
  | zero => rfl
  | succ n ih =>
    funext s
    simp only [suffixes, steps, run_bind]
    congr 1
    funext longer
    cases longer with
    | none => rfl
    | some longer => exact ih longer

theorem level_eq (operators : List Operator) (operand : Parser Expr) : level operators operand =
    operand >>= fun left => bounded (steps (link? operators operand) left) := by
  rw [level, chain_eq]

theorem member_eq :
    member nested = primary nested >>= fun left => bounded (steps (suffix? nested) left) := by
  rw [member, suffixes_eq]

theorem atLevel_chain {k : Nat} (h : Chains k) : atLevel nested k =
    first nested k >>= fun left => bounded (steps (step? nested k) left) := by
  simp only [Chains, List.mem_cons, List.not_mem_nil, or_false] at h
  rcases h with rfl | rfl | rfl | rfl | rfl | rfl
  · exact level_eq ..
  · exact level_eq ..
  · exact level_eq ..
  · exact level_eq ..
  · exact level_eq ..
  · exact member_eq

/-! ## Ends -/

theorem link?_none {k : Nat} {rest : List Char} (ends : Ends k rest) (operand : Parser Expr)
    (left : Expr) : link? (operators k) operand left rest = .ok none rest := by
  rw [link?, run_bind, (operatorOf_misses ends).optional]
  rfl

theorem suffix?_none {rest : List Char} (ends : Ends 9 rest) (left : Expr) :
    suffix? nested left rest = .ok none rest := by
  have point : Misses (symbol ".") rest := symbol_misses rfl (ends.peek_ne (by decide))
  have bracket : Misses (symbol "[" *> nested.commit <* commit (symbol "]")) rest :=
    ((symbol_misses rfl (ends.peek_ne (by decide))).bind _).bind _
  have brace : Misses (fields nested) rest :=
    (symbol_misses rfl (ends.peek_ne (by decide))).bind _
  rw [suffix?, run_bind, point.optional]
  simp only [Outcome.ok_next, run_bind, bracket.optional]
  cases left.typePath? with
  | none => rfl
  | some type =>
    simp only [run_bind, brace.optional]
    rfl

theorem step?_none {k : Nat} {rest : List Char} (ends : Ends k rest) (left : Expr) :
    step? nested k left rest = .ok none rest := by
  unfold step?
  split
  · rename_i whole
    exact suffix?_none (whole ▸ ends) left
  · exact link?_none ends _ left

/-! ## Growing -/

/-- Read by a level up to what the next higher level leaves. -/
def Grows (nested : Parser Expr) (k : Nat) (text : List Char) (e : Expr) : Prop :=
  ∀ ⦃before rest : List Char⦄, Blank before → Ends (k + 1) rest → ∃ a s m,
    first nested k (before ++ (text ++ rest)) = .ok a s ∧ m + rest.length ≤ s.length ∧
      ∀ n, steps (step? nested k) a (n + m) s = steps (step? nested k) e n rest

theorem reads_of_grows {k : Nat} (h : Chains k) {text : List Char} {e : Expr}
    (grows : Grows nested k text e) : Reads nested k text e := by
  intro before rest blank ends
  obtain ⟨a, s, m, start, room, run⟩ := grows blank (ends.mono (Nat.le_succ k))
  obtain ⟨n, hn⟩ := Nat.exists_eq_add_of_le' (Nat.le_trans (Nat.le_add_right m _) room)
  rw [atLevel_chain h, run_bind, start, Outcome.ok_next, run_bounded, hn, run,
    steps_stop (step?_none ends e)]

theorem grows_of_reads {k : Nat} (hk : k ≠ 9) {text : List Char} {e : Expr}
    (reads : Reads nested (k + 1) text e) : Grows nested k text e := by
  intro before rest blank ends
  refine ⟨e, rest, 0, ?_, Nat.le_of_eq (Nat.zero_add _), fun n => rfl⟩
  rw [first, if_neg hk]
  exact reads blank ends

/-- One more link, which takes a text in. -/
theorem Grows.link {k : Nat} {text link : List Char} {e longer : Expr} (h : Grows nested k text e)
    (nonempty : link ≠ [])
    (next : ∀ {rest}, Ends (k + 1) rest → Ends (k + 1) (link ++ rest) ∧
      step? nested k e (link ++ rest) = .ok (some longer) rest) :
    Grows nested k (text ++ link) longer := by
  intro before rest blank ends
  obtain ⟨behind, step⟩ := next ends
  obtain ⟨a, s, m, start, room, run⟩ := h blank behind
  have shorter : 0 < link.length := List.length_pos_iff.mpr nonempty
  refine ⟨a, s, m + 1, by rwa [List.append_assoc], ?_, fun n => ?_⟩
  · rw [List.length_append] at room
    omega
  · rw [show n + (m + 1) = n + 1 + m by omega, run, steps_succ step]

theorem ends_operator (op : Operator) (rest : List Char) :
    Ends (op.level + 1) (' ' :: (op.symbol.toList ++ ' ' :: rest)) := by
  have first : peek (' ' :: (op.symbol.toList ++ ' ' :: rest)) = op.symbol.toList.head? := by
    cases op <;> rfl
  obtain ⟨c, starts, pulls⟩ := exists_head_symbol op
  refine ⟨by rintro _ ⟨⟩; decide, ?_⟩
  rw [first, starts]
  rintro _ ⟨⟩
  exact Nat.lt_succ_of_le (Nat.le_of_eq pulls)

/-- One more operator and its operand. -/
theorem Grows.operator {text text' : List Char} {e e' : Expr} {op : Operator}
    (hl : Grows nested op.level text e) (hr : Reads nested (op.level + 1) text' e') :
    Grows nested op.level (text ++ ' ' :: (op.symbol.toList ++ ' ' :: text')) (.operation op e e') := by
  refine hl.link (by simp) fun {rest} ends => ?_
  have whole : ' ' :: (op.symbol.toList ++ ' ' :: text') ++ rest =
      ' ' :: (op.symbol.toList ++ ' ' :: (text' ++ rest)) := by simp
  have notMember : op.level ≠ 9 := by cases op <;> decide
  have operand : atLevel nested (op.level + 1) (' ' :: (text' ++ rest)) = .ok e' rest :=
    hr blank_space ends
  rw [whole]
  refine ⟨ends_operator op _, ?_⟩
  rw [step?, if_neg notMember, link?, run_bind, optional_ok (operatorOf_spaced op _)]
  simp only [Outcome.ok_next, run_bind, commit_ok operand]
  rfl

end ClusterPolicy.Cel.Parser
