import ClusterPolicy.Proofs.Cel.Operands

namespace ClusterPolicy.Cel.Parser

variable {nested : Parser Expr}

/-! ## Signs -/

section
variable {p : Parser Unit} {s rest : List Char}

theorem countUpTo_none (h : Misses p s) (n : Nat) : countUpTo p n s = .ok 0 s := by
  cases n with
  | zero => rfl
  | succ n =>
    rw [countUpTo, run_bind, h.optional]
    rfl

/-- A sign as often as there are gaps, each in front of one. -/
def signs (sign : Char) (gaps : List Gap) : List Char := gaps.flatMap fun gap => gap.val ++ [sign]

theorem signs_cons (sign : Char) (gap : Gap) (gaps : List Gap) (rest : List Char) :
    signs sign (gap :: gaps) ++ rest = gap.val ++ sign :: (signs sign gaps ++ rest) := by
  simp [signs]

theorem countUpTo_signs {sign : String} {c : Char} {n : Nat} (single : sign.toList = [c])
    (shown : visible c = true) (last : Misses (symbol sign) rest) (gaps : List Gap)
    (room : gaps.length ≤ n) :
    countUpTo (symbol sign) n (signs c gaps ++ rest) = .ok gaps.length rest := by
  induction gaps generalizing n with
  | nil => exact countUpTo_none last n
  | cons gap gaps ih =>
    obtain ⟨n, rfl⟩ := Nat.exists_eq_add_of_le' room
    have read : symbol sign (gap.val ++ c :: (signs c gaps ++ rest)) = .ok () (signs c gaps ++ rest) :=
      symbol_cons single gap.property shown _
    have behind : countUpTo (symbol sign) (n + gaps.length) (signs c gaps ++ rest) = .ok gaps.length rest :=
      ih (Nat.le_add_left ..)
    rw [signs_cons, List.length_cons, ← Nat.add_assoc, countUpTo, run_bind, optional_ok read]
    simp only [Outcome.ok_next, run_map, behind, run_pure]

theorem length_le_signs (sign : Char) (gaps : List Gap) : gaps.length ≤ (signs sign gaps).length := by
  induction gaps with
  | nil => exact Nat.le_refl 0
  | cons gap gaps ih =>
    have step : signs sign (gap :: gaps) = gap.val ++ sign :: signs sign gaps := by simp [signs]
    rw [step, List.length_append, List.length_cons, List.length_cons]
    omega

theorem count_signs {sign : String} {c : Char} (single : sign.toList = [c]) (shown : visible c = true)
    (last : Misses (symbol sign) rest) (gaps : List Gap) :
    count (symbol sign) (signs c gaps ++ rest) = .ok gaps.length rest := by
  refine countUpTo_signs single shown last gaps ?_
  rw [List.length_append]
  exact (length_le_signs c gaps).trans (Nat.le_add_right ..)

end

/-- Whether an expression of this level may start as the text does. -/
def Leads (level : Nat) (text : List Char) : Prop :=
  ∃ c more, text = c :: more ∧ visible c = true ∧ (7 < level → c ≠ '!' ∧ c ≠ '-')

section
variable {j k : Nat} {text before rest : List Char} {e : Expr}

theorem Leads.mono (h : j ≤ k) (leads : Leads k text) : Leads j text := by
  obtain ⟨c, more, shape, shown, unsigned⟩ := leads
  exact ⟨c, more, shape, shown, fun less => unsigned (Nat.lt_of_lt_of_le less h)⟩

theorem Leads.append (leads : Leads k text) (behind : List Char) : Leads k (text ++ behind) := by
  obtain ⟨c, more, rfl, shown, unsigned⟩ := leads
  exact ⟨c, more ++ behind, rfl, shown, unsigned⟩

theorem unary_signs (notNot : Misses (symbol "!") rest) (notMinus : Misses (symbol "-") rest)
    (gaps : List Gap) : unary nested (signs '-' gaps ++ rest) = negated nested gaps.length rest := by
  have noNot : Misses (symbol "!") (signs '-' gaps ++ rest) := by
    cases gaps with
    | nil => exact notNot
    | cons gap gaps =>
      rw [signs_cons]
      exact symbol_other (d := '!') rfl gap.property (by decide) (by decide) _
  have minus : count (symbol "-") (signs '-' gaps ++ rest) = .ok gaps.length rest :=
    count_signs rfl (by decide) notMinus gaps
  rw [unary, run_bind, count, run_bounded, countUpTo_none noNot]
  simp only [Outcome.ok_next, run_ite, run_bind, minus]
  rfl

theorem unary_of_unsigned (notNot : Misses (symbol "!") rest) (notMinus : Misses (symbol "-") rest) :
    unary nested rest = member nested rest :=
  unary_signs notNot notMinus []

theorem reads_unary (leads : Leads 8 text) (reads : Reads nested 8 text e) : Reads nested 7 text e := by
  intro before rest blank ends
  obtain ⟨c, more, rfl, shown, unsigned⟩ := leads
  obtain ⟨notNot, notMinus⟩ := unsigned (by decide)
  have read : member nested (before ++ (c :: more ++ rest)) = .ok e rest :=
    reads blank (ends.mono (by decide))
  exact (unary_of_unsigned (symbol_other (d := '!') rfl blank shown notNot _)
    (symbol_other (d := '-') rfl blank shown notMinus _)).trans read

theorem Leads.no_sign (leads : Leads 8 text) (rest : List Char) :
    Misses (symbol "!") (text ++ rest) ∧ Misses (symbol "-") (text ++ rest) := by
  obtain ⟨c, more, rfl, shown, unsigned⟩ := leads
  obtain ⟨notNot, notMinus⟩ := unsigned (by decide)
  exact ⟨symbol_other (d := '!') rfl blank_nil shown notNot _,
    symbol_other (d := '-') rfl blank_nil shown notMinus _⟩

theorem reads_not (leads : Leads 8 text) (reads : Reads nested 8 text e) :
    Reads nested 7 ('!' :: text) (.call "!_" [e]) := by
  intro before rest blank ends
  have operand : member nested (text ++ rest) = .ok e rest :=
    reads blank_nil (ends.mono (by decide))
  have sign : count (symbol "!") (before ++ ('!' :: text ++ rest)) = .ok 1 (text ++ rest) := by
    have one := count_signs rfl (by decide) (leads.no_sign rest).1 [⟨before, blank⟩]
    rwa [signs_cons] at one
  change unary nested _ = _
  rw [unary, run_bind, sign]
  simp only [Outcome.ok_next, run_ite, run_bind, commit_ok operand]
  rfl

theorem unary_minus (blank : Blank before) (notNot : Misses (symbol "!") rest)
    (notMinus : Misses (symbol "-") rest) : unary nested (before ++ '-' :: rest) = negated nested 1 rest := by
  have one : unary nested (signs '-' [⟨before, blank⟩] ++ rest) = negated nested 1 rest :=
    unary_signs notNot notMinus [⟨before, blank⟩]
  rwa [signs_cons] at one

/-- Behind a minus stands no number. -/
theorem reads_negate {f : Expr} (leads : Leads 8 text) (reads : Reads nested 8 text e)
    (notNumber : ∀ c ∈ text.head?, Text.isDigit 10 c = false) (negates : e.negate? = some f) :
    Reads nested 7 ('-' :: text) f := by
  intro before rest blank ends
  have operand : member nested (text ++ rest) = .ok e rest :=
    reads blank_nil (ends.mono (by decide))
  have noNumber : Misses negatedInteger (text ++ rest) := by
    obtain ⟨c, more, rfl, shown, -⟩ := leads
    exact negatedInteger_misses blank_nil shown (notNumber c rfl) (more ++ rest)
  change unary nested (before ++ '-' :: (text ++ rest)) = _
  obtain ⟨notNot, notMinus⟩ := leads.no_sign rest
  rw [unary_minus blank notNot notMinus]
  simp only [negated, run_ite, run_bind, noNumber.optional]
  simp only [Outcome.ok_next, run_bind, commit_ok operand, negates]
  rfl

/-- Digits start with no sign. -/
theorem Magnitude.leads (m : Magnitude) : Leads 8 m.text := by
  obtain ⟨d, more, shape, digit⟩ := m.exists_head
  obtain ⟨shown, -, unsigned⟩ := visible_of_start (.inl (identPart_of_isDigit digit))
  exact ⟨d, more, shape, shown, fun _ => unsigned⟩

/-- A minus and the digits behind it are one literal. -/
theorem reads_negative {n : Nat} {v : Int64} (value : Number.long? (-n) = some v) :
    Reads nested 7 ('-' :: Literal.decimal n) (.literal (.int v)) := by
  intro before rest blank ends
  have ends' : Ends 9 rest := ends.mono (by decide)
  have number : negatedInteger (Literal.decimal n ++ rest) = .ok (.int v) rest := by
    have read := negatedInteger_text (.ofNat n) blank_nil (undigited_of_ends ends')
      fun c hc => ⟨ends'.part_ne rfl hc, ends'.part_ne rfl hc⟩
    rwa [show Number.long? (-(Magnitude.ofNat n).value) = some v from value] at read
  have leads : Leads 8 (Literal.decimal n) := Magnitude.leads (.ofNat n)
  obtain ⟨notNot, notMinus⟩ := leads.no_sign rest
  change unary nested (before ++ '-' :: (Literal.decimal n ++ rest)) = _
  rw [unary_minus blank notNot notMinus]
  simp only [negated, run_ite, run_bind, optional_ok number]
  rfl

/-! ## Choices -/

theorem reads_conditional (reads : Reads nested 2 text e) : Reads nested 1 text e := by
  intro before rest blank ends
  have read : disjunction nested (before ++ (text ++ rest)) = .ok e rest :=
    reads blank (ends.mono (by decide))
  have noChoice : Misses (symbol "?") rest := symbol_misses rfl (ends.peek_ne (by decide))
  change conditional nested _ = _
  rw [conditional, run_bind, read]
  simp only [Outcome.ok_next, run_bind, noChoice.optional]
  rfl

theorem reads_choice {yes no : List Char} {ey en : Expr} (hc : Reads nested 2 text e)
    (hy : Reads nested 2 yes ey) (hn : Takes nested 1 no en) :
    Reads nested 1 (text ++ ' ' :: '?' :: ' ' :: (yes ++ ' ' :: ':' :: ' ' :: no))
      (.call "_?_:_" [e, ey, en]) := by
  intro before rest blank ends
  have whole : text ++ ' ' :: '?' :: ' ' :: (yes ++ ' ' :: ':' :: ' ' :: no) ++ rest =
      text ++ ' ' :: '?' :: ' ' :: (yes ++ ' ' :: ':' :: ' ' :: (no ++ rest)) := by simp
  have asked : disjunction nested
      (before ++ (text ++ ' ' :: '?' :: ' ' :: (yes ++ ' ' :: ':' :: ' ' :: (no ++ rest)))) =
      .ok e (' ' :: '?' :: ' ' :: (yes ++ ' ' :: ':' :: ' ' :: (no ++ rest))) :=
    hc blank (ends_space (by decide) (by decide) _)
  have question : symbol "?" (' ' :: '?' :: ' ' :: (yes ++ ' ' :: ':' :: ' ' :: (no ++ rest))) =
      .ok () (' ' :: (yes ++ ' ' :: ':' :: ' ' :: (no ++ rest))) :=
    symbol_cons rfl blank_space (by decide) _
  have first : disjunction nested (' ' :: (yes ++ ' ' :: ':' :: ' ' :: (no ++ rest))) =
      .ok ey (' ' :: ':' :: ' ' :: (no ++ rest)) :=
    hy blank_space (ends_space (by decide) (by decide) _)
  have colon : symbol ":" (' ' :: ':' :: ' ' :: (no ++ rest)) = .ok () (' ' :: (no ++ rest)) :=
    symbol_cons rfl blank_space (by decide) _
  have second : nested (' ' :: (no ++ rest)) = .ok en rest := hn blank_space ends
  change conditional nested _ = _
  rw [whole, conditional, run_bind, asked]
  simp only [Outcome.ok_next, run_bind, optional_ok question, commit_ok first, commit_ok colon,
    commit_ok second]
  rfl

/-- An expression starts with no closing bracket. -/
theorem closes_conditional (nested : Parser Expr) : Closes (conditional nested) := by
  intro c s h
  have shown : visible c = true ∧ c ≠ '!' ∧ c ≠ '-' := by
    simp only [isClosing, Bool.or_eq_true, decide_eq_true_eq] at h
    rcases h with (rfl | rfl) | rfl <;> decide
  obtain ⟨shown, notNot, notMinus⟩ := shown
  have unsigned : unary nested (c :: s) = member nested (c :: s) :=
    unary_of_unsigned (symbol_other (d := '!') rfl blank_nil shown notNot s)
      (symbol_other (d := '-') rfl blank_nil shown notMinus s)
  have operand : Misses (member nested) (c :: s) := (primary_closing h s).bind _
  have signed : Misses (unary nested) (c :: s) := by
    obtain ⟨rest, missed⟩ := operand
    exact ⟨rest, unsigned.trans missed⟩
  have chained : Misses (disjunction nested) (c :: s) :=
    ((((signed.bind _).bind _).bind _).bind _).bind _
  exact chained.bind _

end

/-! ## Standing at a level -/

/-- What holds of the text of an expression of a level. -/
structure Stands (nested : Parser Expr) (level : Nat) (text : List Char) (e : Expr) : Prop where
  leads : Leads level text
  reads : Reads nested level text e
  grows : Chains level → Grows nested level text e

namespace Stands

variable {j k : Nat} {text : List Char} {e : Expr}

theorem chain (h : Chains k) (leads : Leads k text) (grows : Grows nested k text e) :
    Stands nested k text e :=
  ⟨leads, reads_of_grows h grows, fun _ => grows⟩

theorem plain (h : ¬Chains k) (leads : Leads k text) (reads : Reads nested k text e) :
    Stands nested k text e :=
  ⟨leads, reads, fun chains => absurd chains h⟩

theorem parenthesized (inside : Takes nested 1 text e) :
    Stands nested 9 ('(' :: (text ++ [')'])) e :=
  chain (by decide) ⟨_, _, rfl, by decide, fun _ => by decide⟩
    (grows_of_primary (takes_parenthesized inside))

/-- An expression may stand wherever one of the level below may. -/
theorem below (h : Stands nested (k + 1) text e) (positive : 0 < k) (hk : k < 9) :
    Stands nested k text e := by
  have leads : Leads k text := h.leads.mono (Nat.le_succ k)
  by_cases chains : Chains k
  · exact chain chains leads (grows_of_reads (by omega) h.reads)
  · refine ⟨leads, ?_, fun c => absurd c chains⟩
    match k with
    | 1 => exact reads_conditional h.reads
    | 7 => exact reads_unary h.leads h.reads
    | 8 => exact h.reads.mono (by decide)
    | 2 | 3 | 4 | 5 | 6 => exact absurd (by decide) chains

theorem mono (h : Stands nested k text e) (positive : 0 < j) (le : j ≤ k) (hk : k ≤ 9) :
    Stands nested j text e := by
  induction k with
  | zero => omega
  | succ k ih =>
    rcases Nat.lt_or_eq_of_le le with less | rfl
    · exact ih (h.below (by omega) (by omega)) (by omega) (by omega)
    · exact h

end Stands

/-! ## Sources -/

/-- A source is an expression that only blanks follow. -/
theorem parse_of_expression {source : String} {e : Expr} {after : List Char}
    (read : expression maxDepth source.toList = .ok e after) (nothing : skipBlanks false after = []) :
    parse source = .ok e := by
  have whole : (expression maxDepth <* blanks) source.toList = .ok e [] := by
    simp only [run_seqLeft, read, Outcome.ok_next, run_bind, blanks, nothing, run_pure]
  simp only [parse, whole]

end ClusterPolicy.Cel.Parser
