import ClusterPolicy.Proofs.Cedar.Operands

namespace ClusterPolicy.Cedar

/-- The levels below this have expressions that start with the token; a closing symbol starts none. -/
def Token.leads (t : Token) : Nat :=
  if t = .symbol .parenClose ∨ t = .symbol .bracketClose ∨ t = .symbol .braceClose then 0
  else if t = .word "if" then 1
  else if t = .symbol .not ∨ t = .symbol .minus then 7
  else 8

namespace Parser

variable {nested : Parser Expr}

/-! ## Signs -/

theorem countSymbol_none {s : Symbol} {ts : List Token} (h : ∀ t ∈ ts.head?, t ≠ .symbol s)
    (n : Nat) : countSymbol s n ts = some (0, ts) := by
  cases n with
  | zero => rfl
  | succ n => simp [countSymbol, accept_other h]

/-- No symbol of this kind comes next. -/
theorem count_none {s : Symbol} {ts : List Token} (h : ∀ t ∈ ts.head?, t ≠ .symbol s) :
    bounded (countSymbol s) ts = some (0, ts) := countSymbol_none h _

theorem count_one {s : Symbol} {ts : List Token} (h : ∀ t ∈ ts.head?, t ≠ .symbol s) :
    bounded (countSymbol s) (.symbol s :: ts) = some (1, ts) := by
  simp [countSymbol, countSymbol_none h]

/-- Whether an expression of this level may start as the tokens do. -/
def Leads (level : Nat) (ts : List Token) : Prop := ∃ t more, ts = t :: more ∧ level < t.leads

theorem Leads.mono {j k : Nat} (h : j ≤ k) {ts : List Token} (leads : Leads k ts) : Leads j ts := by
  obtain ⟨t, more, ht, le⟩ := leads
  exact ⟨t, more, ht, by omega⟩

theorem Leads.append {k : Nat} {ts : List Token} (leads : Leads k ts) (rest : List Token) :
    Leads k (ts ++ rest) := by
  obtain ⟨t, more, rfl, le⟩ := leads
  exact ⟨t, more ++ rest, rfl, le⟩

/-- A first token that is no sign. -/
theorem Leads.no_sign {ts : List Token} (h : Leads 7 ts) (rest : List Token) {s : Symbol}
    (sign : s = .not ∨ s = .minus) : ∀ t ∈ (ts ++ rest).head?, t ≠ .symbol s := by
  obtain ⟨t, more, rfl, leads⟩ := h
  rintro _ ⟨⟩ rfl
  rcases sign with rfl | rfl <;> simp [Token.leads, Token.word] at leads

theorem unary_of_member {ts : List Token} (h : Leads 7 ts) (rest : List Token) :
    unary nested (ts ++ rest) = member nested (ts ++ rest) := by
  simp only [unary, run_bind, count_none (h.no_sign rest (.inl rfl)), Option.bind_some, ↓reduceIte,
    count_none (h.no_sign rest (.inr rfl))]

theorem reads_unary {ts : List Token} {e : Expr} (h : Leads 7 ts) (reads : Reads nested 7 ts e) :
    Reads nested 6 ts e := by
  intro rest ends
  exact (unary_of_member h rest).trans (reads rest (ends.mono (by omega)))

theorem reads_not {ts : List Token} {e : Expr} (h : Leads 7 ts) (reads : Reads nested 7 ts e) :
    Reads nested 6 (.symbol .not :: ts) (.not e) := by
  intro rest ends
  have operand : member nested (ts ++ rest) = some (e, rest) := reads rest (ends.mono (by omega))
  simp only [atLevel, List.cons_append, unary, run_bind, count_one (h.no_sign rest (.inl rfl)),
    Option.bind_some, run_ite, operand]
  rfl

/-- The operand of a minus is read whole unless it is a number alone. -/
def NotNumber (ts : List Token) : Prop :=
  ∀ n more, ts = .number n :: more → ∃ t ∈ more.head?, t = .symbol .point ∨ t = .symbol .bracketOpen

theorem negated_of_member {ts rest : List Token} {e : Expr} (h : NotNumber ts)
    (nonempty : ts ≠ []) (operand : member nested (ts ++ rest) = some (e, rest)) :
    negated nested (ts ++ rest) = some (.neg e, rest) := by
  have whole : (member nested).map Expr.neg (ts ++ rest) = some (.neg e, rest) := by
    change (member nested (ts ++ rest)).bind _ = _
    rw [operand]
    rfl
  rw [← whole]
  unfold negated
  split
  · rename_i n more hn
    obtain ⟨t, behind, rfl⟩ := List.exists_cons_of_ne_nil nonempty
    simp only [List.cons_append, List.cons.injEq] at hn
    obtain ⟨rfl, rfl⟩ := hn
    obtain ⟨s, hs, suffix⟩ := h n behind rfl
    cases behind with
    | nil => simp at hs
    | cons u behind =>
      cases hs
      rcases suffix with rfl | rfl <;> rfl
  · rfl

theorem reads_neg {ts : List Token} {e : Expr} (h : Leads 7 ts) (whole : NotNumber ts)
    (reads : Reads nested 7 ts e) : Reads nested 6 (.symbol .minus :: ts) (.neg e) := by
  intro rest ends
  have nonempty : ts ≠ [] := by
    obtain ⟨t, more, rfl, -⟩ := h
    simp
  have operand := negated_of_member whole nonempty (reads rest (ends.mono (by omega)))
  have minus : ∀ t ∈ (Token.symbol .minus :: (ts ++ rest)).head?, t ≠ .symbol .not := by
    rintro _ ⟨⟩
    simp
  simp only [atLevel, List.cons_append, unary, run_bind, count_none minus,
    count_one (h.no_sign rest (.inr rfl)), Option.bind_some, run_ite, operand]
  rfl

theorem negated_number {n : Nat} {v : Int64} (h : Number.long? (-n) = some v) {rest : List Token}
    (ends : Ends 6 rest) : negated nested (.number n :: rest) = some (.long v, rest) := by
  unfold negated
  split
  · rename_i n' rest' hn
    simp only [List.cons.injEq, Token.number.injEq] at hn
    obtain ⟨rfl, rfl⟩ := hn
    split
    · simpa [Token.pull] using ends _ rfl
    · simpa [Token.pull] using ends _ rfl
    · simpa [Token.pull] using ends _ rfl
    · simp [h]
  · rename_i notNumber
    exact absurd rfl (notNumber n rest)

/-- A minus and the number behind it are one literal. -/
theorem reads_negative {n : Nat} {v : Int64} (h : Number.long? (-n) = some v) :
    Reads nested 6 [.symbol .minus, .number n] (.long v) := by
  intro rest ends
  have operand : negated nested (.number n :: rest) = _ := negated_number h ends
  have minus : ∀ t ∈ (Token.symbol .minus :: .number n :: rest).head?, t ≠ .symbol .not := by
    rintro _ ⟨⟩
    simp
  have number : ∀ t ∈ (Token.number n :: rest).head?, t ≠ .symbol .minus := by
    rintro _ ⟨⟩
    simp
  simp only [atLevel, List.cons_append, List.nil_append, unary, run_bind, count_none minus,
    count_one number, Option.bind_some, run_ite, operand]
  rfl

/-! ## Relations -/

theorem pull_of_comparison? {t : Token} {op : Operator} (h : comparison? t = some op) :
    t.pull = 3 := by
  unfold comparison? at h
  split at h
  all_goals first
    | rfl
    | (split at h <;> simp_all [Token.pull, Token.word])

theorem reads_relation {ts : List Token} {e : Expr} (reads : Reads nested 4 ts e) :
    Reads nested 3 ts e := by
  intro rest ends
  have left : sum nested (ts ++ rest) = some (e, rest) := reads rest (ends.mono (by omega))
  cases rest with
  | nil =>
    simp only [atLevel, relation, run_bind, left, Option.bind_some, peek_eq, List.head?_nil, run_pure]
  | cons t rest =>
    have word (s : String) (hs : (Token.word s).pull = 3) : accept (.word s) (t :: rest) =
        some (false, t :: rest) := by
      apply accept_other
      rintro _ ⟨⟩ rfl
      have := ends _ rfl
      omega
    have notCompared : comparison? t = none := by
      cases hc : comparison? t with
      | none => rfl
      | some op =>
        have pull := pull_of_comparison? hc
        have := ends _ rfl
        omega
    simp [atLevel, relation, left, notCompared, word "has" rfl, word "like" rfl, word "is" rfl]

theorem reads_comparison {ts ts' : List Token} {t : Token} {op : Operator} {e e' : Expr}
    (hl : Reads nested 4 ts e) (ht : comparison? t = some op) (hr : Reads nested 4 ts' e') :
    Reads nested 3 (ts ++ t :: ts') (.binary op e e') := by
  intro rest ends
  have pull := pull_of_comparison? ht
  have behind : Ends 4 (t :: (ts' ++ rest)) := by
    rintro _ ⟨⟩
    omega
  have left : sum nested (ts ++ t :: (ts' ++ rest)) = some (e, t :: (ts' ++ rest)) := hl _ behind
  have right : sum nested (ts' ++ rest) = some (e', rest) := hr rest (ends.mono (by omega))
  simp [atLevel, relation, left, ht, right]

/-- The left operand of a test, up to the word of the test. -/
theorem sum_before_word {ts : List Token} {e : Expr} (hl : Reads nested 4 ts e) (word : String)
    (pull : (Token.word word).pull = 3) (rest : List Token) :
    sum nested (ts ++ .word word :: rest) = some (e, .word word :: rest) := by
  apply hl
  rintro _ ⟨⟩
  omega

theorem reads_has {ts : List Token} {t : Token} {e : Expr} {name : String}
    (hl : Reads nested 4 ts e) (ht : ∀ rest, attr (t :: rest) = some (name, rest)) :
    Reads nested 3 (ts ++ [.word "has", t]) (.has e name) := by
  intro rest ends
  have left := sum_before_word hl "has" rfl (t :: rest)
  simp [atLevel, relation, left, show comparison? (.word "has") = none from rfl, ht]

theorem reads_like {ts : List Token} {t : Token} {e : Expr} {elems : List PatternElem}
    (hl : Reads nested 4 ts e) (ht : ∀ rest, pattern (t :: rest) = some (elems, rest)) :
    Reads nested 3 (ts ++ [.word "like", t]) (.like e elems) := by
  intro rest ends
  have left := sum_before_word hl "like" rfl (t :: rest)
  have notHas : accept (.word "has") (.word "like" :: t :: rest) = _ :=
    accept_other (by rintro _ ⟨⟩; decide)
  simp [atLevel, relation, left, show comparison? (.word "like") = none from rfl, notHas, ht]

theorem reads_is {ts : List Token} {e : Expr} {type : String} (hl : Reads nested 4 ts e)
    (h : isName type = true) : Reads nested 3 (ts ++ .word "is" :: Token.ofName type) (.is e type) := by
  intro rest ends
  have left := sum_before_word hl "is" rfl (Token.ofName type ++ rest)
  have notHas : accept (.word "has") (.word "is" :: (Token.ofName type ++ rest)) = _ :=
    accept_other (by rintro _ ⟨⟩; decide)
  have notLike : accept (.word "like") (.word "is" :: (Token.ofName type ++ rest)) = _ :=
    accept_other (by rintro _ ⟨⟩; decide)
  have noPath : NoPath rest := by
    rintro t ht rfl
    simpa [Token.pull] using ends _ ht
  simp [atLevel, relation, left, show comparison? (.word "is") = none from rfl, notHas, notLike,
    name_ofName h noPath]

/-! ## Choices -/

theorem reads_expr {ts : List Token} {e : Expr} (h : Leads 1 ts) (reads : Reads nested 1 ts e) :
    Reads nested 0 ts e := by
  intro rest ends
  obtain ⟨t, more, rfl, leads⟩ := h
  have notIf : accept (.word "if") (t :: (more ++ rest)) = some (false, t :: (more ++ rest)) := by
    apply accept_other
    rintro _ ⟨⟩ rfl
    exact absurd leads (by decide)
  have read : disjunction nested (t :: more ++ rest) = some (e, rest) :=
    reads rest (ends.mono (by omega))
  simp only [List.cons_append] at read
  simp [atLevel, exprWith, notIf, read]

theorem reads_ite {cs as bs : List Token} {c a b : Expr}
    (hc : ∀ rest, Ends 0 rest → nested (cs ++ rest) = some (c, rest))
    (ha : ∀ rest, Ends 0 rest → nested (as ++ rest) = some (a, rest))
    (hb : ∀ rest, Ends 0 rest → nested (bs ++ rest) = some (b, rest)) :
    Reads nested 0 (.word "if" :: cs ++ .word "then" :: as ++ .word "else" :: bs) (.ite c a b) := by
  intro rest ends
  have word (s : String) (hs : (Token.word s).pull = 0) (rest : List Token) :
      Ends 0 (.word s :: rest) := by
    rintro _ ⟨⟩
    exact .inl hs
  simp [atLevel, exprWith, hc _ (word "then" rfl _), ha _ (word "else" rfl _), hb _ ends]

/-! ## Standing at a level -/

/-- What holds of the tokens of an expression of a level. -/
structure Stands (nested : Parser Expr) (level : Nat) (ts : List Token) (e : Expr) : Prop where
  leads : Leads level ts
  reads : Reads nested level ts e
  grows : Chains level → Grows nested level ts e

namespace Stands

theorem chain {k : Nat} (h : Chains k) {ts : List Token} {e : Expr} (leads : Leads k ts)
    (grows : Grows nested k ts e) : Stands nested k ts e :=
  ⟨leads, reads_of_grows h grows, fun _ => grows⟩

theorem plain {k : Nat} (h : ¬Chains k) {ts : List Token} {e : Expr} (leads : Leads k ts)
    (reads : Reads nested k ts e) : Stands nested k ts e :=
  ⟨leads, reads, fun chains => absurd chains h⟩

theorem operand {t : Token} {ts : List Token} {e : Expr} (leads : 7 < t.leads)
    (read : ∀ rest, Ends 8 rest → primary nested (t :: (ts ++ rest)) = some (e, rest)) :
    Stands nested 7 (t :: ts) e := by
  refine chain (by decide) ⟨t, ts, rfl, leads⟩ fun rest ends => ⟨(e, rest), ?_, .refl⟩
  simpa [first] using read rest ends

theorem paren {ts : List Token} {e : Expr}
    (inside : ∀ rest, Ends 0 rest → nested (ts ++ rest) = some (e, rest)) :
    Stands nested 7 (.symbol .parenOpen :: (ts ++ [.symbol .parenClose])) e :=
  operand (by decide) fun rest _ => by simpa using primary_paren inside rest

/-- An expression may stand wherever one of the level below may. -/
theorem below {k : Nat} {ts : List Token} {e : Expr} (h : Stands nested (k + 1) ts e) (hk : k < 7) :
    Stands nested k ts e := by
  have leads : Leads k ts := h.leads.mono (Nat.le_succ k)
  by_cases chains : Chains k
  · exact chain chains leads (grows_of_reads (by omega) h.reads)
  · refine ⟨leads, ?_, fun c => absurd c chains⟩
    match k with
    | 0 => exact reads_expr h.leads h.reads
    | 3 => exact reads_relation h.reads
    | 6 => exact reads_unary h.leads h.reads
    | 1 | 2 | 4 | 5 => exact absurd (by decide) chains

theorem mono {j k : Nat} {ts : List Token} {e : Expr} (h : Stands nested k ts e) (le : j ≤ k)
    (hk : k ≤ 7) : Stands nested j ts e := by
  induction k with
  | zero => exact Nat.le_zero.mp le ▸ h
  | succ k ih =>
    rcases Nat.lt_or_eq_of_le le with less | rfl
    · exact ih (h.below (by omega)) (by omega) (by omega)
    · exact h

end Stands

end Parser

end ClusterPolicy.Cedar
