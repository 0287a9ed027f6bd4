import ClusterPolicy.Proofs.Cel.Levels
import ClusterPolicy.Proofs.Text.Utf8
import Mathlib.Algebra.Ring.Int.Parity

namespace ClusterPolicy.Cel

/-- The digits of an integer behind minus signs, with blanks and parentheses anywhere. -/
inductive Numeral
  | digits (gaps : List Parser.Gap) (before : Parser.Gap) (magnitude : Magnitude)
  | parens (gaps : List Parser.Gap) (before : Parser.Gap) (inside : Numeral) (after : Parser.Gap)

namespace Numeral

/-- The text in front of the digits. -/
def lead : Numeral → List Char
  | digits gaps before _ => Parser.signs '-' gaps ++ before
  | parens gaps before inside _ => Parser.signs '-' gaps ++ (before ++ '(' :: inside.lead)

/-- The text from the digits on. -/
def tail : Numeral → List Char
  | digits _ _ magnitude => magnitude.text
  | parens _ _ inside after => inside.tail ++ (after ++ [')'])

def text (t : Numeral) : List Char := t.lead ++ t.tail

def depth : Numeral → Nat
  | digits .. => 0
  | parens _ _ inside _ => inside.depth + 1

def magnitude : Numeral → Nat
  | digits _ _ magnitude => magnitude.value
  | parens _ _ inside _ => inside.magnitude

/-- How many signs there are. -/
def signCount : Numeral → Nat
  | digits gaps .. => gaps.length
  | parens gaps _ inside _ => gaps.length + inside.signCount

/-- How many signs stand directly in front of the digits. -/
def directCount : Numeral → Nat
  | digits gaps .. => gaps.length
  | parens _ _ inside _ => inside.directCount

def value (t : Numeral) : Int := (-1) ^ t.signCount * t.magnitude

/-- The number that the digits make with the signs directly in front of them. -/
def direct (t : Numeral) : Int := (-1) ^ t.directCount * t.magnitude

def Fits (t : Numeral) : Prop := -2 ^ 63 ≤ t.direct ∧ t.direct < 2 ^ 63

instance (t : Numeral) : Decidable t.Fits := inferInstanceAs (Decidable (_ ∧ _))

/-- Somewhere an odd number of signs stands in front of the least number of 64 bits in parentheses. -/
def overflows : Numeral → Bool
  | digits .. => false
  | parens gaps _ inside _ => inside.overflows || gaps.length % 2 == 1 && inside.value == -2 ^ 63

/-- What is read of a numeral in front of `rest`. -/
def outcome (t : Numeral) (rest : List Char) : Outcome Expr :=
  if t.Fits then
    if t.overflows then .overflow else .ok (.literal (.int (.ofInt t.value))) rest
  else .fail .integerRange (t.tail ++ rest)

theorem value_parens (gaps : List Parser.Gap) (before : Parser.Gap) (inside : Numeral)
    (after : Parser.Gap) :
    (parens gaps before inside after).value = (-1) ^ gaps.length * inside.value := by
  simp only [value, signCount, magnitude, pow_add, mul_assoc]

theorem neg_one_pow_even {n : Nat} (even : n % 2 = 0) : (-1 : Int) ^ n = 1 :=
  Even.neg_one_pow (Nat.even_iff.mpr even)

theorem neg_one_pow_odd {n : Nat} (odd : n % 2 = 1) : (-1 : Int) ^ n = -1 :=
  Odd.neg_one_pow (Nat.odd_iff.mpr odd)

theorem overflows_parens_even {gaps : List Parser.Gap} (even : gaps.length % 2 = 0)
    (before : Parser.Gap) (inside : Numeral) (after : Parser.Gap) :
    (parens gaps before inside after).overflows = inside.overflows := by
  simp [overflows, even]

theorem overflows_parens_odd {gaps : List Parser.Gap} (odd : gaps.length % 2 = 1)
    (before : Parser.Gap) (inside : Numeral) (after : Parser.Gap) :
    (parens gaps before inside after).overflows = (inside.overflows || inside.value == -2 ^ 63) := by
  simp [overflows, odd]

/-- By induction on the parentheses: only the least number has a negative that is out of range. -/
theorem value_mem_range {t : Numeral} (fits : t.Fits) (exact : t.overflows = false) :
    -2 ^ 63 ≤ t.value ∧ t.value < 2 ^ 63 := by
  induction t with
  | digits gaps before magnitude => exact fits
  | parens gaps before inside after ih =>
    rw [value_parens]
    rcases Nat.mod_two_eq_zero_or_one gaps.length with even | odd
    · rw [overflows_parens_even even] at exact
      rw [neg_one_pow_even even, one_mul]
      exact ih fits exact
    · rw [overflows_parens_odd odd, Bool.or_eq_false_iff, beq_eq_false_iff_ne] at exact
      obtain ⟨low, high⟩ := ih fits exact.1
      rw [neg_one_pow_odd odd, neg_one_mul]
      have other := exact.2
      omega

theorem toInt_ofInt_value {t : Numeral} (fits : t.Fits) (exact : t.overflows = false) :
    (Int64.ofInt t.value).toInt = t.value := by
  obtain ⟨low, high⟩ := value_mem_range fits exact
  exact Int64.toInt_ofInt_of_le (by omega) (by omega)

theorem length_directCount_le (t : Numeral) : t.directCount ≤ t.signCount := by
  induction t with
  | digits => exact Nat.le_refl _
  | parens gaps before inside after ih => exact Nat.le_trans ih (Nat.le_add_left _ _)

/-- Without a sign in front of parentheses nothing overflows. -/
theorem overflows_eq_false {t : Numeral} (allDirect : t.signCount = t.directCount) :
    t.overflows = false := by
  induction t with
  | digits => rfl
  | parens gaps before inside after ih =>
    have less := inside.length_directCount_le
    simp only [signCount, directCount] at allDirect
    have none : gaps.length = 0 := by omega
    rw [overflows_parens_even (by omega)]
    exact ih (by omega)

end Numeral

/-! ## Levels -/

/-- Whether an outcome is left as it is by every level from `k` on. -/
def Outcome.Settled {α : Type} (k : Nat) : Outcome α → Prop
  | .ok _ rest => Parser.Ends k rest
  | .miss _ => False
  | .fail .. | .overflow => True

namespace Parser

variable {nested operand : Parser Expr} {j k : Nat} {s before rest : List Char} {o : Outcome Expr}

theorem settled_mono (h : j ≤ k) (settled : o.Settled j) : o.Settled k := by
  cases o with
  | ok e rest => exact Ends.mono h settled
  | miss => exact settled
  | fail | overflow => trivial

theorem commit_settled (read : operand s = o) (settled : o.Settled k) : operand.commit s = o := by
  rw [commit, read]
  cases o with
  | ok => rfl
  | miss => exact settled.elim
  | fail | overflow => rfl

theorem level_settled (read : operand s = o) (settled : o.Settled k) : level (operators k) operand s = o := by
  rw [level_eq, run_bind, read]
  cases o with
  | ok e rest => exact steps_stop (link?_none settled operand e) _
  | miss | fail | overflow => rfl

theorem conditional_settled (read : unary nested s = o) (settled : o.Settled 1) :
    conditional nested s = o := by
  have product : product nested s = o := level_settled read (settled_mono (k := 6) (by decide) settled)
  have sum : sum nested s = o := level_settled product (settled_mono (k := 5) (by decide) settled)
  have relation : relation nested s = o := level_settled sum (settled_mono (k := 4) (by decide) settled)
  have conjunction : conjunction nested s = o :=
    level_settled relation (settled_mono (k := 3) (by decide) settled)
  have disjunction : disjunction nested s = o :=
    level_settled conjunction (settled_mono (k := 2) (by decide) settled)
  rw [conditional, run_bind, disjunction]
  cases o with
  | ok e rest =>
    have noChoice : Misses (symbol "?") rest := symbol_misses rfl (Ends.peek_ne settled (by decide))
    simp only [Outcome.ok_next, run_bind, noChoice.optional, run_pure]
  | miss | fail | overflow => rfl

theorem member_settled (read : primary nested s = o) (settled : o.Settled 9) : member nested s = o := by
  rw [member_eq, run_bind, read]
  cases o with
  | ok e rest => exact steps_stop (suffix?_none settled e) _
  | miss | fail | overflow => rfl

/-! ## Operands -/

theorem member_magnitude (m : Magnitude) (blank : Blank before) (ends : Ends 9 rest) :
    member nested (before ++ (m.text ++ rest)) =
      match Number.long? m.value with
      | some v => .ok (.literal (.int v)) rest
      | none => .fail .integerRange (m.text ++ rest) := by
  obtain ⟨d, more, shape, digit⟩ := m.exists_head
  obtain ⟨shown, other, -⟩ := visible_of_start (.inl (identPart_of_isDigit digit))
  have signed : ∀ c ∈ rest.head?, c ≠ 'u' ∧ c ≠ 'U' :=
    fun c hc => ⟨ends.part_ne rfl hc, ends.part_ne rfl hc⟩
  have read : number (m.text ++ rest) =
      match Number.long? m.value with
      | some v => .ok (.int v) rest
      | none => .fail .integerRange (m.text ++ rest) := by
    rw [number_text m (undigited_of_ends ends), integerLiteral, integer_signed m.isValue signed]
    cases Number.long? m.value <;> rfl
  have found : literal (m.text ++ rest) = number (m.text ++ rest) := by
    refine literal_eq_number ?_ ?_
    · rw [shape]
      rintro _ ⟨⟩
      exact digit
    · rintro ⟨left, missed⟩
      rw [read] at missed
      split at missed <;> cases missed
  have operand : (Expr.literal <$> literal) (m.text ++ rest) =
      match Number.long? m.value with
      | some v => .ok (.literal (.int v)) rest
      | none => .fail .integerRange (m.text ++ rest) := by
    rw [run_map, found, read]
    cases Number.long? m.value <;> rfl
  have primary : primary nested (before ++ (m.text ++ rest)) =
      (Expr.literal <$> literal) (m.text ++ rest) := by
    rw [shape, List.cons_append] at operand ⊢
    rw [primary_eq blank shown]
    refine firstOf_eq _ [] (brackets_miss other _) ?_
    rintro ⟨left, missed⟩
    rw [operand] at missed
    split at missed <;> cases missed
  refine member_settled (primary.trans operand) ?_
  split
  · exact ends
  · trivial

theorem primary_paren {inside : List Char} (blank : Blank before)
    (read : parenthesized nested ('(' :: inside) = o) (settled : o.Settled k) :
    primary nested (before ++ '(' :: inside) = o := by
  rw [primary_eq blank (by decide)]
  refine (firstOf_eq [] _ nofun ?_).trans read
  rintro ⟨left, missed⟩
  rw [missed] at read
  subst read
  exact settled

theorem member_numeral {t : Numeral} {after : List Char} (blank : Blank before) (spaced : Blank after)
    (read : nested (t.text ++ (after ++ ')' :: rest)) = t.outcome (after ++ ')' :: rest))
    (ends : Ends 9 rest) :
    member nested (before ++ '(' :: (t.text ++ (after ++ ')' :: rest))) =
      if t.Fits then
        if t.overflows then .overflow else .ok (.literal (.int (.ofInt t.value))) rest
      else .fail .integerRange (t.tail ++ (after ++ ')' :: rest)) := by
  have opening : exactly ['('] ('(' :: (t.text ++ (after ++ ')' :: rest))) =
      .ok () (t.text ++ (after ++ ')' :: rest)) := exactly_append ['('] _
  have closing : symbol ")" (after ++ ')' :: rest) = .ok () rest := symbol_cons rfl spaced (by decide) _
  -- What ends the reading inside the parentheses ends it behind them.
  have ended {o : Outcome Expr} (read : nested (t.text ++ (after ++ ')' :: rest)) = o)
      (settled : o.Settled 0) (ends : ∀ f : Expr → Parser Expr, o.next f = o) :
      member nested (before ++ '(' :: (t.text ++ (after ++ ')' :: rest))) = o := by
    have settled' : o.Settled 9 := settled_mono (Nat.zero_le 9) settled
    refine member_settled (primary_paren blank ?_ settled) settled'
    simp only [parenthesized, run_bind, opening, Outcome.ok_next, commit_settled read settled, ends]
  unfold Numeral.outcome at read
  split at read
  · rename_i fits
    rw [if_pos fits]
    split at read
    · rename_i least
      rw [if_pos least]
      exact ended read trivial fun f => rfl
    · rename_i exact
      rw [if_neg exact]
      refine member_settled (primary_paren blank ?_ ends) ends
      simp only [parenthesized, run_bind, opening, Outcome.ok_next, commit_ok read, commit_ok closing,
        run_pure]
  · rename_i outside
    rw [if_neg outside]
    exact ended read trivial fun f => rfl

/-! ## Signs -/

theorem negated_even {n : Nat} (even : n % 2 = 0) (read : member nested s = o) (settled : o.Settled 9) :
    negated nested n s = o := by
  simp only [negated, even, ↓reduceIte]
  split
  · exact read
  · exact commit_settled read settled

theorem negated_odd {n : Nat} (odd : n % 2 = 1) (noNumber : Misses negatedInteger s) :
    negated nested n s = ((member nested).commit s).next fun operand =>
      match operand.negate? with
      | some e => pure e
      | none => overflow := by
  unfold negated
  rw [if_neg (by omega), if_neg (by omega), run_bind, noNumber.optional]
  rfl

theorem negated_magnitude (m : Magnitude) (n : Nat) (blank : Blank before) (ends : Ends 9 rest) :
    negated nested n (before ++ (m.text ++ rest)) =
      match Number.long? ((-1) ^ n * m.value) with
      | some v => .ok (.literal (.int v)) rest
      | none => .fail .integerRange (m.text ++ rest) := by
  have operand : member nested (before ++ (m.text ++ rest)) = _ := member_magnitude m blank ends
  rcases Nat.mod_two_eq_zero_or_one n with even | odd
  · rw [Numeral.neg_one_pow_even even, one_mul]
    refine negated_even even operand ?_
    split
    · exact ends
    · trivial
  · have signed : negatedInteger (before ++ (m.text ++ rest)) = _ :=
      negatedInteger_text m blank (undigited_of_ends ends)
        fun c hc => ⟨ends.part_ne rfl hc, ends.part_ne rfl hc⟩
    rw [Numeral.neg_one_pow_odd odd, neg_one_mul]
    cases isLong : Number.long? (-(m.value : Int)) with
    | some v =>
      rw [isLong] at signed
      unfold negated
      rw [if_neg (by omega), if_neg (by omega), run_bind, optional_ok signed]
      rfl
    | none =>
      rw [isLong] at signed
      have outside : Number.long? m.value = none := by
        rw [Number.long?_eq, if_neg]
        rw [Number.long?_eq] at isLong
        split at isLong
        · cases isLong
        · omega
      rw [outside] at operand
      rw [negated_odd odd ⟨_, signed⟩, commit_settled (k := 0) operand trivial]
      rfl

/-- The least number in parentheses has no negative; any other number is folded with its signs. -/
theorem negated_numeral {t : Numeral} {after : Gap} (gaps : List Gap) (before : Gap)
    (read : nested (t.text ++ (after ++ ')' :: rest)) = t.outcome (after ++ ')' :: rest))
    (ends : Ends 9 rest) :
    negated nested gaps.length (before ++ '(' :: (t.text ++ (after ++ ')' :: rest))) =
      (Numeral.parens gaps before t after).outcome rest := by
  have operand := member_numeral before.property after.property read ends
  have tail : (Numeral.parens gaps before t after).tail ++ rest = t.tail ++ (after ++ ')' :: rest) := by
    simp [Numeral.tail]
  have fits : (Numeral.parens gaps before t after).Fits ↔ t.Fits := Iff.rfl
  unfold Numeral.outcome
  rw [tail]
  simp only [fits]
  rcases Nat.mod_two_eq_zero_or_one gaps.length with even | odd
  · rw [Numeral.overflows_parens_even even, Numeral.value_parens, Numeral.neg_one_pow_even even, one_mul]
    refine negated_even even operand ?_
    split
    · split
      · trivial
      · exact ends
    · trivial
  · rw [Numeral.overflows_parens_odd odd, Numeral.value_parens, Numeral.neg_one_pow_odd odd, neg_one_mul,
      negated_odd odd (negatedInteger_misses before.property (by decide) (by decide) _)]
    split at operand
    · rename_i inRange
      rw [if_pos inRange]
      split at operand
      · rename_i least
        rw [commit_settled (k := 0) operand trivial, least]
        rfl
      · rename_i exact
        rw [Bool.not_eq_true] at exact
        have value := Numeral.toInt_ofInt_value inRange exact
        rw [commit_ok operand, exact, Bool.false_or, Outcome.ok_next]
        by_cases least : t.value = -2 ^ 63
        · rw [least]
          rfl
        · have other : Int64.ofInt t.value ≠ Int64.minValue := by
            intro same
            rw [same] at value
            exact least value.symm
          have unequal : (t.value == -2 ^ 63) = false := by simpa using least
          simp only [Expr.negate?, if_neg other, unequal, Int64.ofInt_neg]
          rfl
    · rename_i outside
      rw [if_neg outside, commit_settled (k := 0) operand trivial]
      rfl

theorem unary_gaps {c : Char} (gaps : List Gap) (blank : Blank before) (shown : visible c = true)
    (unsigned : c ≠ '!' ∧ c ≠ '-') (more : List Char) :
    unary nested (signs '-' gaps ++ (before ++ c :: more)) =
      negated nested gaps.length (before ++ c :: more) :=
  unary_signs (symbol_other (d := '!') rfl blank shown unsigned.1 more)
    (symbol_other (d := '-') rfl blank shown unsigned.2 more) gaps

theorem settled_outcome (t : Numeral) (ends : Ends k rest) : (t.outcome rest).Settled k := by
  unfold Numeral.outcome
  split
  · split
    · trivial
    · exact ends
  · trivial

/-- A numeral that is not nested too deeply is one literal, or its digits are out of range. -/
theorem expression_text {t : Numeral} {d : Nat} (shallow : t.depth < d) (ends : Ends 1 rest) :
    expression d (t.text ++ rest) = t.outcome rest := by
  have settled := settled_outcome t ends
  induction t generalizing d rest with
  | digits gaps before m =>
    obtain ⟨d, rfl⟩ := Nat.exists_eq_add_one_of_ne_zero (Nat.ne_of_gt shallow)
    obtain ⟨c, more, shape, digit⟩ := m.exists_head
    obtain ⟨shown, -, unsigned⟩ := visible_of_start (.inl (identPart_of_isDigit digit))
    have whole : (Numeral.digits gaps before m).text ++ rest =
        signs '-' gaps ++ (before ++ (m.text ++ rest)) := by
      simp [Numeral.text, Numeral.lead, Numeral.tail]
    have operand : negated (expression d) gaps.length (before ++ (m.text ++ rest)) =
        (Numeral.digits gaps before m).outcome rest := by
      have isLong : Number.long? ((-1) ^ gaps.length * m.value) =
          if (Numeral.digits gaps before m).Fits then some (.ofInt (Numeral.digits gaps before m).value)
          else none := Number.long?_eq _
      rw [negated_magnitude m _ before.property (ends.mono (by decide)), isLong, Numeral.outcome]
      by_cases fits : (Numeral.digits gaps before m).Fits
      · rw [if_pos fits, if_pos fits]
        rfl
      · rw [if_neg fits, if_neg fits]
        rfl
    have read : unary (expression d) ((Numeral.digits gaps before m).text ++ rest) =
        (Numeral.digits gaps before m).outcome rest := by
      rw [whole, ← operand, shape]
      exact unary_gaps gaps before.property shown unsigned _
    exact conditional_settled read settled
  | parens gaps before inside after ih =>
    obtain ⟨d, rfl⟩ := Nat.exists_eq_add_one_of_ne_zero (Nat.ne_of_gt (Nat.zero_lt_of_lt shallow))
    have whole : (Numeral.parens gaps before inside after).text ++ rest =
        signs '-' gaps ++ (before ++ '(' :: (inside.text ++ (after ++ ')' :: rest))) := by
      simp [Numeral.text, Numeral.lead, Numeral.tail]
    have closing : Ends 1 (after ++ ')' :: rest) := ends_blank after.property (ends_closing rfl rest)
    have inner : expression d (inside.text ++ (after ++ ')' :: rest)) =
        inside.outcome (after ++ ')' :: rest) :=
      ih (Nat.lt_of_succ_lt_succ shallow) closing (settled_outcome inside closing)
    have operand : negated (expression d) gaps.length
        (before ++ '(' :: (inside.text ++ (after ++ ')' :: rest))) =
        (Numeral.parens gaps before inside after).outcome rest :=
      negated_numeral gaps before inner (ends.mono (by decide))
    have read : unary (expression d) ((Numeral.parens gaps before inside after).text ++ rest) =
        (Numeral.parens gaps before inside after).outcome rest := by
      rw [whole, ← operand]
      exact unary_gaps gaps before.property (by decide) (by decide) _
    exact conditional_settled read settled

end Parser

/-! ## Values -/

section
variable {s rest : List Char}

/-- Whether a literal has the value of the digits in front of `rest`. -/
inductive Literal.Spelled (s rest : List Char) : Literal → Prop
  | int (m : Magnitude) (v : Int64) (whole : s = m.text ++ rest) (isValue : v.toInt = m.value) :
      Spelled s rest (.int v)
  | uint (m : Magnitude) (v : UInt64) (c : Char) (isU : c = 'u' ∨ c = 'U') (whole : s = m.text ++ c :: rest)
      (isValue : v.toNat = m.value) : Spelled s rest (.uint v)
  | double (x : Number.Double) : Spelled s rest (.double x)

theorem spelled_of_integerLiteral {r : Radix} {start digits behind : List Char} {value : Literal}
    (whole : s = r.mark ++ (digits ++ behind))
    (read : Parser.integerLiteral r.base start digits behind = .ok value rest) : value.Spelled s rest := by
  unfold Parser.integerLiteral at read
  split at read
  · rename_i isInteger
    cases read
    obtain ⟨n, isValue, kind⟩ := integer_eq_some isInteger
    have text : s = (Magnitude.mk r digits n isValue).text ++ behind := by
      rw [whole, Magnitude.text, List.append_assoc]
    obtain ⟨v, rfl, rfl, same⟩ | ⟨c, v, rfl, isU, rfl, same⟩ := kind
    · exact .int _ v text same
    · exact .uint _ v c isU text same
  · cases read

/-- A number that is read has the value of the digits that it stands in. -/
theorem spelled_of_number {value : Literal} (read : Parser.number s = .ok value rest) :
    value.Spelled s rest := by
  unfold Parser.number at read
  split at read
  · rename_i inside isHex
    obtain ⟨x, isX, rfl⟩ := hexadecimal?_eq_some isHex
    split at read
    · rename_i digits behind found
      have whole : '0' :: x :: inside = ['0', x] ++ (digits ++ behind) :=
        congrArg ('0' :: x :: ·) (digits?_eq_some found).1
      exact spelled_of_integerLiteral (r := .hexadecimal x isX) whole read
    · cases read
  · split at read
    · cases read
    · rename_i digits behind found
      dsimp only at read
      split at read
      · cases read
        exact .double _
      · split at read
        · rename_i none
          rw [fraction_none (List.isEmpty_iff.mp none)] at read
          exact spelled_of_integerLiteral (r := .decimal) (digits?_eq_some found).1 read
        · cases read
          exact .double _

/-- Behind an odd number of signs a number is the negative of its digits. -/
theorem int_of_negatedInteger {value : Literal} (read : Parser.negatedInteger s = .ok value rest) :
    ∃ (m : Magnitude) (v : Int64), skipBlanks false s = m.text ++ rest ∧ value = .int v ∧
      v.toInt = -m.value := by
  have exactly {r : Radix} {digits behind : List Char} {n : Nat}
      (isValue : Text.natural? r.base digits = some n)
      (whole : skipBlanks false s = r.mark ++ (digits ++ behind))
      (read : (match Number.long? (-((Text.natural? r.base digits).getD 0 : Nat)) with
        | some v =>
          if behind.head?.any fun c => ['.', 'e', 'E', 'u', 'U'].contains c then .miss (skipBlanks false s)
          else .ok (Literal.int v) behind
        | none => .miss (skipBlanks false s)) = Outcome.ok value rest) :
      ∃ (m : Magnitude) (v : Int64), skipBlanks false s = m.text ++ rest ∧ value = .int v ∧
        v.toInt = -m.value := by
    rw [isValue] at read
    split at read
    · rename_i v inRange
      split at read
      · cases read
      · cases read
        refine ⟨⟨r, digits, n, isValue⟩, v, ?_, rfl, Number.toInt_of_long? inRange⟩
        rw [whole, Magnitude.text, List.append_assoc]
    · cases read
  simp only [Parser.negatedInteger, bind, Parser.blanks] at read
  cases hex : (hexadecimal? (skipBlanks false s)).bind (digits? 16) with
  | some found =>
    obtain ⟨digits, behind⟩ := found
    obtain ⟨inside, isHex, found⟩ := Option.bind_eq_some_iff.mp hex
    obtain ⟨x, isX, marked⟩ := hexadecimal?_eq_some isHex
    obtain ⟨whole, n, isValue⟩ := digits?_eq_some found
    rw [hex] at read
    exact exactly (r := .hexadecimal x isX) isValue (by rw [marked, whole]; rfl) read
  | none =>
    rw [hex] at read
    cases decimal : digits? 10 (skipBlanks false s) with
    | none =>
      rw [decimal] at read
      cases read
    | some found =>
      obtain ⟨digits, behind⟩ := found
      obtain ⟨whole, n, isValue⟩ := digits?_eq_some decimal
      rw [decimal] at read
      exact exactly (r := .decimal) isValue whole read

end

/-! ## Sources -/

theorem parse_text_outcome (t : Numeral) (after : Parser.Gap) (shallow : t.depth < maxDepth) :
    parse (String.ofList (t.text ++ after)) =
      if t.Fits then
        if t.overflows then .error .overflow else .ok (.literal (.int (.ofInt t.value)))
      else .error (.syntaxError ⟨.integerRange, Text.utf8Length t.lead⟩) := by
  have nothing : skipBlanks false after.val = [] := by
    have left := after.property []
    rwa [List.append_nil] at left
  have ends : Parser.Ends 1 after.val := by
    have behind := Parser.ends_blank after.property (Parser.ends_nil (k := 1))
    rwa [List.append_nil] at behind
  have read := Parser.expression_text shallow ends
  unfold Numeral.outcome at read
  split at read
  · rename_i fits
    rw [if_pos fits]
    split at read
    · rename_i least
      have whole : (Parser.expression maxDepth <* Parser.blanks) (t.text ++ after) = .overflow := by
        rw [Parser.run_seqLeft, read]
        rfl
      simp only [parse, String.toList_ofList, whole, if_pos least]
    · rename_i exact
      rw [if_neg exact]
      refine Parser.parse_of_expression ?_ nothing
      rw [String.toList_ofList, read]
  · rename_i outside
    have whole : (Parser.expression maxDepth <* Parser.blanks) (t.text ++ after) =
        .fail .integerRange (t.tail ++ after) := by
      rw [Parser.run_seqLeft, read]
      rfl
    have offset : Text.utf8Length (t.text ++ after) - Text.utf8Length (t.tail ++ after) =
        Text.utf8Length t.lead := by
      rw [Numeral.text, List.append_assoc, Text.utf8Length_append, Nat.add_sub_cancel]
    simp only [parse, String.toList_ofList, whole, offset, if_neg outside]

/-- A numeral stands for one literal of its value, or its digits are out of range together with the signs
directly in front of them, or the program ends. It ends only where signs stand in front of parentheses that
hold the least number of 64 bits, which is the only number that no sign can be folded into. -/
theorem parse_numeral (t : Numeral) (after : Parser.Gap) (shallow : t.depth < maxDepth) :
    (parse (String.ofList (t.text ++ after)) =
        if t.Fits then
          if t.overflows then .error .overflow else .ok (.literal (.int (.ofInt t.value)))
        else .error (.syntaxError ⟨.integerRange, Text.utf8Length t.lead⟩)) ∧
      (t.Fits → t.overflows = false → (Int64.ofInt t.value).toInt = t.value) ∧
      (t.signCount = t.directCount → t.overflows = false ∧
        (-2 ^ 63 ≤ t.value → t.value < 2 ^ 63 → t.Fits)) ∧
      (∀ s value rest, Parser.number s = .ok value rest → value.Spelled s rest) ∧
      (∀ s value rest, Parser.negatedInteger s = .ok value rest → ∃ (m : Magnitude) (v : Int64),
        skipBlanks false s = m.text ++ rest ∧ value = .int v ∧ v.toInt = -m.value) ∧
      (∀ n, (Expr.literal (.int n)).negate? = none ↔ n.toInt = -2 ^ 63) ∧
      ∀ n e, (Expr.literal (.int n)).negate? = some e →
        ∃ m, e = .literal (.int m) ∧ m.toInt = -n.toInt := by
  refine ⟨parse_text_outcome t after shallow, Numeral.toInt_ofInt_value, ?_,
    fun s value rest => spelled_of_number, fun s value rest => int_of_negatedInteger, fun n => ?_,
    fun n e negates => ?_⟩
  · intro allDirect
    have same : t.direct = t.value := by rw [Numeral.direct, Numeral.value, allDirect]
    exact ⟨Numeral.overflows_eq_false allDirect, fun low high => ⟨same ▸ low, same ▸ high⟩⟩
  · rw [← Int64.toInt_minValue, Int64.toInt_inj]
    simp [Expr.negate?]
  · by_cases least : n = Int64.minValue
    · simp [Expr.negate?, least] at negates
    · simp only [Expr.negate?, if_neg least, Option.some.injEq] at negates
      exact ⟨-n, negates.symm, Number.toInt_neg least⟩

/-- Two signs, one of them inside, in front of a hexadecimal number. -/
theorem parse_numeral_hexadecimal :
    ∃ t : Numeral, t.text = "-( -0x7F)".toList ∧ t.depth < maxDepth ∧ t.value = 127 ∧
      parse (String.ofList (t.text ++ [])) = .ok (.literal (.int 127)) := by
  let gap : Parser.Gap := ⟨[], Parser.blank_nil⟩
  let m : Magnitude := ⟨.hexadecimal 'x' (.inl rfl), ['7', 'F'], 127, rfl⟩
  let t : Numeral := .parens [gap] gap (.digits [⟨[' '], Parser.blank_space⟩] gap m) gap
  have shallow : t.depth < maxDepth := by decide
  have value : t.value = 127 := by decide
  refine ⟨t, rfl, shallow, value, ?_⟩
  have read := (parse_numeral t gap shallow).1
  rwa [if_pos (by decide), if_neg (by decide), value] at read

/-- The least number of 64 bits has no negative, and the program ends where it is asked for one. The same
signs without parentheses are a range error. -/
theorem parse_numeral_overflow :
    parse "-(-9223372036854775808)" = .error .overflow ∧
      parse "--9223372036854775808" = .error (.syntaxError ⟨.integerRange, 2⟩) := by
  let gap : Parser.Gap := ⟨[], Parser.blank_nil⟩
  let m : Magnitude := ⟨.decimal, "9223372036854775808".toList, 9223372036854775808, by decide +kernel⟩
  let t : Numeral := .parens [gap] gap (.digits [gap] gap m) gap
  let u : Numeral := .digits [gap, gap] gap m
  have ended := parse_text_outcome t gap (by decide)
  have refused := parse_text_outcome u gap (by decide)
  rw [if_pos (by decide), if_pos (by decide)] at ended
  rw [if_neg (by decide)] at refused
  exact ⟨ended, refused⟩

end ClusterPolicy.Cel
