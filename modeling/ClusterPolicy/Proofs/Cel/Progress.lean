import ClusterPolicy.Proofs.Cel.Advance
import ClusterPolicy.Proofs.Text.Utf8

/-! How far a text is read. What is repeated takes something in, so the length of the text cuts no
repetition short. -/

namespace ClusterPolicy.Cel

namespace Parser

/-! ## Every parser -/

/-- The parsers of the grammar over those of nested expressions. -/
inductive Rule (nested : Parser Expr) : ∀ {α : Type}, Parser α → Prop
  | blanks : Rule nested blanks
  | exactly (text : List Char) : Rule nested (exactly text)
  | symbol (text : String) : Rule nested (symbol text)
  | word (text : String) : Rule nested (word text)
  | keyword (text : String) : Rule nested (keyword text)
  | bareIdent : Rule nested bareIdent
  | ident : Rule nested ident
  | number : Rule nested number
  | negatedInteger : Rule nested negatedInteger
  | stringLiteral : Rule nested stringLiteral
  | literal : Rule nested literal
  | arguments : Rule nested (arguments nested)
  | fields : Rule nested (fields nested)
  | closeWith (text : String) : Rule nested (closeWith text)
  | parenthesized : Rule nested (parenthesized nested)
  | list : Rule nested (list nested)
  | map : Rule nested (map nested)
  | identOrCall : Rule nested (identOrCall nested)
  | primary : Rule nested (primary nested)
  | suffix (operand : Expr) : Rule nested (suffix? nested operand)
  | suffixes (operand : Expr) (n : Nat) : Rule nested (suffixes nested operand n)
  | operatorOf (operators : List Operator) : Rule nested (operatorOf operators)
  | chain (operators : List Operator) (k : Nat) (left : Expr) (n : Nat) :
      Rule nested (chain operators (atLevel nested k) left n)
  | level (k : Nat) : Rule nested (atLevel nested k)
  | nested : Rule nested nested

/-- Every parser of the grammar leaves an end of its text. -/
theorem suffix_of_rule {α : Type} {p : Parser α} {depth : Nat} (rule : Rule (expression depth) p)
    (s : List Char) : ∀ rest ∈ (p s).rest?, rest <:+ s := by
  have inner := advances_expression depth
  have suffix {α : Type} {p : Parser α} {k : Nat} (h : Advances p k (depth + 1)) :
      ∀ rest ∈ (p s).rest?, rest <:+ s :=
    (h s).suffix
  cases rule with
  | blanks => exact suffix advances_blanks
  | exactly text => exact suffix (advances_exactly text)
  | symbol text => exact suffix (advances_symbol text)
  | word text => exact suffix (advances_word text)
  | keyword text => exact suffix (advances_keyword text)
  | bareIdent => exact suffix advances_bareIdent
  | ident => exact suffix advances_ident
  | number => exact suffix advances_number
  | negatedInteger => exact suffix advances_negatedInteger
  | stringLiteral => exact suffix advances_stringLiteral
  | literal => exact suffix advances_literal
  | arguments => exact suffix (advances_arguments inner)
  | fields => exact suffix (advances_fields inner)
  | closeWith text => exact suffix (advances_closeWith text)
  | parenthesized => exact suffix (advances_parenthesized inner)
  | list => exact suffix (advances_list inner)
  | map => exact suffix (advances_map inner)
  | identOrCall => exact suffix (advances_identOrCall inner)
  | primary => exact suffix (advances_primary inner)
  | suffix operand => exact suffix (advances_suffix? inner operand)
  | suffixes operand n => exact suffix (advances_suffixes inner operand n)
  | operatorOf operators => exact suffix (advances_operatorOf operators)
  | chain operators k left n => exact suffix (advances_chain (advances_atLevel inner k) operators left n)
  | level k => exact suffix (advances_atLevel inner k)
  | nested => exact (inner s).suffix

/-! ## Repetitions -/

section
variable {α β : Type} {p : Parser α} {s rest : List Char}

theorem exists_of_bind_ok {f : α → Parser β} {b : β} (h : (p >>= f) s = .ok b rest) :
    ∃ a between, p s = .ok a between ∧ f a between = .ok b rest := by
  rw [run_bind] at h
  cases first : p s with
  | ok a between =>
    rw [first] at h
    exact ⟨a, between, rfl, h⟩
  | miss | fail | overflow => rw [first] at h; cases h

theorem length_lt_of_some {a : α} {d : Nat} (h : Advances p 1 d) (found : p.optional s = .ok (some a) rest) :
    rest.length < s.length := by
  obtain ⟨b, -, read⟩ | ⟨isNone, -⟩ := of_optional_ok found
  · have advanced := h s
    rw [read] at advanced
    exact advanced.2
  · cases isNone

theorem length_le_of_ok {a : α} {d : Nat} (h : Advances p 0 d) (read : p s = .ok a rest) :
    rest.length ≤ s.length := by
  have advanced := h s
  rw [read] at advanced
  exact advanced.1.length_le

/-- A run whose parts take something in is not cut short by a bound that is as long as the text. -/
theorem run_eq_of_length_le {σ : Type} (part : σ → Parser (Option α)) (run : σ → Nat → Parser β) (state : σ)
    (ends : ∀ state n, run state n [] = run state 0 [])
    (unfolds : ∀ state s n m,
      (∀ next a rest, part state s = .ok (some a) rest → run next n rest = run next m rest) →
        run state (n + 1) s = run state (m + 1) s)
    (shorter : ∀ {state s a rest}, part state s = .ok (some a) rest → rest.length < s.length)
    {n m : Nat} (hn : s.length ≤ n) (hm : s.length ≤ m) : run state n s = run state m s := by
  induction n generalizing s m state with
  | zero =>
    obtain rfl := List.length_eq_zero_iff.mp (Nat.le_zero.mp hn)
    exact (ends state m).symm
  | succ n ih =>
    cases m with
    | zero =>
      obtain rfl := List.length_eq_zero_iff.mp (Nat.le_zero.mp hm)
      exact ends state (n + 1)
    | succ m =>
      refine unfolds state s n m fun next a rest read => ?_
      have less := shorter read
      exact ih next (by omega) (by omega)

theorem countUpTo_eq {p : Parser Unit} {n m : Nat}
    (shorter : ∀ {s a rest}, p.optional s = .ok (some a) rest → rest.length < s.length)
    (ends : Misses p []) (hn : s.length ≤ n) (hm : s.length ≤ m) : countUpTo p n s = countUpTo p m s := by
  refine run_eq_of_length_le (fun _ => p.optional) (fun _ => countUpTo p) ()
    (fun _ n => countUpTo_none ends n) (fun _ s n m same => ?_) shorter hn hm
  simp only [countUpTo, run_bind]
  cases read : p.optional s with
  | ok o rest =>
    cases o with
    | none => rfl
    | some a => simp only [Outcome.ok_next, run_map, same () a rest read]
  | miss | fail | overflow => rfl

theorem itemsUpTo_none {separator : Parser β} (h : Misses (separator *> p) s) (n : Nat) :
    itemsUpTo separator p n s = .ok [] s := by
  cases n with
  | zero => rfl
  | succ n =>
    rw [itemsUpTo, run_bind, h.optional]
    rfl

theorem itemsUpTo_eq {separator : Parser β} {n m : Nat}
    (shorter : ∀ {s a rest}, (separator *> p).optional s = .ok (some a) rest → rest.length < s.length)
    (ends : Misses (separator *> p) []) (hn : s.length ≤ n) (hm : s.length ≤ m) :
    itemsUpTo separator p n s = itemsUpTo separator p m s := by
  refine run_eq_of_length_le (fun _ => (separator *> p).optional) (fun _ => itemsUpTo separator p) ()
    (fun _ n => itemsUpTo_none ends n) (fun _ s n m same => ?_) shorter hn hm
  simp only [itemsUpTo, run_bind]
  cases read : (separator *> p).optional s with
  | ok o rest =>
    cases o with
    | none => rfl
    | some a => simp only [Outcome.ok_next, run_map, same () a rest read]
  | miss | fail | overflow => rfl

theorem steps_eq {step? : Expr → Parser (Option Expr)} {n m : Nat} {left : Expr}
    (shorter : ∀ {left s longer rest}, step? left s = .ok (some longer) rest → rest.length < s.length)
    (ends : ∀ left, step? left [] = .ok none []) (hn : s.length ≤ n) (hm : s.length ≤ m) :
    steps step? left n s = steps step? left m s := by
  refine run_eq_of_length_le step? (steps step?) left
    (fun left n => steps_stop (ends left) n) (fun left s n m same => ?_) shorter hn hm
  simp only [steps, run_bind]
  cases read : step? left s with
  | ok o rest =>
    cases o with
    | none => rfl
    | some longer => exact same longer longer rest read
  | miss | fail | overflow => rfl

end

section
variable {nested : Parser Expr} {d : Nat} {s rest : List Char}

theorem length_lt_of_link? {operand : Parser Expr} {operators : List Operator} {left longer : Expr}
    (h : Advances operand 0 d) (read : link? operators operand left s = .ok (some longer) rest) :
    rest.length < s.length := by
  obtain ⟨o, between, found, behind⟩ := exists_of_bind_ok read
  cases o with
  | none => cases behind
  | some op =>
    obtain ⟨right, between', operandRead, last⟩ := exists_of_bind_ok behind
    cases last
    have first := length_lt_of_some (advances_operatorOf (d := d) operators) found
    have second := length_le_of_ok h.commit operandRead
    omega

theorem length_lt_of_suffix? {left longer : Expr} (inner : Advances nested 0 d)
    (read : suffix? nested left s = .ok (some longer) rest) : rest.length < s.length := by
  obtain ⟨point, between, found, behind⟩ := exists_of_bind_ok read
  cases point with
  | some _ =>
    have first := length_lt_of_some (advances_symbol (d := 0) ".") found
    obtain ⟨name, between', named, behind'⟩ := exists_of_bind_ok behind
    have second := length_le_of_ok (advances_ident.mono (Nat.zero_le 1) (Nat.zero_le 0)).commit named
    obtain ⟨o, between'', called, last⟩ := exists_of_bind_ok behind'
    have third := length_le_of_ok (advances_arguments inner).optional called
    cases o <;> cases last <;> omega
  | none =>
    obtain rfl := of_optional_none found
    dsimp only at behind
    obtain ⟨o, between', bracket, behind'⟩ := exists_of_bind_ok behind
    cases o with
    | some e =>
      have index : Advances (symbol "[" *> nested.commit <* commit (symbol "]")) 1 (d + 1) :=
        Advances.seqLeft ((advances_symbol "[").inside fun _ => inner.commit) (advances_symbol "]").commit
      cases behind'
      exact length_lt_of_some index bracket
    | none =>
      obtain rfl := of_optional_none bracket
      cases typed : left.typePath? with
      | none =>
        rw [typed] at behind'
        cases behind'
      | some type =>
        rw [typed] at behind'
        obtain ⟨o, between'', braces, last⟩ := exists_of_bind_ok behind'
        cases o with
        | none => cases last
        | some values =>
          cases last
          exact length_lt_of_some (advances_fields inner) braces

end

/-- A run of blanks ends where no blank follows. -/
theorem skipBlanks_idem (inComment : Bool) (s : List Char) :
    skipBlanks false (skipBlanks inComment s) = skipBlanks inComment s := by
  fun_induction skipBlanks inComment s with
  | case1 => rfl
  | case2 _ rest ih => exact ih
  | case3 c rest _ ih => exact ih
  | case4 _ c rest _ _ _ ih => exact ih
  | case5 inComment c rest apart outside shown =>
    rw [skipBlanks]
    · simp [shown]
    · exact apart

/-- The repetitions of the grammar: one more part if there is one, and a run of at most so many. -/
inductive Loop (nested : Parser Expr) : ∀ {α β : Type}, Parser (Option α) → (Nat → Parser β) → Prop
  | nots : Loop nested (symbol "!").optional (countUpTo (symbol "!"))
  | signs : Loop nested (symbol "-").optional (countUpTo (symbol "-"))
  | values : Loop nested (symbol "," *> nested).optional (itemsUpTo (symbol ",") nested)
  | fields : Loop nested (symbol "," *> pair ident nested).optional
      (itemsUpTo (symbol ",") (pair ident nested))
  | entries : Loop nested (symbol "," *> pair nested nested).optional
      (itemsUpTo (symbol ",") (pair nested nested))
  | operators (k : Nat) (left : Expr) : Loop nested (link? (operators k) (atLevel nested (k + 1)) left)
      (chain (operators k) (atLevel nested (k + 1)) left)
  | members (left : Expr) : Loop nested (suffix? nested left) (suffixes nested left)

section
variable {d : Nat} {α β : Type}

theorem advances_item {item : Parser β} (h : Advances item 0 d) : Advances (symbol "," *> item) 1 d :=
  (advances_symbol ",").andThen fun _ => h

theorem misses_item (item : Parser β) : Misses (symbol "," *> item) [] :=
  ⟨[], rfl⟩

end

section
variable {depth : Nat} {α β : Type} {part : Parser (Option α)} {run : Nat → Parser β}

/-- A part that is there takes something in. -/
theorem Loop.shortens (loop : Loop (expression depth) part run) {s rest : List Char} {a : α}
    (read : part s = .ok (some a) rest) : rest.length < s.length := by
  have inner := advances_expression depth
  have name := advances_ident.mono (Nat.zero_le 1) (Nat.le_refl depth)
  cases loop with
  | nots => exact length_lt_of_some (advances_symbol (d := 0) "!") read
  | signs => exact length_lt_of_some (advances_symbol (d := 0) "-") read
  | values => exact length_lt_of_some (advances_item inner) read
  | fields => exact length_lt_of_some (advances_item (advances_pair inner name)) read
  | entries => exact length_lt_of_some (advances_item (advances_pair inner inner)) read
  | operators k left => exact length_lt_of_link? (advances_atLevel inner (k + 1)) read
  | members left => exact length_lt_of_suffix? inner read

/-- The length of the text cuts no repetition short. -/
theorem Loop.settles (loop : Loop (expression depth) part run) {n : Nat} {s : List Char}
    (long : s.length ≤ n) : run n s = run s.length s := by
  have inner := advances_expression depth
  have shorter {s rest : List Char} {a : α} (read : part s = .ok (some a) rest) := loop.shortens read
  have self := Nat.le_refl s.length
  cases loop with
  | nots => exact countUpTo_eq shorter ⟨[], rfl⟩ long self
  | signs => exact countUpTo_eq shorter ⟨[], rfl⟩ long self
  | values => exact itemsUpTo_eq shorter (misses_item _) long self
  | fields => exact itemsUpTo_eq shorter (misses_item _) long self
  | entries => exact itemsUpTo_eq shorter (misses_item _) long self
  | operators k left =>
    rw [chain_eq]
    exact steps_eq (fun read => length_lt_of_link? (advances_atLevel inner (k + 1)) read)
      (fun left => link?_none ends_nil _ left) long self
  | members left =>
    rw [suffixes_eq]
    exact steps_eq (fun read => length_lt_of_suffix? inner read)
      (fun left => suffix?_none ends_nil left) long self

end

end Parser

/-! ## Offsets -/

/-- A place in a source that an offset can name. -/
structure Points (source : String) (e : SyntaxError) : Prop where
  within : e.offset ≤ source.utf8ByteSize
  boundary : (String.Pos.Raw.mk e.offset).IsValid source
  deep : e.problem = .tooDeep → maxDepth ≤ e.offset

theorem points_of_suffix {source : String} {problem : Problem} {rest : List Char}
    (isEnd : rest <:+ source.toList)
    (deep : problem = .tooDeep → rest.length + maxDepth ≤ source.toList.length) :
    Points source ⟨problem, Text.utf8Length source.toList - Text.utf8Length rest⟩ := by
  obtain ⟨before, whole⟩ := isEnd
  have split : source = String.ofList before ++ String.ofList rest := by
    rw [← String.ofList_append, whole, String.ofList_toList]
  have offset : Text.utf8Length source.toList - Text.utf8Length rest = Text.utf8Length before := by
    rw [← whole, Text.utf8Length_append, Nat.add_sub_cancel]
  rw [offset]
  constructor
  · change Text.utf8Length before ≤ _
    rw [split, String.utf8ByteSize_append, Text.utf8Length_eq]
    exact Nat.le_add_right ..
  · refine String.Pos.Raw.isValid_iff_exists_append.mpr ⟨_, _, split, ?_⟩
    rw [Text.utf8Length_eq]
    rfl
  · intro tooDeep
    have long := deep tooDeep
    rw [← whole, List.length_append] at long
    have bytes := Text.length_le_utf8Length before
    change maxDepth ≤ Text.utf8Length before
    omega

theorem within_expression (s : List Char) :
    ((Parser.expression maxDepth <* Parser.blanks) s).Within s 0 maxDepth :=
  (Parser.advances_expression maxDepth).seqLeft Parser.advances_blanks s

theorem parse_points {source : String} {e : SyntaxError} (failed : parse source = .error (.syntaxError e)) :
    Points source e := by
  have read := within_expression source.toList
  unfold parse at failed
  dsimp only at failed
  split at failed <;> rename_i outcome <;> rw [outcome] at read <;> cases failed
  · exact points_of_suffix read.1 nofun
  · exact points_of_suffix read nofun
  · exact points_of_suffix read.1 read.2

theorem parse_overflows {source : String} (failed : parse source = .error .overflow) :
    NegatesLeast source.toList := by
  have read := within_expression source.toList
  unfold parse at failed
  dsimp only at failed
  split at failed <;> rename_i outcome <;> rw [outcome] at read <;> cases failed
  exact read

/-- Reading ends for every text, and where it fails it names a place in the text, or a minus in front of
the least integer ended the program. -/
theorem parse_ends (source : String) :
    (∀ (depth : Nat) {α : Type} {p : Parser α} (s : List Char),
      Parser.Rule (Parser.expression depth) p → ∀ rest ∈ (p s).rest?, rest <:+ s) ∧
    (∀ (depth : Nat) {α β : Type} {part : Parser (Option α)} {run : Nat → Parser β} (s : List Char),
      Parser.Loop (Parser.expression depth) part run →
        (∀ a rest, part s = .ok (some a) rest → rest.length < s.length) ∧
        ∀ n, s.length ≤ n → run n s = run s.length s) ∧
    (∀ s, skipBlanks false s = s ∨ (skipBlanks false s).length < s.length ∧
      skipBlanks false (skipBlanks false s) = skipBlanks false s) ∧
    ((∃ value, parse source = .ok value) ∨
      (∃ problem offset, parse source = .error (.syntaxError ⟨problem, offset⟩) ∧
        offset ≤ source.utf8ByteSize ∧ (String.Pos.Raw.mk offset).IsValid source ∧
        (problem = .tooDeep → 64 ≤ offset)) ∨
      parse source = .error .overflow ∧ ∃ before after, source.toList = before ++ '-' :: after ∧
        ∃ depth rest, Parser.member (Parser.expression depth) after =
          .ok (.literal (.int .minValue)) rest) := by
  refine ⟨?_, ?_, ?_, ?_⟩
  · intro depth α p s rule
    exact Parser.suffix_of_rule rule s
  · intro depth α β part run s loop
    exact ⟨fun a rest read => loop.shortens read, fun n long => loop.settles long⟩
  · intro s
    have isEnd := Parser.skipBlanks_suffix false s
    by_cases same : skipBlanks false s = s
    · exact .inl same
    · have ne : (skipBlanks false s).length ≠ s.length := fun long => same (isEnd.eq_of_length long)
      exact .inr ⟨Nat.lt_of_le_of_ne isEnd.length_le ne, Parser.skipBlanks_idem false s⟩
  · cases read : parse source with
    | ok value => exact .inl ⟨value, rfl⟩
    | error failure =>
      cases failure with
      | syntaxError e =>
        obtain ⟨within, boundary, deep⟩ := parse_points read
        exact .inr (.inl ⟨e.problem, e.offset, rfl, within, boundary, deep⟩)
      | overflow =>
        obtain ⟨after, ⟨before, whole⟩, least⟩ := parse_overflows read
        exact .inr (.inr ⟨rfl, before, after, whole.symm, least⟩)

theorem parse_ends_nested :
    (∀ rest ∈ (Parser.expression 1 ['a', ' ', '+']).rest?, rest <:+ ['a', ' ', '+']) ∧
    Parser.countUpTo (Parser.symbol "-") 9 ['-', '-'] = Parser.countUpTo (Parser.symbol "-") 2 ['-', '-'] ∧
    ∃ source, parse source = .error (.syntaxError ⟨.tooDeep, 64⟩) ∧
      (String.Pos.Raw.mk 64).IsValid source := by
  obtain ⟨suffix, loops, -, ended⟩ := parse_ends (String.ofList (List.replicate 64 '('))
  have failed : (match parse (String.ofList (List.replicate 64 '(')) with
      | .ok _ => false
      | .error e => decide (e = .syntaxError ⟨.tooDeep, 64⟩)) = true := by
    decide +kernel
  refine ⟨suffix 1 _ .nested, (loops 0 _ .signs).2 9 (by decide),
    String.ofList (List.replicate 64 '('), ?_⟩
  obtain ⟨value, read⟩ | ⟨problem, offset, read, -, boundary, -⟩ | ⟨read, -⟩ := ended
  · rw [read] at failed
    cases failed
  · rw [read] at failed
    cases of_decide_eq_true failed
    exact ⟨read, boundary⟩
  · rw [read] at failed
    cases of_decide_eq_true failed

/-- A source that yields neither a value nor a syntax error. -/
theorem not_parse_ends :
    ¬∀ source, (∃ value, parse source = .ok value) ∨ ∃ e, parse source = .error (.syntaxError e) := by
  intro ends
  have overflows : (match parse "-(-9223372036854775808)" with
      | .ok _ => false
      | .error e => decide (e = .overflow)) = true := by
    decide +kernel
  obtain ⟨value, read⟩ | ⟨e, read⟩ := ends "-(-9223372036854775808)"
  · rw [read] at overflows
    cases overflows
  · rw [read] at overflows
    cases of_decide_eq_true overflows

end ClusterPolicy.Cel
