import ClusterPolicy.Proofs.Cedar.Levels
import ClusterPolicy.Proofs.Cedar.Scan
import Mathlib.Data.List.TakeWhile

/-! A text with a type that is no name is read up to the type at most. -/

namespace ClusterPolicy.Cedar

/-! ## Scanning -/

/-- What is printed in front is scanned in front. -/
theorem exists_of_scanUpTo {ls : List Lexeme} {rest : List Char} {ts : List Token} {n : Nat}
    (spaced : Spaced rest.head? ls) (read : Token.scanUpTo n (textOf ls ++ rest) = some ts) :
    ∃ m behind, Token.scanUpTo m rest = some behind ∧ ts = tokensOf ls ++ behind := by
  induction ls generalizing n ts with
  | nil => exact ⟨n, ts, read, rfl⟩
  | cons l ls ih =>
    rw [textOf_cons, List.append_assoc] at read
    cases l with
    | token t =>
      obtain ⟨plain, ends, spaced⟩ := spaced
      obtain ⟨c, more, text, shown⟩ := Token.text_visible plain
      have first := Token.first?_text plain (textOf ls ++ rest) (by rwa [List.head?_append])
      simp only [Lexeme.text, text, List.cons_append] at first read
      cases n with
      | zero => simp [Token.scanUpTo, skipBlanks_visible shown] at read
      | succ n =>
        simp only [Token.scanUpTo, skipBlanks_visible shown, first, Option.bind_eq_bind,
          Option.bind_some, Option.map_eq_map, Option.map_eq_some_iff] at read
        obtain ⟨others, scanned, rfl⟩ := read
        obtain ⟨m, behind, found, rfl⟩ := ih spaced scanned
        exact ⟨m, behind, found, rfl⟩
    | blank =>
      have skip : skipBlanks false (Lexeme.blank.text ++ (textOf ls ++ rest)) =
          skipBlanks false (textOf ls ++ rest) := by
        simp [Lexeme.text, skipBlanks, isBlank]
      rw [scanUpTo_congr skip] at read
      exact ih spaced read
    | line k =>
      have skip : skipBlanks false ((Lexeme.line k).text ++ (textOf ls ++ rest)) =
          skipBlanks false (textOf ls ++ rest) := by
        simpa [Lexeme.text, skipBlanks, isBlank] using skipBlanks_replicate k (textOf ls ++ rest)
      rw [scanUpTo_congr skip] at read
      exact ih spaced read

/-- A part of a type in which all but `-` can be in an identifier, and which does not start with it. -/
structure IsRough (s : List Char) : Prop where
  first : s.head?.any identPart = true
  chars : ∀ c ∈ s, identPart c = true ∨ c = '-'

theorem IsRough.exists_cons {s : List Char} (h : IsRough s) :
    ∃ c rest, s = c :: rest ∧ (identStart c = true ∨ Text.isDigit 10 c = true) := by
  cases s with
  | nil => cases h.first
  | cons c rest =>
    have first := identPart_iff.mp h.first
    exact ⟨c, rest, rfl, first.imp_right fun range => Text.isDigit_of_range range⟩

/-- A part that is no identifier breaks off at its first `-`. -/
theorem IsRough.exists_append {c : Char} {rest : List Char} (h : IsRough (c :: rest))
    (start : identStart c = true) (notIdent : isIdent (c :: rest) = false) :
    ∃ before behind, c :: rest = (c :: before) ++ '-' :: behind ∧ isIdent (c :: before) = true := by
  have stops : rest.dropWhile identPart ≠ [] := by
    intro none
    have all : rest.all identPart = true := by
      rw [List.all_eq_true]
      exact List.dropWhile_eq_nil_iff.mp none
    simp [isIdent, start, all] at notIdent
  obtain ⟨d, behind, found⟩ := List.exists_cons_of_ne_nil stops
  have split := List.takeWhile_append_dropWhile (p := identPart) (l := rest)
  have other : identPart d = false := by
    have head := List.head_dropWhile_not identPart stops
    simpa only [found, List.head_cons] using head
  have isMinus : d = '-' := by
    have mem : d ∈ c :: rest := by
      rw [← split, found]
      simp
    exact (h.chars d mem).resolve_left (Bool.eq_false_iff.mp other)
  subst isMinus
  refine ⟨rest.takeWhile identPart, behind, ?_, ?_⟩
  · rw [List.cons_append, ← found, split]
  · simp only [isIdent, start, Bool.true_and, List.all_eq_true]
    exact fun e mem => List.mem_takeWhile_imp mem

/-- Tokens of a type that breaks off: at a part that starts with a number, or at a minus. -/
inductive Breaks : List Token → Prop
  | number (n : Nat) (rest : List Token) : Breaks (.number n :: rest)
  | minus (s : List Char) (rest : List Token) : Breaks (.ident s :: .symbol .minus :: rest)
  | path (s : List Char) {rest : List Token} (h : Breaks rest) :
      Breaks (.ident s :: .symbol .path :: rest)

theorem breaks_of_digit {c : Char} (digit : Text.isDigit 10 c = true) {rest : List Char}
    {ts : List Token} {n : Nat} (read : Token.scanUpTo n (c :: rest) = some ts) : Breaks ts := by
  have range := Text.digit_range digit
  have shown := visible_of_ascii (c := c) (by omega) (by omega) (by omega)
  cases n with
  | zero => simp [Token.scanUpTo, skipBlanks_visible shown] at read
  | succ n =>
    simp only [Token.scanUpTo, skipBlanks_visible shown, Token.first?, identStart_of_digit digit, digit,
      Bool.false_eq_true, ↓reduceIte, Option.bind_eq_bind, Option.bind_eq_some_iff, Option.map_eq_map,
      Option.map_eq_some_iff] at read
    obtain ⟨_, ⟨k, -, rfl⟩, _, -, rfl⟩ := read
    exact .number k _

/-- The parts of a type are all identifiers, or the type breaks off. -/
theorem breaks_or_idents {parts : List (List Char)} (nonempty : parts ≠ [])
    (rough : ∀ s ∈ parts, IsRough s) {after : List Char}
    (ends : ∀ d ∈ after.head?, identPart d = false) {ts : List Token} {n : Nat}
    (read : Token.scanUpTo n ([':', ':'].intercalate parts ++ after) = some ts) :
    Breaks ts ∨ ∃ m behind, Token.scanUpTo m after = some behind ∧
      ts = (parts.map Token.ident).intersperse (.symbol .path) ++ behind := by
  induction parts generalizing n ts with
  | nil => exact absurd rfl nonempty
  | cons s parts ih =>
    obtain ⟨roughFirst, roughOthers⟩ := List.forall_mem_cons.mp rough
    obtain ⟨c, rest, rfl, start | digit⟩ := roughFirst.exists_cons
    · by_cases ident : isIdent (c :: rest) = true
      · cases parts with
        | nil =>
          rw [List.intercalate_singleton] at read
          have spaced : Spaced after.head? [.token (.ident (c :: rest))] :=
            ⟨ident, fun d hd => by simp [Token.separate, ends d hd], trivial⟩
          obtain ⟨m, behind, found, rfl⟩ := exists_of_scanUpTo spaced
            (by simpa [Lexeme.text, Token.text] using read)
          exact .inr ⟨m, behind, found, rfl⟩
        | cons t parts =>
          have spaced (next : Option Char) :
              Spaced next [.token (.ident (c :: rest)), .symbol .path] :=
            ⟨ident, by rintro _ ⟨⟩; rfl, trivial, fun _ _ => rfl, trivial⟩
          rw [List.intercalate_cons_cons, List.append_assoc, List.append_assoc] at read
          obtain ⟨m, behind, found, rfl⟩ := exists_of_scanUpTo (spaced _)
            (by simpa [Lexeme.text, Lexeme.symbol, Token.text, Symbol.text] using read)
          rcases ih (List.cons_ne_nil t parts) roughOthers found with breaks | ⟨k, others, last, rfl⟩
          · exact .inl (.path _ breaks)
          · exact .inr ⟨k, others, last, rfl⟩
      · obtain ⟨before, inside, split, ident⟩ :=
          roughFirst.exists_append start (Bool.eq_false_iff.mpr ident)
        have more : ∃ tail, [':', ':'].intercalate ((c :: rest) :: parts) ++ after =
            textOf [.token (.ident (c :: before)), .symbol .minus] ++ (inside ++ tail) := by
          cases parts with
          | nil =>
            exact ⟨after, by simp [split, Lexeme.text, Lexeme.symbol, Token.text, Symbol.text]⟩
          | cons t parts =>
            rw [List.intercalate_cons_cons, split]
            exact ⟨[':', ':'] ++ [':', ':'].intercalate (t :: parts) ++ after, by
              simp [Lexeme.text, Lexeme.symbol, Token.text, Symbol.text]⟩
        obtain ⟨tail, same⟩ := more
        have spaced (next : Option Char) :
            Spaced next [.token (.ident (c :: before)), .symbol .minus] :=
          ⟨ident, by rintro _ ⟨⟩; rfl, trivial, fun _ _ => rfl, trivial⟩
        rw [same] at read
        obtain ⟨m, behind, found, rfl⟩ := exists_of_scanUpTo (spaced _) read
        exact .inl (.minus _ _)
    · cases parts with
      | nil => exact .inl (breaks_of_digit digit read)
      | cons t parts =>
        rw [List.intercalate_cons_cons, List.append_assoc, List.append_assoc] at read
        exact .inl (breaks_of_digit digit read)

namespace Parser

/-! ## Names -/

/-- No name is read from the tokens, or only one that a minus follows. -/
def NoName (ts : List Token) : Prop :=
  ∀ found rest, name ts = some (found, rest) → rest.head? = some (.symbol .minus)

theorem nameRest_breaks {ts rest : List Token} {r : List (List Char) × Option String} {n : Nat}
    (h : Breaks ts) (read : nameRest n (.symbol .path :: ts) = some (r, rest)) :
    rest.head? = some (.symbol .minus) := by
  induction h generalizing n r with
  | number k ts =>
    cases n with
    | zero => cases read
    | succ n => simp [nameRest] at read
  | minus s ts =>
    cases n with
    | zero => cases read
    | succ n =>
      cases n with
      | zero => simp [nameRest] at read
      | succ n =>
        simp [nameRest] at read
        rw [← read.2]
        rfl
  | path s _ ih =>
    cases n with
    | zero => cases read
    | succ n =>
      rw [nameRest] at read
      simp only [acceptSymbol_eq, run_bind, accept_cons, Option.bind_some, ↓reduceIte, token_cons] at read
      obtain ⟨⟨r', rest'⟩, inner, made⟩ := Option.bind_eq_some_iff.mp read
      cases made
      exact ih inner

theorem noName_of_breaks {ts : List Token} (h : Breaks ts) : NoName ts := by
  intro found rest read
  unfold name at read
  obtain ⟨first, behind, isFirst, read⟩ := exists_of_run_bind read
  obtain ⟨⟨found', id⟩, behind', named, made⟩ := exists_of_run_bind read
  have same : behind' = rest := by
    cases id <;> cases made
    rfl
  subst same
  unfold path at named
  obtain ⟨⟨names, id'⟩, last, inner, named⟩ := exists_of_run_bind named
  obtain ⟨whole, last', isWhole, made⟩ := exists_of_run_bind named
  have stays : last' = last := by
    unfold nameOf at isWhole
    split at isWhole <;> cases isWhole
    rfl
  cases made
  subst stays
  cases h with
  | number k ts => cases isFirst
  | minus s ts =>
    cases isFirst
    rw [run_bounded, nameRest] at inner
    simp at inner
    rw [← inner.2]
    rfl
  | path s inside =>
    cases isFirst
    exact nameRest_breaks inside inner

theorem noName_of_reserved {type : String} (unnamed : isName type = false) {rest : List Token}
    (ends : NoPath rest) : NoName (Token.ofName type ++ rest) := by
  obtain ⟨first, more, parts, tokens⟩ := Token.ofName_eq type
  have read := nameRest_names more (n := (Token.behindPath more ++ rest).length + 1) ends
    (by rw [List.length_append, length_behindPath]; omega)
  have refused : (first :: more).all isNameSegment = false := parts ▸ unnamed
  intro found rest' named
  simp only [name, tokens, List.cons_append, run_bind, ident_cons, Option.bind_some, path, run_bounded,
    read, nameOf, refused, Bool.false_eq_true, ↓reduceIte, run_failure, Option.bind_none] at named
  cases named

end Parser

/-- A type ends before this: what is scanned of it does not go on with a path. -/
structure EndsType (after : List Char) : Prop where
  ends : ∀ d ∈ after.head?, identPart d = false
  noPath : ∀ n ts, Token.scanUpTo n after = some ts → Parser.NoPath ts

theorem EndsType.symbol {ls : List Lexeme} {rest : List Char} {s : Symbol}
    (spaced : Spaced rest.head? ls) (tokens : tokensOf ls = [.symbol s]) (other : s ≠ .path)
    (ends : ∀ d ∈ (textOf ls ++ rest).head?, identPart d = false) : EndsType (textOf ls ++ rest) := by
  refine ⟨ends, fun n ts read => ?_⟩
  obtain ⟨m, behind, -, rfl⟩ := exists_of_scanUpTo spaced read
  rw [tokens]
  rintro _ ⟨⟩ same
  exact other (Token.symbol.inj same)

/-- A type in rough parts that is no name is not read as one. -/
theorem noName_of_scanUpTo {type : String} (rough : ∀ s ∈ segments type.toList, IsRough s)
    (unnamed : isName type = false) {after : List Char} (ends : EndsType after) {ts : List Token}
    {n : Nat} (read : Token.scanUpTo n (type.toList ++ after) = some ts) : Parser.NoName ts := by
  rw [← intercalate_segments type.toList] at read
  rcases breaks_or_idents (segments_ne_nil _) rough ends.ends read with
    breaks | ⟨m, behind, found, rfl⟩
  · exact Parser.noName_of_breaks breaks
  · exact Parser.noName_of_reserved unnamed (ends.noPath m behind found)

namespace Parser

/-! ## Tests of a type -/

section
variable {nested : Parser Expr}

theorem sum_resource (rest : List Token) : sum nested (.word "resource" :: .word "is" :: rest) =
    some (.var .resource, .word "is" :: rest) := by
  have operand : Stands nested 7 [.word "resource"] (.var .resource) :=
    .operand (by decide) fun rest ends => primary_var .resource ends
  have ends : Ends 4 (.word "is" :: rest) := by
    rintro _ ⟨⟩
    exact .inr (by decide)
  exact (operand.mono (j := 4) (by decide) (by decide)).reads _ ends

theorem relation_noName {ts rest : List Token} {e : Expr} (h : NoName ts)
    (read : relation nested (.word "resource" :: .word "is" :: ts) = some (e, rest)) :
    rest.head? = some (.symbol .minus) := by
  simp only [relation, run_bind, sum_resource, Option.bind_some, peek_eq, List.head?_cons,
    show comparison? (.word "is") = none from rfl, accept_word_cons (by decide : "is" ≠ "has"),
    accept_word_cons (by decide : "is" ≠ "like"), accept_cons, Bool.false_eq_true, ↓reduceIte] at read
  obtain ⟨⟨found, rest'⟩, named, made⟩ := Option.bind_eq_some_iff.mp read
  cases made
  exact h found _ named

theorem scope_noName {ts rest : List Token} {s : Scoped Scope} (h : NoName ts)
    (read : scope .resource (.word "resource" :: .word "is" :: ts) = some (s, rest)) :
    rest.head? = some (.symbol .minus) := by
  simp only [scope, Var.name, run_bind, expect_cons, Option.bind_some, acceptSymbol_eq,
    accept_symbol_cons (word_ne_symbol _ _), accept_word_cons (by decide : "is" ≠ "in"), accept_cons,
    Bool.false_eq_true, ↓reduceIte] at read
  obtain ⟨⟨found, rest'⟩, named, made⟩ := Option.bind_eq_some_iff.mp read
  cases made
  exact h found _ named

theorem chain_stop {build? : Token → Option (Expr → Expr → Expr)} {operand : Parser Expr} {left : Expr}
    {ts : List Token} (stops : ts.head?.bind build? = none) (n : Nat) :
    chain build? operand left n ts = some (left, ts) := by
  cases n with
  | zero => rfl
  | succ n => simp [chain, stops]

theorem conjunction_noName {ts rest : List Token} {e : Expr} (h : NoName ts)
    (read : conjunction nested (.word "resource" :: .word "is" :: ts) = some (e, rest)) :
    rest.head? = some (.symbol .minus) := by
  obtain ⟨left, behind, first, others⟩ := exists_of_run_bind read
  have minus := relation_noName h first
  rw [run_bounded, chain_stop (by rw [minus]; rfl)] at others
  cases others
  exact minus

/-- A test of the resource's type, and what puts another behind it. -/
def testTokens (type : String) : List Token :=
  .word "resource" :: .word "is" :: (Token.ofName type ++ [.symbol .or])

theorem conjunction_testTokens {type : String} (isName : isName type = true) (rest : List Token) :
    conjunction nested (testTokens type ++ rest) =
      some (.is (.var .resource) type, .symbol .or :: rest) := by
  have operand : Stands nested 7 [.word "resource"] (.var .resource) :=
    .operand (by decide) fun rest ends => primary_var .resource ends
  have test : Stands nested 3 ([.word "resource"] ++ .word "is" :: Token.ofName type)
      (.is (.var .resource) type) :=
    .plain (by decide) ⟨_, _, rfl, by decide⟩
      (reads_is (operand.mono (by decide) (by decide)).reads isName)
  have ends : Ends 2 (.symbol .or :: rest) := by
    rintro _ ⟨⟩
    exact .inr (by decide)
  have read := (test.mono (j := 2) (by decide) (by decide)).reads _ ends
  simpa [testTokens, atLevel] using read

variable {types : List String} (names : ∀ type ∈ types, isName type = true) {ts : List Token}
  (h : NoName ts)
include names h

/-- The chain ends before the type, or behind it at a minus. -/
theorem chain_noName {left e : Expr} {rest : List Token} {n : Nat}
    (read : chain (fun t => if t = .symbol .or then some .or else none) (conjunction nested) left n
      (.symbol .or :: (types.flatMap testTokens ++ .word "resource" :: .word "is" :: ts)) =
        some (e, rest)) : rest.head? ≠ some (.symbol .parenClose) := by
  induction types generalizing left n with
  | nil =>
    cases n with
    | zero => cases read; simp
    | succ n =>
      simp only [chain, run_bind, peek_eq, List.head?_cons, Option.bind_some, ↓reduceIte,
        discard_token, List.flatMap_nil, List.nil_append] at read
      obtain ⟨⟨right, behind⟩, operand, others⟩ := Option.bind_eq_some_iff.mp read
      have minus := conjunction_noName h operand
      rw [chain_stop (by rw [minus]; rfl)] at others
      cases others
      simp [minus]
  | cons type types ih =>
    obtain ⟨first, names⟩ := List.forall_mem_cons.mp names
    cases n with
    | zero => cases read; simp
    | succ n =>
      simp only [chain, run_bind, peek_eq, List.head?_cons, Option.bind_some, ↓reduceIte,
        discard_token, List.flatMap_cons, List.append_assoc, conjunction_testTokens first] at read
      exact ih names read

theorem disjunction_noName {e : Expr} {rest : List Token} (read : disjunction nested
      (types.flatMap testTokens ++ .word "resource" :: .word "is" :: ts) = some (e, rest)) :
    rest.head? ≠ some (.symbol .parenClose) := by
  obtain ⟨left, behind, first, others⟩ := exists_of_run_bind read
  rw [run_bounded] at others
  cases types with
  | nil =>
    have minus := conjunction_noName h first
    rw [chain_stop (by rw [minus]; rfl)] at others
    cases others
    simp [minus]
  | cons type types =>
    obtain ⟨isName, names⟩ := List.forall_mem_cons.mp names
    rw [List.flatMap_cons, List.append_assoc, conjunction_testTokens isName] at first
    cases first
    exact chain_noName names h others

omit names h in
theorem head?_tests (types : List String) (rest : List Token) :
    (types.flatMap testTokens ++ .word "resource" :: rest).head? = some (.word "resource") := by
  cases types <;> rfl

theorem primary_noName (depth : Nat) : primary (expr depth)
    (.symbol .parenOpen :: (types.flatMap testTokens ++ .word "resource" :: .word "is" :: ts)) = none := by
  cases depth with
  | zero => rfl
  | succ depth =>
    rw [Option.eq_none_iff_forall_ne_some]
    rintro ⟨e, rest⟩ read
    obtain ⟨_, _, ⟨⟩, read⟩ := exists_of_run_bind read
    obtain ⟨inside, behind, nested, read⟩ := exists_of_run_bind read
    obtain ⟨_, _, close, -⟩ := exists_of_run_bind read
    have notIf := accept_other (t := .word "if") (by
      rw [head?_tests types (.word "is" :: ts)]
      rintro _ ⟨⟩
      decide)
    rw [expr, exprWith, run_bind, notIf, Option.bind_some, run_ite, if_neg Bool.false_ne_true] at nested
    have other := disjunction_noName names h nested
    cases behind with
    | nil => cases close
    | cons t behind =>
      have different : t ≠ .symbol .parenClose := by simpa using other
      simp [expect, different] at close

/-- In parentheses such tests are no expression, whatever stands behind them. -/
theorem wholeExpr_noName : wholeExpr
    (.symbol .parenOpen :: (types.flatMap testTokens ++ .word "resource" :: .word "is" :: ts)) = none := by
  rw [wholeExpr, run_bounded]
  generalize List.length _ = depth
  have open' : ∀ t ∈ (Token.symbol .parenOpen ::
      (types.flatMap testTokens ++ .word "resource" :: .word "is" :: ts)).head?,
      t ≠ .symbol .not ∧ t ≠ .symbol .minus ∧ t ≠ .word "if" := by
    rintro _ ⟨⟩
    decide
  rw [expr, exprWith, run_bind, accept_other fun t ht => (open' t ht).2.2]
  simp [disjunction, conjunction, relation, sum, product, level, unary, member,
    countSymbol_none fun t ht => (open' t ht).1, countSymbol_none fun t ht => (open' t ht).2.1,
    primary_noName names h depth]

end

theorem clauses_noExpr {ts : List Token} (none : wholeExpr ts = .none) :
    bounded clauses (.word "when" :: .symbol .braceOpen :: ts) = .none := by
  simp [clauses, none]

end Parser

end ClusterPolicy.Cedar
