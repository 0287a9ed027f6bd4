import ClusterPolicy.Proofs.Cel.Chains
import ClusterPolicy.Proofs.Cel.Literal

namespace ClusterPolicy.Cel.Parser

variable {nested : Parser Expr}

/-! ## Brackets -/

section
variable {c : Char} {rest : List Char}

def isClosing (c : Char) : Bool := c = ')' || c = ']' || c = '\x7d'

theorem ends_closing (h : isClosing c = true) (rest : List Char) : Ends 1 (c :: rest) := by
  simp only [isClosing, Bool.or_eq_true, decide_eq_true_eq] at h
  rcases h with (rfl | rfl) | rfl <;> exact ends_visible (by decide) (by decide) (by decide) rest

theorem peek_closing (h : isClosing c = true) (rest : List Char) : peek (c :: rest) = some c := by
  simp only [isClosing, Bool.or_eq_true, decide_eq_true_eq] at h
  rcases h with (rfl | rfl) | rfl <;> exact peek_visible (by decide) rest

theorem not_comma (h : isClosing c = true) (rest : List Char) : peek (c :: rest) ≠ some ',' := by
  rw [peek_closing h]
  rintro ⟨⟩
  cases h

theorem symbol_cons {text : String} {before : List Char} (single : text.toList = [c])
    (blank : Blank before) (shown : visible c = true) (rest : List Char) :
    symbol text (before ++ c :: rest) = .ok () rest := by
  apply symbol_of_skip
  rw [blank, skipBlanks_visible shown, single]
  rfl

theorem symbol_other {text : String} {d : Char} {before : List Char}
    (starts : text.toList.head? = some d) (blank : Blank before) (shown : visible c = true)
    (different : c ≠ d) (s : List Char) : Misses (symbol text) (before ++ c :: s) := by
  apply symbol_misses starts
  rw [peek_blank blank, peek_visible shown]
  exact fun same => different (Option.some.inj same)

theorem enclosed_append (opening closing : Char) (inside rest : List Char) :
    opening :: (inside ++ [closing]) ++ rest = opening :: (inside ++ closing :: rest) := by
  simp

theorem closeWith_closing {text : String} (single : text.toList = [c]) (shown : visible c = true)
    (h : isClosing c = true) (rest : List Char) : closeWith text (c :: rest) = .ok () rest := by
  have none : Misses (symbol ",") (c :: rest) := symbol_misses rfl (not_comma h rest)
  have closing : symbol text (c :: rest) = .ok () rest := symbol_cons single blank_nil shown rest
  simp only [closeWith, run_bind, run_discard, none.optional, Outcome.ok_next, run_pure]
  exact commit_ok closing

/-- A name or an expression, a colon and an expression. -/
def pair {α : Type} (key : Parser α) (nested : Parser Expr) : Parser (α × Expr) := do
  let a ← key
  commit (symbol ":")
  return (a, ← nested.commit)

theorem takes_pair {α : Type} {key : Parser α} {text value : List Char} {a : α} {v : Expr}
    (hk : Takes key 1 text a) (hv : Takes nested 1 value v) :
    Takes (pair key nested) 1 (text ++ ':' :: ' ' :: value) (a, v) := by
  intro before rest blank ends
  have colon : Ends 1 (':' :: ' ' :: (value ++ rest)) :=
    ends_visible (by decide) (by decide) (by decide) _
  have between : symbol ":" (':' :: ' ' :: (value ++ rest)) = .ok () (' ' :: (value ++ rest)) :=
    symbol_cons rfl blank_nil (by decide) _
  have read : nested (' ' :: (value ++ rest)) = .ok v rest := hv blank_space ends
  have whole : text ++ ':' :: ' ' :: value ++ rest = text ++ ':' :: ' ' :: (value ++ rest) := by simp
  simp only [whole, pair, run_bind, hk blank colon, Outcome.ok_next, commit_ok between,
    commit_ok read, run_pure]

theorem takes_ident {name : String} (h : isIdent name = true) : Takes ident 1 name.toList name :=
  fun _ _ blank ends => ident_isIdent blank h fun c hc => (ends.apart c hc).1

/-- A list in brackets, read item by item. -/
theorem run_enclosed {α β : Type} {item : Parser α} {opening closing : Parser Unit}
    {texts : List (List Char)} {as : List α} {s : List Char} (shuts : isClosing c = true)
    (opens : opening s = .ok () (Printed.separated texts ++ c :: rest))
    (closes : closing (c :: rest) = .ok () rest) (each : List.Forall₂ (Takes item 1) texts as)
    (none : Misses item (c :: rest)) (f : List α → β) :
    (do
      opening
      let values ← items (symbol ",") item
      closing
      return f values : Parser β) s = .ok (f as) rest := by
  have read := items_separated (ends_closing shuts rest) (not_comma shuts rest) each none
  simp only [run_bind, opens, Outcome.ok_next, read, closes, run_pure]

/-- No expression starts with a closing bracket. -/
def Closes (nested : Parser Expr) : Prop :=
  ∀ c rest, isClosing c = true → Misses nested (c :: rest)

variable {texts : List (List Char)} {as : List Expr} (closes : Closes nested)
include closes

theorem arguments_separated (each : List.Forall₂ (Takes nested 1) texts as) (rest : List Char) :
    arguments nested ('(' :: (Printed.separated texts ++ ')' :: rest)) = .ok as rest := by
  have opening : symbol "(" ('(' :: (Printed.separated texts ++ ')' :: rest)) =
      .ok () (Printed.separated texts ++ ')' :: rest) := symbol_cons rfl blank_nil (by decide) _
  have closing : symbol ")" (')' :: rest) = .ok () rest := symbol_cons rfl blank_nil (by decide) _
  exact run_enclosed rfl opening (commit_ok closing) each (closes ')' rest rfl) fun values => values

theorem list_separated (each : List.Forall₂ (Takes nested 1) texts as) (rest : List Char) :
    list nested ('[' :: (Printed.separated texts ++ ']' :: rest)) = .ok (.list as) rest := by
  have opening : exactly ['['] ('[' :: (Printed.separated texts ++ ']' :: rest)) =
      .ok () (Printed.separated texts ++ ']' :: rest) := exactly_append ['['] _
  exact run_enclosed rfl opening (closeWith_closing rfl (by decide) rfl rest) each
    (closes ']' rest rfl) Expr.list

theorem map_separated {entries : List (Expr × Expr)}
    (each : List.Forall₂ (Takes (pair nested nested) 1) texts entries) (rest : List Char) :
    map nested ('\x7b' :: (Printed.separated texts ++ '\x7d' :: rest)) = .ok (.map entries) rest := by
  have opening : exactly ['\x7b'] ('\x7b' :: (Printed.separated texts ++ '\x7d' :: rest)) =
      .ok () (Printed.separated texts ++ '\x7d' :: rest) := exactly_append ['\x7b'] _
  exact run_enclosed rfl opening (closeWith_closing rfl (by decide) rfl rest) each
    ((closes '\x7d' rest rfl).bind _) Expr.map

omit closes in
theorem fields_separated {values : List (String × Expr)}
    (each : List.Forall₂ (Takes (pair ident nested) 1) texts values) (rest : List Char) :
    fields nested ('\x7b' :: (Printed.separated texts ++ '\x7d' :: rest)) = .ok values rest := by
  have noName : Misses ident ('\x7d' :: rest) := ⟨'\x7d' :: rest, rfl⟩
  have opening : symbol "\x7b" ('\x7b' :: (Printed.separated texts ++ '\x7d' :: rest)) =
      .ok () (Printed.separated texts ++ '\x7d' :: rest) := symbol_cons rfl blank_nil (by decide) _
  exact run_enclosed rfl opening (closeWith_closing rfl (by decide) rfl rest) each
    (noName.bind _) fun values => values

end

/-! ## Operands -/

section
variable {text before rest : List Char} {e : Expr} (blank : Blank before)

def brackets (nested : Parser Expr) : List (Parser Expr) :=
  [parenthesized nested, list nested, map nested]

theorem primary_eq {c : Char} (blank : Blank before) (shown : visible c = true) (s : List Char) :
    primary nested (before ++ c :: s) =
      firstOf (identOrCall nested) (brackets nested ++ [Expr.literal <$> literal]) (c :: s) := by
  rw [primary, run_bind]
  simp only [blanks, blank _, skipBlanks_visible shown, Outcome.ok_next]
  rfl

theorem exactly_other {c d : Char} (different : c ≠ d) (s : List Char) :
    Misses (exactly [d]) (c :: s) :=
  exactly_misses fun starts => different (List.cons_prefix_cons.mp starts).1.symm

theorem brackets_miss {c : Char} (other : c ≠ '(' ∧ c ≠ '[' ∧ c ≠ '\x7b') (s : List Char) :
    ∀ p ∈ brackets nested, Misses p (c :: s) := by
  simp only [brackets, List.forall_mem_cons]
  exact ⟨(exactly_other other.1 s).bind _, (exactly_other other.2.1 s).bind _,
    (exactly_other other.2.2 s).bind _, nofun⟩

/-- What a word, a number or a string starts with is no bracket and no sign. -/
theorem visible_of_start {c : Char} (h : identPart c = true ∨ c = '"') : visible c = true ∧
    (c ≠ '(' ∧ c ≠ '[' ∧ c ≠ '\x7b') ∧ c ≠ '!' ∧ c ≠ '-' := by
  have ne : ∀ d, identPart d = false → d ≠ '"' → c ≠ d := by
    rintro d notPart notQuote rfl
    rcases h with isPart | rfl
    · rw [notPart] at isPart
      cases isPart
    · exact notQuote rfl
  refine ⟨?_, ⟨ne _ rfl (by decide), ne _ rfl (by decide), ne _ rfl (by decide)⟩,
    ne _ rfl (by decide), ne _ rfl (by decide)⟩
  rcases h with isPart | rfl
  · exact visible_of_identPart isPart
  · rfl

/-- What is read at the lowest level may stand in parentheses as an operand. -/
theorem takes_parenthesized (inside : Takes nested 1 text e) :
    Takes (primary nested) 10 ('(' :: (text ++ [')'])) e := by
  intro before rest blank _
  have opening : exactly ['('] ('(' :: (text ++ ')' :: rest)) = .ok () (text ++ ')' :: rest) :=
    exactly_append ['('] _
  have read : nested (text ++ ')' :: rest) = .ok e (')' :: rest) :=
    inside blank_nil (ends_closing rfl rest)
  have closing : symbol ")" (')' :: rest) = .ok () rest := symbol_cons rfl blank_nil (by decide) _
  rw [enclosed_append, primary_eq blank (by decide)]
  refine firstOf_ok [] _ nofun ?_
  simp only [parenthesized, run_bind, opening, Outcome.ok_next, commit_ok read, commit_ok closing,
    run_pure]

theorem takes_list {texts : List (List Char)} {as : List Expr} (closes : Closes nested)
    (each : List.Forall₂ (Takes nested 1) texts as) :
    Takes (primary nested) 10 ('[' :: (Printed.separated texts ++ [']'])) (.list as) := by
  intro before rest blank _
  have notParen : Misses (parenthesized nested) ('[' :: (Printed.separated texts ++ ']' :: rest)) :=
    (exactly_other (by decide) _).bind _
  rw [enclosed_append, primary_eq blank (by decide)]
  exact firstOf_ok [_] _ (List.forall_mem_singleton.mpr notParen) (list_separated closes each rest)

theorem takes_map {texts : List (List Char)} {entries : List (Expr × Expr)} (closes : Closes nested)
    (each : List.Forall₂ (Takes (pair nested nested) 1) texts entries) :
    Takes (primary nested) 10 ('\x7b' :: (Printed.separated texts ++ ['\x7d'])) (.map entries) := by
  intro before rest blank _
  have others : ∀ p ∈ [parenthesized nested, list nested],
      Misses p ('\x7b' :: (Printed.separated texts ++ '\x7d' :: rest)) := by
    simp only [List.forall_mem_cons]
    exact ⟨(exactly_other (by decide) _).bind _, (exactly_other (by decide) _).bind _, nofun⟩
  rw [enclosed_append, primary_eq blank (by decide)]
  exact firstOf_ok [_, _] _ others (map_separated closes each rest)

theorem takes_literal {v : Literal} (notDouble : ∀ x, v ≠ .double x) (unsigned : v.printed.level = 8) :
    Takes (primary nested) 9 v.printed.chars (.literal v) := by
  intro before rest blank ends
  obtain ⟨c, more, shape, start⟩ := Literal.exists_head notDouble unsigned
  obtain ⟨shown, other, -⟩ := visible_of_start start
  have read : (Expr.literal <$> literal) (v.printed.chars ++ rest) = .ok (.literal v) rest := by
    rw [run_map, literal_printed notDouble unsigned ends]
    rfl
  rw [shape, List.cons_append] at read ⊢
  rw [primary_eq blank shown]
  exact firstOf_ok _ [] (brackets_miss other _) read

/-- A name is left for last. -/
theorem primary_ident {name : String} (h : isIdent name = true) (blank : Blank before)
    (apart : ∀ c ∈ rest.head?, identPart c = false ∧ c ≠ '"' ∧ c ≠ '\'') :
    primary nested (before ++ (name.toList ++ rest)) = identOrCall nested (name.toList ++ rest) := by
  obtain ⟨c, more, letters, starts, parts, free⟩ := exists_of_isIdent h
  have isPart : identPart c = true := parts c (letters ▸ List.mem_cons_self)
  obtain ⟨shown, other, -⟩ := visible_of_start (.inl isPart)
  have notDigit : ∀ d ∈ (name.toList ++ rest).head?, Text.isDigit 10 d = false := by
    rw [letters]
    rintro _ ⟨⟩
    exact isDigit_of_identStart starts
  have notLiteral : Misses literal (name.toList ++ rest) :=
    literal_misses parts notDigit (by rwa [String.ofList_toList]) apart
  have others : ∀ p ∈ brackets nested ++ [Expr.literal <$> literal], Misses p (name.toList ++ rest) := by
    rw [List.forall_mem_append, List.forall_mem_singleton]
    refine ⟨?_, notLiteral.bind _⟩
    rw [letters]
    exact brackets_miss other _
  have step : firstOf (identOrCall nested) (brackets nested ++ [Expr.literal <$> literal])
      (name.toList ++ rest) = identOrCall nested (name.toList ++ rest) := Misses.firstOf others
  rw [letters] at step ⊢
  exact (primary_eq blank shown _).trans step

theorem takes_word {name : String} (h : isIdent name = true) :
    Takes (primary nested) 10 name.toList (.ident name) := by
  intro before rest blank ends
  have apart : ∀ c ∈ rest.head?, identPart c = false := fun c hc => (ends.apart c hc).1
  have read : ident (name.toList ++ rest) = .ok name rest := ident_isIdent blank_nil h apart
  have noCall : Misses (arguments nested) rest :=
    (symbol_misses rfl (ends.peek_ne (by decide))).bind _
  rw [primary_ident h blank ends.apart]
  simp only [identOrCall, run_bind, read, Outcome.ok_next, noCall.optional, run_pure]

/-- What a call of a function by this name stands for. -/
def applied (name : String) (as : List Expr) : Parser Expr :=
  if name = "has" then
    match as with
    | [.select operand field false] => return .select operand field true
    | _ => fail .hasArgument
  else return .call name as

theorem primary_called {name : String} {texts : List (List Char)} {as : List Expr}
    (h : isIdent name = true) (closes : Closes nested) (each : List.Forall₂ (Takes nested 1) texts as)
    (blank : Blank before) (rest : List Char) :
    primary nested (before ++ (name.toList ++ '(' :: (Printed.separated texts ++ [')']) ++ rest)) =
      applied name as rest := by
  have apart : ∀ c ∈ ('(' :: (Printed.separated texts ++ ')' :: rest)).head?,
      identPart c = false ∧ c ≠ '"' ∧ c ≠ '\'' := by
    rintro _ ⟨⟩
    decide
  have read : ident (name.toList ++ '(' :: (Printed.separated texts ++ ')' :: rest)) =
      .ok name ('(' :: (Printed.separated texts ++ ')' :: rest)) :=
    ident_isIdent blank_nil h fun c hc => (apart c hc).1
  rw [List.append_assoc, enclosed_append, primary_ident h blank apart]
  simp only [identOrCall, run_bind, read, Outcome.ok_next,
    optional_ok (arguments_separated closes each rest)]
  rfl

theorem takes_call {name : String} {texts : List (List Char)} {as : List Expr} (h : isIdent name = true)
    (plain : name ≠ "has") (closes : Closes nested) (each : List.Forall₂ (Takes nested 1) texts as) :
    Takes (primary nested) 10 (name.toList ++ '(' :: (Printed.separated texts ++ [')']))
      (.call name as) := by
  intro before rest blank _
  rw [primary_called h closes each blank]
  unfold applied
  rw [if_neg plain]
  rfl

theorem takes_has {operand : Expr} {field : String} (closes : Closes nested)
    (each : Takes nested 1 text (.select operand field false)) :
    Takes (primary nested) 10 ("has".toList ++ '(' :: (Printed.separated [text] ++ [')']))
      (.select operand field true) := by
  intro before rest blank _
  exact primary_called (by decide) closes (.cons each .nil) blank rest

theorem ident_misses {c : Char} (shown : visible c = true) (other : identStart c = false)
    (s : List Char) : Misses ident (c :: s) := by
  refine ⟨c :: s, ?_⟩
  rw [ident, run_bind]
  simp only [blanks, skipBlanks_visible shown, Outcome.ok_next, bareIdent, other, Bool.false_and,
    Bool.false_eq_true, ↓reduceIte]

/-- No operand starts with a closing bracket. -/
theorem primary_closing {c : Char} (h : isClosing c = true) (s : List Char) :
    Misses (primary nested) (c :: s) := by
  have other : visible c = true ∧ (c ≠ '(' ∧ c ≠ '[' ∧ c ≠ '\x7b') ∧ Text.isDigit 10 c = false ∧
      identStart c = false ∧ identPart c = false ∧ c ≠ '"' ∧ c ≠ '\'' := by
    simp only [isClosing, Bool.or_eq_true, decide_eq_true_eq] at h
    rcases h with (rfl | rfl) | rfl <;> decide
  obtain ⟨shown, notOpening, notDigit, notStart, apart⟩ := other
  have notLiteral : Misses literal ([] ++ c :: s) :=
    literal_misses nofun (by rintro _ ⟨⟩; exact notDigit) (by decide) (by rintro _ ⟨⟩; exact apart)
  have others : ∀ p ∈ brackets nested ++ [Expr.literal <$> literal], Misses p (c :: s) := by
    rw [List.forall_mem_append, List.forall_mem_singleton]
    exact ⟨brackets_miss notOpening s, notLiteral.bind _⟩
  obtain ⟨rest, missed⟩ : Misses (identOrCall nested) (c :: s) := (ident_misses shown notStart s).bind _
  exact ⟨rest, (primary_eq blank_nil shown s).trans ((Misses.firstOf others).trans missed)⟩

end

/-! ## Members -/

section
variable {text : List Char} {e : Expr}

theorem grows_of_primary (h : Takes (primary nested) 10 text e) : Grows nested 9 text e :=
  fun _ _ blank ends => ⟨e, _, 0, h blank ends, Nat.le_of_eq (Nat.zero_add _), fun _ => rfl⟩

theorem reads_of_primary (h : Takes (primary nested) 9 text e) : Reads nested 8 text e := by
  intro before rest blank ends
  have ends' : Ends 9 rest := ends.mono (Nat.le_succ 8)
  change member nested (before ++ (text ++ rest)) = _
  rw [member_eq, run_bind, h blank ends', Outcome.ok_next, run_bounded,
    steps_stop (suffix?_none ends' e)]

/-- Behind a point, up to what follows the name. -/
theorem suffix?_point {field : String} (h : isIdent field = true) {rest : List Char}
    (apart : ∀ c ∈ rest.head?, identPart c = false) (left : Expr) :
    suffix? nested left ('.' :: (field.toList ++ rest)) =
      (do
        match ← (arguments nested).optional with
        | some values => return some (.ofMethod left field values)
        | none => return some (.select left field false) : Parser (Option Expr)) rest := by
  have point : symbol "." ('.' :: (field.toList ++ rest)) = .ok () (field.toList ++ rest) :=
    symbol_cons rfl blank_nil (by decide) _
  have name : ident (field.toList ++ rest) = .ok field rest := ident_isIdent blank_nil h apart
  rw [suffix?, bind_ok (optional_ok point)]
  exact bind_ok (commit_ok name) _

/-- A member goes on with the chain in front of it. -/
theorem Grows.select {field : String} (h : Grows nested 9 text e) (isName : isIdent field = true) :
    Grows nested 9 (text ++ '.' :: field.toList) (.select e field false) := by
  refine h.link (by simp) fun {rest} ends => ⟨ends_visible (by decide) (by decide) (by decide) _, ?_⟩
  have noCall : Misses (arguments nested) rest :=
    (symbol_misses rfl (ends.peek_ne (by decide))).bind _
  change suffix? nested e ('.' :: (field.toList ++ rest)) = _
  rw [suffix?_point isName fun c hc => (ends.apart c hc).1]
  simp only [run_bind, noCall.optional, Outcome.ok_next, run_pure]

theorem Grows.method {function : String} {texts : List (List Char)} {as : List Expr}
    (h : Grows nested 9 text e) (isName : isIdent function = true) (closes : Closes nested)
    (each : List.Forall₂ (Takes nested 1) texts as) :
    Grows nested 9 (text ++ '.' :: (function.toList ++ '(' :: (Printed.separated texts ++ [')'])))
      (.ofMethod e function as) := by
  refine h.link (by simp) fun {rest} ends => ⟨ends_visible (by decide) (by decide) (by decide) _, ?_⟩
  change suffix? nested e _ = _
  rw [List.cons_append, List.append_assoc, enclosed_append,
    suffix?_point isName (by rintro _ ⟨⟩; rfl)]
  simp only [run_bind, optional_ok (arguments_separated closes each rest), Outcome.ok_next, run_pure]

theorem Grows.index {inside : List Char} {position : Expr} (h : Grows nested 9 text e)
    (read : Takes nested 1 inside position) :
    Grows nested 9 (text ++ '[' :: (inside ++ [']'])) (.call "_[_]" [e, position]) := by
  refine h.link (by simp) fun {rest} ends => ⟨ends_visible (by decide) (by decide) (by decide) _, ?_⟩
  have noPoint : Misses (symbol ".") ('[' :: (inside ++ ']' :: rest)) :=
    symbol_other (d := '.') rfl blank_nil (by decide) (by decide) _
  have opening : symbol "[" ('[' :: (inside ++ ']' :: rest)) = .ok () (inside ++ ']' :: rest) :=
    symbol_cons rfl blank_nil (by decide) _
  have value : nested (inside ++ ']' :: rest) = .ok position (']' :: rest) :=
    read blank_nil (ends_closing rfl rest)
  have closing : symbol "]" (']' :: rest) = .ok () rest := symbol_cons rfl blank_nil (by decide) _
  have bracket : (symbol "[" *> nested.commit <* commit (symbol "]"))
      ('[' :: (inside ++ ']' :: rest)) = .ok position rest := by
    simp only [run_seqLeft, run_seqRight, opening, Outcome.ok_next, commit_ok value, run_bind,
      commit_ok closing, run_pure]
  change suffix? nested e _ = _
  rw [enclosed_append, suffix?, run_bind, noPoint.optional]
  simp only [Outcome.ok_next, run_bind, optional_ok bracket, run_pure]

theorem Grows.message {type : String} {texts : List (List Char)} {values : List (String × Expr)}
    (h : Grows nested 9 text e) (isPath : e.typePath? = some type)
    (each : List.Forall₂ (Takes (pair ident nested) 1) texts values) :
    Grows nested 9 (text ++ '\x7b' :: (Printed.separated texts ++ ['\x7d']))
      (.message type values) := by
  refine h.link (by simp) fun {rest} ends => ⟨ends_visible (by decide) (by decide) (by decide) _, ?_⟩
  have noPoint : Misses (symbol ".") ('\x7b' :: (Printed.separated texts ++ '\x7d' :: rest)) :=
    symbol_other (d := '.') rfl blank_nil (by decide) (by decide) _
  have noBracket : Misses (symbol "[" *> nested.commit <* commit (symbol "]"))
      ('\x7b' :: (Printed.separated texts ++ '\x7d' :: rest)) :=
    ((symbol_other (d := '[') rfl blank_nil (by decide) (by decide) _).bind _).bind _
  change suffix? nested e _ = _
  rw [enclosed_append, suffix?, run_bind, noPoint.optional]
  simp only [Outcome.ok_next, run_bind, noBracket.optional, isPath,
    optional_ok (fields_separated each rest), Option.map_some, run_pure]

end

end ClusterPolicy.Cel.Parser
