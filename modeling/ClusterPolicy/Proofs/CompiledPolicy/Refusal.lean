import ClusterPolicy.Proofs.Cedar.Unnamed
import ClusterPolicy.Proofs.CompiledPolicy.Reading
import ClusterPolicy.Proofs.Condition.Connective

/-! A policy that asks for a type that is no name is not taken. -/

namespace ClusterPolicy

open Cedar

/-! ## Conditions -/

namespace Condition

theorem textOf_ofName (type : String) : textOf ((Token.ofName type).map .token) = type.toList := by
  have parts (ps : List (List Char)) : textOf (((ps.map Token.ident).intersperse (.symbol .path)).map .token) =
      [':', ':'].intercalate ps := by
    induction ps with
    | nil => rfl
    | cons p ps ih =>
      cases ps with
      | nil => simp [Lexeme.text, Token.text]
      | cons q ps =>
        rw [List.intercalate_cons_cons, ← ih]
        simp [Lexeme.text, Token.text, Symbol.text]
  rw [Token.ofName, parts, intercalate_segments]

/-- What stands before the type in a test of the resource's type. -/
def isLexemes : List Lexeme := .word "resource" :: spaced (.word "is")

def testLexemes (type : String) : List Lexeme := isLexemes ++ (Token.ofName type).map .token

/-- Tests before another. -/
def testsLexemes (names : List String) : List Lexeme :=
  names.flatMap fun name => testLexemes name ++ spaced (.symbol .or)

def orTestLexemes (type : String) : List Lexeme := spaced (.symbol .or) ++ testLexemes type

theorem either_is {c : Condition} (notEmpty : c ≠ empty) (type : String) :
    either c (.is resource type) = .or c (.is resource type) :=
  Connective.join_eq_node .or notEmpty (by rintro ⟨⟩) fun _ _ same => nomatch same

/-- Tests that are put behind a condition stand behind it. -/
theorem lexemes_foldl_either {c : Condition} (notEmpty : c ≠ empty) (tight : c.level ≠ 0)
    (types : List String) :
    ((types.map (Condition.is resource)).foldl either c).lexemes =
      c.lexemes ++ types.flatMap orTestLexemes := by
  induction types generalizing c with
  | nil => simp
  | cons type types ih =>
    have isNode : Condition.or c (.is resource type) ≠ empty := Connective.node_ne_empty .or _ _
    have alone : enclose (c.level < 1) c.lexemes = c.lexemes := by simp [enclose, tight]
    rw [List.map_cons, List.foldl_cons, either_is notEmpty, ih isNode Nat.one_ne_zero, lexemes, alone]
    simp [lexemes, enclose, level, resource, orTestLexemes, testLexemes, isLexemes, Var.name]

theorem level_foldl_either {c : Condition} (notEmpty : c ≠ empty) (type : String)
    (types : List String) :
    (((type :: types).map (Condition.is resource)).foldl either c).level = 1 := by
  induction types generalizing c type with
  | nil => rw [List.map_singleton, List.foldl_cons, List.foldl_nil, either_is notEmpty, level]
  | cons next types ih =>
    rw [List.map_cons, List.foldl_cons, either_is notEmpty]
    exact ih (Connective.node_ne_empty .or _ _) next

theorem any_tests (type : String) (types : List String) :
    any ((type :: types).map (Condition.is resource)) =
      (types.map (Condition.is resource)).foldl either (.is resource type) := by
  have isFirst : either empty (.is resource type) = .is resource type :=
    Connective.empty_join .or (.is resource type)
  rw [any, List.map_cons, List.foldl_cons, isFirst]

/-- Several tests need parentheses within a conjunction. -/
theorem level_tests {types : List String} (nonempty : types ≠ []) (several : ∀ type, types ≠ [type]) :
    (any (types.map (Condition.is resource))).level = 1 := by
  match types with
  | [] => exact absurd rfl nonempty
  | [type] => exact absurd rfl (several type)
  | first :: next :: others =>
    rw [any_tests]
    exact level_foldl_either (by rintro ⟨⟩) next others

/-- The tests of several types, with those before and behind one of them. -/
theorem lexemes_tests (names : List String) (type : String) (others : List String) :
    (any ((names ++ type :: others).map (Condition.is resource))).lexemes =
      testsLexemes names ++ (testLexemes type ++ others.flatMap orTestLexemes) := by
  have first (type : String) (types : List String) :
      (any ((type :: types).map (Condition.is resource))).lexemes =
        testLexemes type ++ types.flatMap orTestLexemes := by
    have notEmpty : Condition.is resource type ≠ empty := by rintro ⟨⟩
    rw [any_tests, lexemes_foldl_either notEmpty (by simp [level])]
    simp [lexemes, enclose, level, resource, testLexemes, isLexemes, Var.name]
  cases names with
  | nil => exact first type others
  | cons name names =>
    rw [List.cons_append, first]
    induction names generalizing name with
    | nil => simp [testsLexemes, orTestLexemes]
    | cons next names ih => simpa [testsLexemes, orTestLexemes] using ih next

theorem tokensOf_tests (names : List String) :
    tokensOf (testsLexemes names) = names.flatMap Parser.testTokens := by
  have each (name : String) :
      tokensOf (testLexemes name ++ spaced (.symbol .or)) = Parser.testTokens name := by
    simp [testLexemes, isLexemes, spaced, Parser.testTokens]
  rw [testsLexemes, tokensOf_flatMap]
  exact congrArg names.flatMap (funext each)

theorem tokensOf_isLexemes : tokensOf isLexemes = [.word "resource", .word "is"] := rfl

theorem spaced_isLexemes (next : Option Char) : Spaced next isLexemes :=
  (Printed.word (s := "resource".toList) rfl).before (b := .blank :: _) (c := ' ') rfl rfl
    ⟨rfl, by rintro _ ⟨⟩; rfl, trivial⟩

theorem spaced_tests {names : List String} (h : ∀ name ∈ names, isName name = true)
    (next : Option Char) : Spaced next (testsLexemes names) := by
  induction names with
  | nil => trivial
  | cons name names ih =>
    obtain ⟨isName, others⟩ := List.forall_mem_cons.mp h
    have test : Printed (testLexemes name) :=
      (Printed.word (s := "resource".toList) rfl).operator (t := .word "is") (.name isName) rfl rfl
    rw [testsLexemes, List.flatMap_cons, List.append_assoc]
    exact test.before (b := .blank :: _) (c := ' ') rfl rfl
      (.symbol (s := .or) (fun _ => rfl) (ih others))

theorem endsType_tests (others : List String) (rest : List Lexeme) :
    EndsType (textOf (others.flatMap orTestLexemes ++ .symbol .parenClose :: rest)) := by
  cases others with
  | nil =>
    have alone : Spaced (textOf rest).head? [.symbol .parenClose] := .symbol (fun _ => rfl) trivial
    exact .symbol alone rfl (by decide) (by rintro _ ⟨⟩; rfl)
  | cons other others =>
    rw [List.flatMap_cons, orTestLexemes, List.append_assoc, List.append_assoc, textOf_append]
    exact .symbol (s := .or) (.symbol (fun _ => rfl) trivial) rfl (by decide) (by rintro _ ⟨⟩; rfl)

/-- The first of the conditions in a conjunction stands first. -/
theorem exists_lexemes_both {a : Condition} (notEmpty : a ≠ empty) (b : Condition) :
    ∃ more, enclose ((both a b).level < 2) (both a b).lexemes = enclose (a.level < 2) a.lexemes ++ more := by
  induction a, b using Connective.induct .and with
  | left b => exact absurd rfl notEmpty
  | right a => exact ⟨[], by rw [show both a empty = a from Connective.join_empty .and a, List.append_nil]⟩
  | chain a b c a_ne ihb ihc =>
    obtain ⟨more, front⟩ := ihb a_ne
    obtain ⟨rest, whole⟩ := ihc fun none => a_ne (Connective.join_eq_empty .and |>.mp none).1
    have split : both a (Connective.and.node b c) = both (both a b) c := Connective.join_node .and a_ne b c
    refine ⟨more ++ rest, ?_⟩
    rw [split, ← List.append_assoc, ← front]
    exact whole
  | other a b a_ne b_ne other =>
    have isNode : both a b = .and a b := Connective.join_eq_node .and a_ne b_ne other
    refine ⟨spaced (.symbol .and) ++ enclose (b.level < 3) b.lexemes, ?_⟩
    rw [isNode, ← List.append_assoc]
    rfl

end Condition

/-! ## Statements -/

namespace CompiledPolicy

open Condition

variable {p : CompiledPolicy}

/-- A policy that is taken has a text whose tokens begin with a statement. -/
theorem exists_statement {q : Cedar.Policy} (converted : p.toCedar? = some q) :
    ∃ ts s rest, Token.scan? (textOf p.lexemes) = some ts ∧ Parser.statement ts = some (s, rest) := by
  unfold toCedar? at converted
  split at converted
  · rename_i s read
    unfold parseStatements? at read
    obtain ⟨ts, scanned, read⟩ := Option.bind_eq_some_iff.mp read
    obtain ⟨⟨list, rest⟩, all, ⟨⟩⟩ := Option.bind_eq_some_iff.mp read
    rw [toList_text] at scanned
    rw [Parser.run_bounded] at all
    cases ts with
    | nil => cases all
    | cons t ts =>
      simp only [List.length_cons, Parser.statements, Parser.run_bind, Parser.peek_eq, List.head?_cons,
        Option.bind_some, Option.isNone_some, Bool.false_eq_true, ↓reduceIte] at all
      obtain ⟨⟨first, behind⟩, isFirst, -⟩ := Option.bind_eq_some_iff.mp all
      exact ⟨_, first, behind, scanned, isFirst⟩
  · cases converted

/-- No policy is taken whose resource is to be of such a type. -/
theorem toCedar?_ofType (head : p.HasProperHead) {type : String}
    (rough : ∀ s ∈ segments type.toList, IsRough s) (unnamed : isName type = false)
    (about : p.resource = .ofType type) : p.toCedar? = none := by
  rw [Option.eq_none_iff_forall_ne_some]
  intro q converted
  obtain ⟨ts, s, rest, scanned, read⟩ := exists_statement converted
  have text : textOf p.lexemes =
      textOf (p.headLexemes ++ isLexemes) ++ (type.toList ++ textOf p.restLexemes) := by
    rw [lexemes_eq, about]
    simp [scopeLexemes, isLexemes, textOf_ofName]
  have ends : EndsType (textOf p.restLexemes) := by
    rw [restLexemes, List.append_assoc, textOf_append]
    exact .symbol (s := .parenClose) (.symbol (fun _ => rfl) trivial) rfl (by decide)
      (by rintro _ ⟨⟩; rfl)
  rw [text] at scanned
  obtain ⟨m, behind, found, rfl⟩ := exists_of_scanUpTo
    ((spaced_append ..).mpr ⟨spaced_headLexemes head _, spaced_isLexemes _⟩) scanned
  have noName := noName_of_scanUpTo rough unnamed ends found
  rw [tokensOf_append, List.append_assoc, statement_head head] at read
  obtain ⟨resource, rest', scope, read⟩ := Parser.exists_of_run_bind read
  obtain ⟨_, _, close, -⟩ := Parser.exists_of_run_bind read
  have minus := Parser.scope_noName noName scope
  cases rest' with
  | nil => cases close
  | cons t rest' =>
    obtain rfl := Option.some.inj minus
    cases close

/-! ## Tests in the condition -/

/-- What stands before a type in the condition, with the tests of other types before it. -/
def beforeType (p : CompiledPolicy) (names : List String) : List Lexeme :=
  p.headLexemes ++ ([.word "resource", .line 0, .symbol .parenClose, .line 0, .word "when", .blank,
    .symbol .braceOpen, .blank, .symbol .parenOpen] ++ (testsLexemes names ++ isLexemes))

theorem spaced_beforeType (head : p.HasProperHead) {names : List String}
    (isNames : ∀ name ∈ names, isName name = true) (next : Option Char) :
    Spaced next (p.beforeType names) := by
  have tests := (spaced_append next _ _).mpr ⟨spaced_tests isNames _, spaced_isLexemes next⟩
  refine (spaced_append ..).mpr ⟨spaced_headLexemes head _, ?_⟩
  refine (Printed.word (s := "resource".toList) rfl).before (b := .line 0 :: _) (c := '\n') rfl rfl
    (.symbol (fun _ => rfl) ?_)
  exact (Printed.word (s := "when".toList) rfl).before (b := .blank :: _) (c := ' ') rfl rfl
    (.symbol (fun _ => rfl) (.symbol (fun _ => rfl) tests))

theorem tokensOf_beforeType (p : CompiledPolicy) (names : List String) :
    tokensOf (p.beforeType names) = tokensOf p.headLexemes ++
      (tokensOf (scopeLexemes "resource" .any) ++ .symbol .parenClose :: .word "when" ::
        .symbol .braceOpen :: .symbol .parenOpen ::
          (names.flatMap Parser.testTokens ++ [.word "resource", .word "is"])) := by
  simp [beforeType, scopeLexemes, tokensOf_isLexemes, tokensOf_tests]

/-- No policy is taken whose condition starts with tests of types among which is such a one. -/
theorem toCedar?_tests (head : p.HasProperHead) {type : String}
    (rough : ∀ s ∈ segments type.toList, IsRough s) (unnamed : isName type = false)
    (anything : p.resource = .any) {names : List String} (more : List Lexeme)
    (isNames : ∀ name ∈ names, isName name = true)
    (lexemes : conditionLexemes p.condition = [.line 0, .word "when", .blank, .symbol .braceOpen, .blank,
      .symbol .parenOpen] ++ (testsLexemes names ++ (testLexemes type ++ more)))
    (ends : EndsType (textOf (more ++ [.symbol .semicolon]))) : p.toCedar? = none := by
  rw [Option.eq_none_iff_forall_ne_some]
  intro q converted
  obtain ⟨ts, s, rest, scanned, read⟩ := exists_statement converted
  have text : textOf p.lexemes =
      textOf (p.beforeType names) ++ (type.toList ++ textOf (more ++ [.symbol .semicolon])) := by
    rw [lexemes_eq, anything, restLexemes, lexemes]
    simp [beforeType, scopeLexemes, testLexemes, textOf_ofName]
  rw [text] at scanned
  obtain ⟨m, behind, found, rfl⟩ := exists_of_scanUpTo (spaced_beforeType head isNames _) scanned
  have noName := noName_of_scanUpTo rough unnamed ends found
  have scope := scope_tokens .resource (s := .any) rfl (.inr rfl)
  simp only [Var.name] at scope
  simp only [tokensOf_beforeType, List.append_assoc, List.cons_append, List.nil_append] at read
  rw [statement_head head, Parser.run_next (scope _), Parser.run_next Parser.expectSymbol_cons] at read
  obtain ⟨_, _, clauses, -⟩ := Parser.exists_of_run_bind read
  rw [Parser.clauses_noExpr (Parser.wholeExpr_noName isNames noName)] at clauses
  cases clauses

end CompiledPolicy

end ClusterPolicy
