import ClusterPolicy.CompiledPolicy.Text
import ClusterPolicy.Proofs.Condition.RoundTrip
import ClusterPolicy.Proofs.SortedMap

namespace ClusterPolicy.CompiledPolicy

open Cedar Cedar.Parser

def scopeIsValid : Scope → Bool
  | .any => true
  | .equal uid | .within uid => Cedar.isName uid.type
  | .ofType type => Cedar.isName type

def isActionType (type : String) : Bool := Cedar.isName type && Cedar.basename type = "Action"

def actionIsValid : ActionScope → Bool
  | .any => true
  | .equal uid => isActionType uid.type
  | .within uids => uids.all fun uid => isActionType uid.type

def clauses? (condition : Condition) : Option (List Cedar.Clause) :=
  match condition with
  | .empty => some []
  | condition => return [⟨false, ← condition.toExpr?⟩]

/-- A policy that can be written: its keys, names and condition are ones that the grammar has. -/
structure IsProper (p : CompiledPolicy) : Prop where
  keys : ∀ e ∈ p.annotations.entries, e.1 ≠ idKey → isIdent e.1.toList = true
  principal : scopeIsValid p.principal = true
  action : actionIsValid p.action = true
  resource : scopeIsValid p.resource = true
  condition : p.condition = .empty ∨ p.condition.isProper = true

/-- All of a policy up to its resource can be written. -/
structure HasProperHead (p : CompiledPolicy) : Prop where
  keys : ∀ e ∈ p.annotations.entries, e.1 ≠ idKey → isIdent e.1.toList = true
  principal : scopeIsValid p.principal = true
  action : actionIsValid p.action = true

/-- The policy of the engine that a proper policy stands for. -/
def asCedar (p : CompiledPolicy) : Policy where
  id := p.id
  effect := p.effect
  annotations := .ofList p.writtenAnnotations
  principal := p.principal
  action := p.action
  resource := p.resource
  clauses := (clauses? p.condition).getD []

/-- The statement that its text is read as. -/
def statement (p : CompiledPolicy) : Statement :=
  ⟨.ofList p.writtenAnnotations, some fun id => { p.asCedar with id := id }⟩

section
variable {p : CompiledPolicy}

theorem IsProper.head (h : p.IsProper) : p.HasProperHead := ⟨h.keys, h.principal, h.action⟩

theorem writtenAnnotations_ident (h : p.HasProperHead) :
    ∀ e ∈ p.writtenAnnotations, isIdent e.1.toList = true := by
  intro e he
  rcases List.mem_cons.mp he with rfl | he
  · exact (by decide : isIdent "id".toList = true)
  · obtain ⟨mem, notId⟩ := List.mem_filter.mp he
    exact h.keys e mem (by simpa using notId)

theorem clauses?_of_isProper (h : p.IsProper) : clauses? p.condition = some p.asCedar.clauses := by
  rcases h.condition with empty | proper
  · simp [asCedar, empty, clauses?]
  · obtain ⟨e, he⟩ := Condition.toExpr?_of_isProper proper
    have translated : clauses? p.condition = some [⟨false, e⟩] := by
      unfold clauses?
      split
      · rename_i empty
        simp [empty, Condition.isProper] at proper
      · simp [he]
    simp [asCedar, translated]

theorem nodup_writtenAnnotations (p : CompiledPolicy) : (p.writtenAnnotations.map (·.1)).Nodup := by
  refine List.nodup_cons.mpr ⟨?_, ?_⟩
  · simp
  · have keys := SortedMap.nodup_keys p.annotations.increasing
    exact keys.sublist (List.filter_sublist.map _)

/-- The id stands in place of any annotation of that name. -/
theorem find?_annotations (p : CompiledPolicy) (key : String) : p.asCedar.annotations.find? key =
    if key = idKey then some p.id else p.annotations.find? key := by
  rw [asCedar, SortedMap.find?_ofList p.nodup_writtenAnnotations, writtenAnnotations,
    SortedMap.lookup_cons_ite]
  split
  · rfl
  · rename_i other
    exact SortedMap.lookup_filter (· ≠ idKey) (by simpa using other) _

end

/-! ## Annotations -/

def annotationTokens (a : String × String) : List Token :=
  [.symbol .atSign, .word a.1, .symbol .parenOpen, .quote a.2, .symbol .parenClose]

theorem annotations_tokens {written : List (String × String)} {rest : List Token} {n : Nat}
    (ends : ∀ t ∈ rest.head?, t ≠ .symbol .atSign) (enough : written.length ≤ n) :
    Parser.annotations n (written.flatMap annotationTokens ++ rest) = some (written, rest) := by
  induction written generalizing n with
  | nil =>
    cases n with
    | zero => rfl
    | succ n => simp [Parser.annotations, accept_other ends]
  | cons a written ih =>
    cases n with
    | zero => simp at enough
    | succ n =>
      have next := ih (n := n) (by simpa using enough)
      simp [Parser.annotations, annotationTokens, annotation, Token.word, next]

theorem bounded_annotations {written : List (String × String)} {rest : List Token}
    (ends : ∀ t ∈ rest.head?, t ≠ .symbol .atSign) :
    bounded Parser.annotations (written.flatMap annotationTokens ++ rest) = some (written, rest) := by
  have enough : written.length ≤ (written.flatMap annotationTokens).length := by
    induction written with
    | nil => simp
    | cons a written ih =>
      simp only [List.flatMap_cons, List.length_append, List.length_cons, annotationTokens]
      omega
  exact annotations_tokens ends (by rw [List.length_append]; omega)

/-! ## Scopes -/

/-- What may follow a scope. -/
def EndsScope (t : Token) : Prop := t = .symbol .comma ∨ t = .symbol .parenClose

theorem EndsScope.ne {t u : Token} (h : EndsScope t)
    (hu : u ≠ .symbol .comma ∧ u ≠ .symbol .parenClose) {rest : List Token} :
    ∀ v ∈ (t :: rest).head?, v ≠ u := by
  rintro _ ⟨⟩ rfl
  exact h.elim hu.1 hu.2

theorem uidOrSlot_ofUid {β : Type} (var : Var) (build : EntityUid → β) {uid : EntityUid}
    (valid : isName uid.type = true) (rest : List Token) :
    uidOrSlot var build (Token.ofUid uid ++ rest) = some (.fixed (build uid), rest) := by
  have read := uid_ofUid valid rest
  obtain ⟨first, more, -, ht⟩ := Token.ofName_eq uid.type
  simp only [Token.ofUid, ht, List.cons_append] at read ⊢
  simp only [uidOrSlot, run_bind, peek_eq, Option.bind_some, List.head?_cons, read, run_pure]

theorem scope_tokens (var : Var) {s : Scope} (valid : scopeIsValid s = true) {t : Token}
    (ht : EndsScope t) (rest : List Token) :
    Parser.scope var (tokensOf (scopeLexemes var.name s) ++ t :: rest) = some (.fixed s, t :: rest) := by
  have equal : accept (.symbol .equal) (t :: rest) = _ := accept_other (ht.ne (by decide))
  have within : accept (.word "in") (t :: rest) = _ := accept_other (ht.ne (by decide))
  have ofType : accept (.word "is") (t :: rest) = _ := accept_other (ht.ne (by decide))
  cases s with
  | any => simp [scopeLexemes, Parser.scope, equal, within, ofType]
  | equal uid => simp [scopeLexemes, uidLexemes, Parser.scope, uidOrSlot_ofUid var Scope.equal valid]
  | within uid =>
    simp [scopeLexemes, uidLexemes, Parser.scope, uidOrSlot_ofUid var Scope.within valid]
  | ofType type =>
    have noPath : NoPath (t :: rest) := ht.ne (by decide)
    simp [scopeLexemes, Parser.scope, name_ofName valid noPath]

theorem actionUid_ofUid {uid : EntityUid} (valid : isActionType uid.type = true)
    (rest : List Token) : actionUid (Token.ofUid uid ++ rest) = some (uid, rest) := by
  simp only [isActionType, Bool.and_eq_true, decide_eq_true_eq] at valid
  simp [actionUid, uid_ofUid valid.1, valid.2]

theorem readsItem_actionUid {uid : EntityUid} (valid : isActionType uid.type = true) :
    ReadsItem actionUid .bracketClose (Token.ofUid uid) uid where
  starts := by
    obtain ⟨first, more, -, ht⟩ := Token.ofName_eq uid.type
    rw [Token.ofUid, ht]
    exact ⟨_, _, rfl, by rintro ⟨⟩⟩
  reads _ _ _ := actionUid_ofUid valid _

theorem actionScope_tokens {s : ActionScope} (valid : actionIsValid s = true) (rest : List Token) :
    actionScope (tokensOf (actionLexemes s) ++ .symbol .comma :: rest) =
      some (s, .symbol .comma :: rest) := by
  cases s with
  | any =>
    have within : accept (.word "in") (.symbol .comma :: rest) = _ :=
      accept_other (by rintro _ ⟨⟩; decide)
    simp [actionLexemes, actionScope, within]
  | equal uid => simp [actionLexemes, uidLexemes, actionScope, actionUid_ofUid valid]
  | within uids =>
    have items : List.Forall₂ (ReadsItem actionUid .bracketClose) (uids.map Token.ofUid) uids :=
      List.forall₂_map_left_iff.mpr (List.forall₂_same.mpr fun uid mem =>
        readsItem_actionUid (List.all_eq_true.mp valid uid mem))
    have read := items_intercalate (by decide) items (.symbol .comma :: rest)
    have tokens : uids.map (tokensOf ∘ uidLexemes) = uids.map Token.ofUid :=
      List.map_congr_left fun uid _ => tokensOf_map_token _
    simp [actionLexemes, actionScope, tokensOf_intercalate, tokens, read]

/-! ## Clauses -/

/-- What a condition is written as: nothing, or one clause. -/
theorem conditionLexemes_of_clauses? {c : Condition} {cs : List Clause}
    (translated : clauses? c = some cs) : (conditionLexemes c = [] ∧ cs = []) ∨
      ∃ e, c.toExpr? = some e ∧ cs = [⟨false, e⟩] ∧ conditionLexemes c =
        [.line 0, .word "when", .blank, .symbol .braceOpen, .blank] ++ c.lexemes ++
          [.blank, .symbol .braceClose] := by
  unfold clauses? at translated
  split at translated
  · cases translated
    exact .inl ⟨rfl, rfl⟩
  · rename_i notEmpty
    simp only [Option.bind_eq_bind, Option.bind_eq_some_iff] at translated
    obtain ⟨e, he, ⟨⟩⟩ := translated
    refine .inr ⟨e, he, rfl, ?_⟩
    unfold conditionLexemes
    split
    · exact absurd rfl notEmpty
    · rfl

theorem clauses_semicolon (n : Nat) (rest : List Token) :
    Parser.clauses (n + 1) (.symbol .semicolon :: rest) = some ([], rest) := by
  simp [Parser.clauses]

theorem clauses_when {ts rest after : List Token} {e : Expr} {more : List Clause} {n : Nat}
    (body : wholeExpr (ts ++ .symbol .braceClose :: rest) = some (e, .symbol .braceClose :: rest))
    (next : Parser.clauses n rest = some (more, after)) :
    Parser.clauses (n + 1) (.word "when" :: .symbol .braceOpen :: (ts ++ .symbol .braceClose :: rest)) =
      some (⟨false, e⟩ :: more, after) := by
  simp [Parser.clauses, body, next]

theorem clauses_tokens {c : Condition} {cs : List Clause} (translated : clauses? c = some cs)
    (rest : List Token) :
    bounded Parser.clauses (tokensOf (conditionLexemes c) ++ .symbol .semicolon :: rest) =
      some (cs, rest) := by
  rcases conditionLexemes_of_clauses? translated with ⟨lexemes, rfl⟩ | ⟨e, he, rfl, lexemes⟩
  · rw [lexemes]
    exact clauses_semicolon _ rest
  · have close : Ends 0 (.symbol .braceClose :: .symbol .semicolon :: rest) := by
      rintro _ ⟨⟩
      exact .inl rfl
    have body := Condition.wholeExpr_lexemes he _ close
    have tokens : tokensOf (conditionLexemes c) ++ .symbol .semicolon :: rest =
        .word "when" :: .symbol .braceOpen ::
          (tokensOf c.lexemes ++ .symbol .braceClose :: .symbol .semicolon :: rest) := by
      simp [lexemes]
    rw [tokens, run_bounded, List.length_cons, List.length_cons]
    exact clauses_when body (by rw [List.length_append]; exact clauses_semicolon _ rest)

/-! ## Statements -/

/-- What stands before the scope of the resource. -/
def headLexemes (p : CompiledPolicy) : List Lexeme :=
  p.writtenAnnotations.flatMap (fun (key, value) => annotationLexemes key value) ++
    [.word p.effect.name, .blank, .symbol .parenOpen, .line 2] ++
    scopeLexemes "principal" p.principal ++ [.symbol .comma, .line 2] ++
    actionLexemes p.action ++ [.symbol .comma, .line 2]

/-- What stands behind it. -/
def restLexemes (p : CompiledPolicy) : List Lexeme :=
  [.line 0, .symbol .parenClose] ++ conditionLexemes p.condition ++ [.symbol .semicolon]

theorem lexemes_eq (p : CompiledPolicy) :
    p.lexemes = p.headLexemes ++ (scopeLexemes "resource" p.resource ++ p.restLexemes) := by
  simp [lexemes, headLexemes, restLexemes]

theorem tokensOf_headLexemes (p : CompiledPolicy) : tokensOf p.headLexemes =
    p.writtenAnnotations.flatMap annotationTokens ++ .word p.effect.name :: .symbol .parenOpen ::
      (tokensOf (scopeLexemes "principal" p.principal) ++ .symbol .comma ::
        (tokensOf (actionLexemes p.action) ++ [.symbol .comma])) := by
  simp [headLexemes, tokensOf_flatMap]
  rfl

theorem tokensOf_restLexemes (p : CompiledPolicy) : tokensOf p.restLexemes =
    .symbol .parenClose :: (tokensOf (conditionLexemes p.condition) ++ [.symbol .semicolon]) := by
  simp [restLexemes]

theorem effect_word (e : Effect) (rest : List Token) :
    Parser.effect (.word e.name :: rest) = some (e, rest) := by
  cases e <;> simp [Parser.effect, Effect.name]

/-- The statement of a policy's head with another resource and other clauses. -/
def statementOn (p : CompiledPolicy) (resource : Scoped Scope) (clauses : List Clause) : Statement where
  annotations := .ofList p.writtenAnnotations
  policy? :=
    match resource with
    | .fixed resource => some fun id => { p.asCedar with id, resource, clauses }
    | _ => none

/-- Behind the head, the resource and the clauses are read. -/
theorem statement_head {p : CompiledPolicy} (h : p.HasProperHead) (rest : List Token) :
    Parser.statement (tokensOf p.headLexemes ++ rest) = (do
      let resource ← Parser.scope .resource
      expectSymbol .parenClose
      return p.statementOn resource (← bounded Parser.clauses) : Parser Statement) rest := by
  have notAt (rest : List Token) : ∀ t ∈ (Token.word p.effect.name :: rest).head?,
      t ≠ .symbol .atSign := by
    rintro _ ⟨⟩
    exact word_ne_symbol _ _
  have principal := scope_tokens .principal h.principal (.inl rfl)
  simp only [Var.name] at principal
  simp only [tokensOf_headLexemes, List.append_assoc, List.cons_append, List.nil_append]
  rw [Parser.statement, run_next (bounded_annotations (notAt _)), run_next (effect_word _ _),
    run_next expectSymbol_cons, run_next (principal _), run_next expectSymbol_cons,
    run_next (actionScope_tokens h.action _), run_next expectSymbol_cons]
  simp only [if_pos p.nodup_writtenAnnotations]
  refine congrFun (bind_congr fun resource => ?_) rest
  cases resource <;> rfl

/-- The tokens of a proper policy are read as the engine's policy that it stands for. -/
theorem statement_tokens {p : CompiledPolicy} (h : p.IsProper) (rest : List Token) :
    Parser.statement (tokensOf p.lexemes ++ rest) = some (p.statement, rest) := by
  have resource := scope_tokens .resource h.resource (.inr rfl)
  simp only [Var.name] at resource
  simp only [lexemes_eq, tokensOf_append, tokensOf_restLexemes, List.append_assoc, List.cons_append,
    List.nil_append]
  rw [statement_head h.head, run_next (resource _), run_next expectSymbol_cons,
    run_next (clauses_tokens (clauses?_of_isProper h) rest)]
  rfl

end ClusterPolicy.CompiledPolicy
