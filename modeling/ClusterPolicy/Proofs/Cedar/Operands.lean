import ClusterPolicy.Proofs.Cedar.Chains

namespace ClusterPolicy.Cedar.Parser

variable {nested : Parser Expr}

theorem primary_number {n : Nat} {v : Int64} (h : Number.long? n = some v) (rest : List Token) :
    primary nested (.number n :: rest) = some (.long v, rest) := by
  simp [primary, h]

theorem primary_string (s : String) (rest : List Token) :
    primary nested (.quote s :: rest) = some (.string s, rest) := by
  simp [primary, Token.quote]

theorem primary_bool (b : Bool) (rest : List Token) :
    primary nested (.word (if b then "true" else "false") :: rest) = some (.bool b, rest) := by
  have different : "false".toList ≠ "true".toList := by decide
  cases b <;> simp [primary, Token.word, wordExpr, different, -String.reduceToList]

theorem ne_of_keyword {s : List Char} (h : isNameSegment s = true) (word : String)
    (reserved : word ∈ keywords) : s ≠ word.toList := by
  rintro rfl
  have refused : ("__cedar" :: keywords).contains word = true := by
    simpa using Or.inr reserved
  simp only [isNameSegment, String.ofList_toList, refused] at h
  simp at h

theorem noPath_of_ends {rest : List Token} {k : Nat} (h : k ≤ 8) (ends : Ends k rest) :
    NoPath rest := by
  rintro t ht rfl
  have := ends _ ht
  simp only [Token.pull] at this
  omega

theorem primary_var (v : Var) {rest : List Token} (ends : Ends 8 rest) :
    primary nested (.word v.name :: rest) = some (.var v, rest) := by
  have name : isName v.name = true := by cases v <;> rfl
  have whole : segments v.name.toList = [v.name.toList] := by cases v <;> rfl
  have segment : isNameSegment v.name.toList = true := by cases v <;> rfl
  have known : Var.ofName? v.name = some v := by cases v <;> rfl
  have read := path_name name whole (noPath_of_ends (by decide) ends)
  simp only [Token.behindPath, List.flatMap_nil, List.nil_append] at read
  simp only [primary, Token.word, run_bind, token_cons, Option.bind_some, wordExpr,
    ne_of_keyword segment "true" (by decide),
    ne_of_keyword segment "false" (by decide), ↓reduceIte, read, known, run_pure]

theorem primary_entity {uid : EntityUid} (h : isName uid.type = true) (rest : List Token) :
    primary nested (Token.ofUid uid ++ rest) = some (.entity uid, rest) := by
  obtain ⟨first, more, hs, ht⟩ := Token.ofName_eq uid.type
  have segment : isNameSegment first = true := List.all_eq_true.mp h first (hs ▸ List.mem_cons_self)
  simp only [primary, Token.ofUid, ht, List.cons_append, List.append_assoc, List.nil_append, run_bind,
    token_cons, Option.bind_some, wordExpr, ne_of_keyword segment "true" (by decide),
    ne_of_keyword segment "false" (by decide), ↓reduceIte, path_uid h hs, run_pure]

theorem primary_decimal {ts : List Token} {e : Expr}
    (argument : ∀ rest, Ends 0 rest → nested (ts ++ rest) = some (e, rest)) (rest : List Token) :
    primary nested (.word "decimal" :: .symbol .parenOpen :: (ts ++ .symbol .parenClose :: rest)) =
      some (.decimal e, rest) := by
  have whole : segments "decimal".toList = ["decimal".toList] := rfl
  have segment : isNameSegment "decimal".toList = true := rfl
  have noPath : NoPath (.symbol .parenOpen :: (ts ++ .symbol .parenClose :: rest)) := by
    rintro _ ⟨⟩
    simp
  have close : Ends 0 (.symbol .parenClose :: rest) := by
    rintro _ ⟨⟩
    exact .inl rfl
  have read := path_name rfl whole noPath
  simp only [Token.behindPath, List.flatMap_nil, List.nil_append] at read
  simp only [primary, Token.word, run_bind, token_cons, Option.bind_some, wordExpr,
    ne_of_keyword segment "true" (by decide),
    ne_of_keyword segment "false" (by decide), ↓reduceIte, read,
    show Var.ofName? "decimal" = none from rfl, expectSymbol_eq, expect_cons, argument _ close,
    run_pure]

theorem primary_paren {ts : List Token} {e : Expr}
    (inside : ∀ rest, Ends 0 rest → nested (ts ++ rest) = some (e, rest)) (rest : List Token) :
    primary nested (.symbol .parenOpen :: (ts ++ .symbol .parenClose :: rest)) = some (e, rest) := by
  have close : Ends 0 (.symbol .parenClose :: rest) := by
    rintro _ ⟨⟩
    exact .inl rfl
  simp [primary, inside _ close]

theorem primary_set {tss : List (List Token)} {es : List Expr}
    (h : List.Forall₂ (ReadsItem nested .bracketClose) tss es) (rest : List Token) :
    primary nested (.symbol .bracketOpen ::
      ([Token.symbol .comma].intercalate tss ++ .symbol .bracketClose :: rest)) =
      some (.set es, rest) := by
  simp [primary, items_intercalate (by decide) h]

/-- A key, a colon and a value. -/
def field (nested : Parser Expr) : Parser (String × Expr) := do
  return (← recordKey, ← nested)

theorem primary_record {tss : List (List Token)} {fields : List (String × Expr)}
    (h : List.Forall₂ (ReadsItem (field nested) .braceClose) tss fields)
    (distinct : (fields.map (·.1)).Nodup) (rest : List Token) :
    primary nested (.symbol .braceOpen ::
      ([Token.symbol .comma].intercalate tss ++ .symbol .braceClose :: rest)) =
      some (.record fields, rest) := by
  have read := items_intercalate (by decide) h rest
  unfold field at read
  simp only [primary, run_bind, token_cons, Option.bind_some, read, run_ite, distinct, ↓reduceIte,
    run_pure]

/-! ## Suffixes -/

/-- One more suffix. -/
theorem Grows.suffix {ts ts' : List Token} {e e' : Expr} (h : Grows nested 7 ts e)
    (starts : ∃ t more, ts' = t :: more ∧ t.pull = 7)
    (reads : ∀ rest, Ends 8 rest → suffix? nested e (ts' ++ rest) = some (some e', rest)) :
    Grows nested 7 (ts ++ ts') e' := by
  intro rest ends
  obtain ⟨t, more, rfl, pull⟩ := starts
  have behind : Ends 8 (t :: (more ++ rest)) := by
    rintro _ ⟨⟩
    omega
  obtain ⟨a, start, chain⟩ := h _ behind
  refine ⟨a, by simpa using start, chain.tail ⟨by simpa [step?] using reads rest ends, ?_⟩⟩
  simp only [List.length_append, List.length_cons]
  omega

theorem Grows.field {ts : List Token} {e : Expr} (h : Grows nested 7 ts e) {name : List Char}
    (valid : isNameSegment name = true) :
    Grows nested 7 (ts ++ [.symbol .point, .ident name]) (.access e (String.ofList name)) := by
  apply h.suffix ⟨_, _, rfl, rfl⟩
  intro rest ends
  have noCall : rest.head? ≠ some (.symbol .parenOpen) := by
    intro hp
    have := ends _ hp
    simp [Token.pull] at this
  simp [suffix?, noCall, valid, -String.reduceToList]

theorem Grows.index {ts : List Token} {e : Expr} (h : Grows nested 7 ts e) (name : String) :
    Grows nested 7 (ts ++ [.symbol .bracketOpen, .quote name, .symbol .bracketClose])
      (.access e name) := by
  apply h.suffix ⟨_, _, rfl, rfl⟩
  intro rest _
  simp [suffix?, -String.reduceToList]

theorem Grows.contains {ts ts' : List Token} {e e' : Expr} (h : Grows nested 7 ts e)
    (argument : ∀ rest, Ends 0 rest → nested (ts' ++ rest) = some (e', rest)) :
    Grows nested 7
      (ts ++ .symbol .point :: .word "contains" :: .symbol .parenOpen :: (ts' ++ [.symbol .parenClose]))
      (.binary .contains e e') := by
  apply h.suffix ⟨_, _, rfl, rfl⟩
  intro rest _
  have close : Ends 0 (.symbol .parenClose :: rest) := by
    rintro _ ⟨⟩
    exact .inl rfl
  simp [suffix?, Token.word, argument _ close, -String.reduceToList]

end ClusterPolicy.Cedar.Parser
