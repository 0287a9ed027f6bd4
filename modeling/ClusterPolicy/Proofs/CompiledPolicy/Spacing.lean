import ClusterPolicy.Proofs.CompiledPolicy.Statement

namespace ClusterPolicy.CompiledPolicy

open Cedar

theorem spaced_annotations {written : List (String × String)}
    (idents : ∀ e ∈ written, isIdent e.1.toList = true) {next : Option Char} :
    Spaced next (written.flatMap fun (key, value) => annotationLexemes key value) := by
  induction written with
  | nil => trivial
  | cons a written ih =>
    obtain ⟨key, value⟩ := a
    have call := Printed.call (idents (key, value) List.mem_cons_self) [.quote value]
      (.quote value trivial)
    have others := ih fun e he => idents e (List.mem_cons_of_mem _ he)
    refine .symbol (s := .atSign) (fun _ => rfl) ?_
    exact (spaced_append next _ (.line 0 :: _)).mpr ⟨call.spaced ((endsWord_some '\n').mpr rfl), others⟩

theorem printed_scopeLexemes (var : String) (ident : isIdent var.toList = true) {s : Scope}
    (valid : scopeIsValid s = true) : Printed (scopeLexemes var s) := by
  have word : Printed [.word var] := .word ident
  cases s with
  | any => exact word
  | equal uid => exact word.operator (.uid valid) trivial rfl
  | within uid => exact word.operator (.uid valid) rfl rfl
  | ofType type => exact word.operator (.name valid) rfl rfl

theorem isName_of_isActionType {type : String} (h : isActionType type = true) :
    isName type = true := by
  simp only [isActionType, Bool.and_eq_true] at h
  exact h.1

theorem printed_actionLexemes {s : ActionScope} (valid : actionIsValid s = true) :
    Printed (actionLexemes s) := by
  have word : Printed [.word "action"] := .word (s := "action".toList) rfl
  cases s with
  | any => exact word
  | equal uid => exact word.operator (.uid (isName_of_isActionType valid)) trivial rfl
  | within uids =>
    have uid : ∀ uid ∈ uids, Printed (uidLexemes uid) := fun uid mem =>
      .uid (isName_of_isActionType (List.all_eq_true.mp valid uid mem))
    have list := Printed.list (List.forall_mem_map.mpr uid) .bracketOpen .bracketClose rfl
      rfl (by decide) rfl fun _ => ⟨rfl, rfl⟩
    simpa [actionLexemes, Condition.spaced] using word.operator (t := .word "in") list rfl rfl

theorem spaced_conditionLexemes {c : Condition} {cs : List Clause}
    (translated : clauses? c = some cs) (next : Option Char) : Spaced next (conditionLexemes c) := by
  rcases conditionLexemes_of_clauses? translated with ⟨lexemes, -⟩ | ⟨e, he, -, lexemes⟩
  · rw [lexemes]
    trivial
  · have body : Spaced next (c.lexemes ++ [.blank, .symbol .braceClose]) :=
      (Condition.printed_lexemes he).before (c := ' ') rfl rfl (.symbol (fun _ => rfl) trivial)
    rw [lexemes, List.append_assoc]
    exact (Printed.word (s := "when".toList) rfl).before (b := .blank :: _) (c := ' ') rfl rfl
      (.symbol (fun _ => rfl) body)

theorem spaced_headLexemes {p : CompiledPolicy} (h : p.HasProperHead) (next : Option Char) :
    Spaced next p.headLexemes := by
  have effect : Printed [.word p.effect.name] := by cases p.effect <;> exact .word rfl
  have principal := printed_scopeLexemes "principal" rfl h.principal
  have action := printed_actionLexemes h.action
  simp only [headLexemes, List.append_assoc]
  refine (spaced_append ..).mpr ⟨spaced_annotations (writtenAnnotations_ident h), ?_⟩
  refine effect.before (b := .blank :: _) (c := ' ') rfl rfl (.symbol (fun _ => rfl) ?_)
  refine principal.before (b := .symbol .comma :: _) (c := ',') rfl rfl (.symbol (fun _ => rfl) ?_)
  exact action.before (b := .symbol .comma :: _) (c := ',') rfl rfl (.symbol (fun _ => rfl) trivial)

/-- Every token of a policy that can be written ends where the next one starts. -/
theorem spaced_lexemes {p : CompiledPolicy} (h : p.IsProper) (next : Option Char) :
    Spaced next p.lexemes := by
  have resource := printed_scopeLexemes "resource" rfl h.resource
  have condition : Spaced next (conditionLexemes p.condition ++ [.symbol .semicolon]) :=
    (spaced_append ..).mpr ⟨spaced_conditionLexemes (clauses?_of_isProper h) _, .symbol (fun _ => rfl) trivial⟩
  rw [lexemes_eq, restLexemes, List.append_assoc]
  refine (spaced_append ..).mpr ⟨spaced_headLexemes h.head _, ?_⟩
  exact resource.before (b := .line 0 :: _) (c := '\n') rfl rfl (.symbol (fun _ => rfl) condition)

end ClusterPolicy.CompiledPolicy
