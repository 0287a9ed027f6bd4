import ClusterPolicy.Proofs.CompiledPolicy.Spacing
import ClusterPolicy.Proofs.PolicyText

namespace ClusterPolicy.CompiledPolicy

open Cedar

theorem tokens_ne_nil (p : CompiledPolicy) : tokensOf p.lexemes ≠ [] := by
  simp [lexemes_eq, tokensOf_restLexemes]

theorem statements_tokens {policies : List CompiledPolicy} (h : ∀ p ∈ policies, p.IsProper)
    {n : Nat} (enough : policies.length ≤ n) :
    Parser.statements n (policies.flatMap fun p => tokensOf p.lexemes) =
      some (policies.map statement, []) := by
  induction policies generalizing n with
  | nil => cases n <;> simp [Parser.statements]
  | cons p policies ih =>
    cases n with
    | zero => simp at enough
    | succ n =>
      have others := ih (fun q hq => h q (List.mem_cons_of_mem _ hq)) (n := n) (by simpa using enough)
      have first := statement_tokens (h p List.mem_cons_self)
        (policies.flatMap fun p => tokensOf p.lexemes)
      obtain ⟨t, more, ht⟩ := List.exists_cons_of_ne_nil (tokens_ne_nil p)
      rw [ht, List.cons_append] at first
      simp [Parser.statements, ht, first, others]

theorem length_le_flatMap (policies : List CompiledPolicy) :
    policies.length ≤ (policies.flatMap fun p => tokensOf p.lexemes).length := by
  induction policies with
  | nil => simp
  | cons p policies ih =>
    have := List.length_pos_of_ne_nil (tokens_ne_nil p)
    simp only [List.flatMap_cons, List.length_append, List.length_cons]
    omega

section
variable {p : CompiledPolicy}

theorem toList_text (p : CompiledPolicy) : p.text.toList = textOf p.lexemes := String.toList_ofList

/-- The engine reads the characters that are written. -/
theorem toCedar?_eq (p : CompiledPolicy) : p.toCedar? =
    match (Token.scan? (textOf p.lexemes)).bind (Parser.bounded Parser.statements) with
    | some ([statement], _) => statement.policy?.map fun build => build p.id
    | _ => none := by
  unfold toCedar? parseStatements?
  rw [toList_text]
  cases Token.scan? (textOf p.lexemes) with
  | none => rfl
  | some ts =>
    simp only [Option.bind_eq_bind, Option.bind_some]
    cases Parser.bounded Parser.statements ts with
    | none => rfl
    | some read => rcases read with ⟨_ | ⟨_, _ | _⟩, _⟩ <;> rfl

theorem parseStatements?_text (h : p.IsProper) : parseStatements? p.text = some [p.statement] := by
  have read := statements_tokens (List.forall_mem_singleton.mpr h) (length_le_flatMap [p])
  simp only [List.flatMap_cons, List.flatMap_nil, List.append_nil, List.map_cons, List.map_nil] at read
  simp [parseStatements?, toList_text, scan?_textOf (spaced_lexemes h none), read]

/-- The engine takes a proper policy, with the parts that it was compiled to. -/
theorem toCedar?_of_isProper (h : p.IsProper) : p.toCedar? = some p.asCedar := by
  rw [toCedar?, parseStatements?_text h]
  rfl

theorem eq_asCedar (h : p.IsProper) {q : Policy} (converted : p.toCedar? = some q) : q = p.asCedar :=
  Option.some.inj (converted.symm.trans (toCedar?_of_isProper h))

/-- Whatever the text is read as goes under the policy's id. -/
theorem id_of_toCedar? {q : Policy} (converted : p.toCedar? = some q) : q.id = p.id := by
  unfold toCedar? at converted
  split at converted
  · rename_i s read
    obtain ⟨build, isBuild, rfl⟩ := Option.map_eq_some_iff.mp converted
    rcases isOf_of_parseStatements? read s List.mem_cons_self with template | ⟨r, isOf⟩
    · cases template.symm.trans isBuild
    · cases isOf.policy.symm.trans isBuild
      rfl
  · cases converted

end

end ClusterPolicy.CompiledPolicy
