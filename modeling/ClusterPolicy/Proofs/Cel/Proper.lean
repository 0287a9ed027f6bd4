import ClusterPolicy.Proofs.Cel.Compilation
import ClusterPolicy.Proofs.Condition.Plain

namespace ClusterPolicy.Cel

open Condition (IsPlain IsPlainPart children isPlain_of_children)

/-- A function makes plain conditions of plain ones. -/
def Meaning.Keeps : Meaning → Prop
  | .unary f => ∀ c, c.IsPlain → (f c).IsPlain
  | .binary f => ∀ c d, c.IsPlain → d.IsPlain → (f c d).IsPlain
  | _ => True

/-- Every function that is known makes plain conditions of plain ones. -/
theorem Meaning.keeps_of (function : String) : (Meaning.of function).Keeps := by
  unfold Meaning.of
  split <;> first
    | exact fun c hc => isPlain_of_children trivial (by simp [children, hc])
    | exact fun c d hc hd => isPlain_of_children trivial (by simp [Condition.contains, children, hc, hd])
    | trivial

theorem Literal.ensures_compile (l : Literal) : Ensures l.compile IsPlain := by
  cases l with
  | uint n =>
    simp only [Literal.compile]
    split
    · exact .pure (isPlain_of_children trivial nofun)
    · exact .refuse _
  | double x =>
    simp only [Literal.compile]
    split
    · exact .refuse _
    · exact (Ensures.warn _).bind fun _ _ => .pure (isPlain_of_children trivial nofun)
  | null => exact .refuse _
  | _ => exact .pure (isPlain_of_children trivial nofun)

theorem isPlain_identCondition (name : String) : (identCondition name).IsPlain := by
  unfold identCondition
  split
  · exact isPlain_of_children trivial nofun
  · exact isPlain_of_children trivial
      (List.forall_mem_singleton.mpr (isPlain_of_children trivial nofun))

/-- Nothing is asked, or something that can be written. -/
def IsGuard (c : Condition) : Prop := c = .empty ∨ c.IsPlain

/-- A condition behind its guards. -/
theorem IsGuard.both {guard c : Condition} (guards : IsGuard guard) (plain : c.IsPlain) :
    (Condition.both guard c).IsPlain := by
  rcases guards with rfl | guards
  · rwa [Condition.empty_both]
  · exact guards.both plain

namespace Expr

theorem ensures_compileCall {function : String} {receiver : Option (Compilation Condition)}
    {arguments : List Expr} {compiled : List (Compilation Condition)}
    (target : ∀ t, receiver = some t → Ensures t IsPlain) (each : ∀ t ∈ compiled, Ensures t IsPlain) :
    Ensures (compileCall function receiver arguments compiled) IsPlain := by
  have keeps := Meaning.keeps_of function
  unfold compileCall
  split
  · rename_i f isUnary
    rw [isUnary] at keeps
    split
    · rename_i a
      exact (each a (by simp)).bind fun c hc => .pure (keeps c hc)
    · exact .refuse _
  · rename_i f isBinary
    rw [isBinary] at keeps
    split
    · rename_i a b
      exact (each a (by simp)).bind fun c hc =>
        (each b (by simp)).bind fun d hd => .pure (keeps c d hc hd)
    · exact .refuse _
  · split
    · rename_i a b
      exact (each a (by simp)).bind fun c hc => (each b (by simp)).bind fun d hd =>
        (Ensures.warn _).bind fun _ _ =>
          .pure (isPlain_of_children trivial (by simp [children, hc, hd]))
    · exact .refuse _
  · split
    · rename_i a b c
      exact (each a (by simp)).bind fun ca ha => (each b (by simp)).bind fun cb hb =>
        (each c (by simp)).bind fun cc hc =>
          .pure (isPlain_of_children trivial (by simp [children, ha, hb, hc]))
    · exact .refuse _
  · split
    · exact .refuse _
    · rename_i t
      split
      · split
        · exact (target t rfl).bind fun c hc =>
            .pure (isPlain_of_children trivial (List.forall_mem_singleton.mpr hc))
        · exact .refuse _
      · exact .refuse _
  · exact .refuse _

mutual

/-- The condition that an expression compiles to is plain. -/
theorem ensures_compile (e : Expr) : Ensures e.compile IsPlain := by
  match e with
  | literal value => exact value.ensures_compile
  | ident name => exact .pure (isPlain_identCondition name)
  | select operand field false =>
    exact (ensures_compile operand).bind fun c hc =>
      .pure (isPlain_of_children trivial (List.forall_mem_singleton.mpr hc))
  | select operand field true =>
    exact (ensures_presence operand).bind fun g hg => (ensures_compile operand).bind fun c hc =>
      .pure (hg.both (isPlain_of_children trivial (List.forall_mem_singleton.mpr hc)))
  | call function arguments =>
    exact ensures_compileCall nofun (ensures_compileEach arguments)
  | method target function arguments =>
    refine ensures_compileCall ?_ (ensures_compileEach arguments)
    rintro t ⟨⟩
    exact ensures_compile target
  | list items =>
    exact (Ensures.inOrder (ensures_compileEach items)).bind fun cs each =>
      .pure (isPlain_of_children trivial each)
  | map entries => exact ensures_compileMap entries
  | message type fields => exact .refuse _
  | comprehension kind range name body => exact .refuse _

theorem ensures_presence (e : Expr) : Ensures e.presence IsGuard := by
  match e with
  | ident name =>
    apply Ensures.pure
    split
    · exact .inl rfl
    · exact .inr (isPlain_of_children trivial
        (List.forall_mem_singleton.mpr (isPlain_of_children trivial nofun)))
  | select operand field false =>
    exact (ensures_presence operand).bind fun g hg => (ensures_compile operand).bind fun c hc =>
      .pure (.inr (hg.both (isPlain_of_children trivial (List.forall_mem_singleton.mpr hc))))
  | select operand field true => exact .pure (.inl rfl)
  | literal _ | call _ _ | method _ _ _ | list _ | map _ | message _ _ | comprehension _ _ _ _ =>
    exact .pure (.inl rfl)

theorem ensures_compileEach (es : List Expr) : ∀ t ∈ compileEach es, Ensures t IsPlain := by
  match es with
  | [] => exact nofun
  | e :: rest => exact List.forall_mem_cons.mpr ⟨ensures_compile e, ensures_compileEach rest⟩

theorem ensures_compileMap (entries : List (Expr × Expr)) : Ensures (compileMap entries) IsPlain := by
  match entries with
  | [] => exact .pure (isPlain_of_children List.nodup_nil nofun)
  | [(key, value)] =>
    exact (ensures_compile key).bind fun c hc => (ensures_compile value).bind fun d hd =>
      .pure (isPlain_of_children (by simp [IsPlainPart]) (by simp [children, hc, hd]))
  | _ :: _ :: _ => exact .refuse _

end

end Expr

end ClusterPolicy.Cel
