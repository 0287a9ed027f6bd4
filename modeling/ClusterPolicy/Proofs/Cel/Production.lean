import ClusterPolicy.Proofs.Cel.Chains
import ClusterPolicy.Proofs.Part

namespace ClusterPolicy.Cel

/-- The expressions that are read within a number of nested levels. What stands behind a bracket, or
behind the colon of a choice, is one level down; an operator's operands are not. -/
inductive Produced : Nat → Expr → Prop
  | literal {d : Nat} (value : Literal) : Produced (d + 1) (.literal value)
  | ident {d : Nat} (name : String) : Produced (d + 1) (.ident name)
  | parenthesized {d : Nat} {e : Expr} (inside : Produced d e) : Produced (d + 1) e
  | list {d : Nat} {items : List Expr} (inside : ∀ e ∈ items, Produced d e) :
      Produced (d + 1) (.list items)
  | map {d : Nat} {entries : List (Expr × Expr)}
      (keys : ∀ entry ∈ entries, Produced d entry.1) (values : ∀ entry ∈ entries, Produced d entry.2) :
      Produced (d + 1) (.map entries)
  | present {d : Nat} {operand : Expr} {field : String}
      (inside : Produced d (.select operand field false)) :
      Produced (d + 1) (.select operand field true)
  | call {d : Nat} {function : String} {arguments : List Expr} (isName : isIdent function = true)
      (inside : ∀ e ∈ arguments, Produced d e) : Produced (d + 1) (.call function arguments)
  | select {d : Nat} {operand : Expr} {field : String} (whole : Produced (d + 1) operand) :
      Produced (d + 1) (.select operand field false)
  | index {d : Nat} {operand position : Expr} (whole : Produced (d + 1) operand)
      (inside : Produced d position) : Produced (d + 1) (.call "_[_]" [operand, position])
  | method {d : Nat} {target : Expr} {function : String} {arguments : List Expr}
      (whole : Produced (d + 1) target) (isName : isIdent function = true)
      (inside : ∀ e ∈ arguments, Produced d e) : Produced (d + 1) (.method target function arguments)
  | comprehension {d : Nat} {kind : Macro} {range : Expr} {variableName : String} {body : List Expr}
      (whole : Produced (d + 1) range) (inside : ∀ e ∈ body, Produced d e) :
      Produced (d + 1) (.comprehension kind range variableName body)
  | message {d : Nat} {type : String} {fields : List (String × Expr)}
      (inside : ∀ field ∈ fields, Produced d field.2) : Produced (d + 1) (.message type fields)
  | not {d : Nat} {operand : Expr} (whole : Produced (d + 1) operand) :
      Produced (d + 1) (.call "!_" [operand])
  | negative {d : Nat} {operand : Expr} (whole : Produced (d + 1) operand) :
      Produced (d + 1) (.call "-_" [operand])
  | operation {d : Nat} (op : Operator) {left right : Expr} (hl : Produced (d + 1) left)
      (hr : Produced (d + 1) right) : Produced (d + 1) (.operation op left right)
  | conditional {d : Nat} {condition yes no : Expr} (asked : Produced (d + 1) condition)
      (hy : Produced (d + 1) yes) (inside : Produced d no) :
      Produced (d + 1) (.call "_?_:_" [condition, yes, no])

namespace Expr

/-- What stands right below an expression, in any place. -/
def children : Expr → List Expr
  | literal _ | ident _ => []
  | select operand _ _ => [operand]
  | call _ arguments => arguments
  | method target _ arguments => target :: arguments
  | list items => items
  | map entries => entries.flatMap fun entry => [entry.1, entry.2]
  | message _ fields => fields.map (·.2)
  | comprehension _ range _ body => range :: body

/-- A method is called by an identifier. -/
def IsNamed : Expr → Prop
  | method _ function _ => isIdent function = true
  | _ => True

def isTest : Expr → Bool
  | select _ _ tested => tested
  | _ => false

end Expr

/-- What holds of an expression if it holds of its children. A test is one level above what it tests. -/
theorem Produced.induct_children {motive : Nat → Expr → Prop}
    (deeper : ∀ {d e}, motive d e → motive (d + 1) e)
    (present : ∀ {d operand field}, motive d (.select operand field false) →
      motive (d + 1) (.select operand field true))
    (node : ∀ {d e}, e.isTest = false → e.IsNamed → (∀ child ∈ e.children, motive (d + 1) child) →
      motive (d + 1) e)
    {d : Nat} {e : Expr} (produced : Produced d e) : motive d e := by
  induction produced with
  | literal | ident => exact node rfl trivial nofun
  | parenthesized _ ih => exact deeper ih
  | list _ ih | call _ _ ih => exact node rfl trivial fun child mem => deeper (ih child mem)
  | map _ _ keys values =>
    refine node rfl trivial (List.forall_mem_flatMap.mpr fun entry mem => ?_)
    exact List.forall_mem_cons.mpr ⟨deeper (keys entry mem),
      List.forall_mem_singleton.mpr (deeper (values entry mem))⟩
  | present _ ih => exact present ih
  | select _ ih | not _ ih | negative _ ih =>
    exact node rfl trivial (List.forall_mem_singleton.mpr ih)
  | index _ _ whole inside =>
    exact node rfl trivial (List.forall_mem_cons.mpr
      ⟨whole, List.forall_mem_singleton.mpr (deeper inside)⟩)
  | method _ isName _ target inside =>
    exact node rfl isName (List.forall_mem_cons.mpr ⟨target, fun child mem => deeper (inside child mem)⟩)
  | comprehension _ _ range inside =>
    exact node rfl trivial (List.forall_mem_cons.mpr ⟨range, fun child mem => deeper (inside child mem)⟩)
  | message _ ih =>
    exact node rfl trivial (List.forall_mem_map.mpr fun field mem => deeper (ih field mem))
  | operation _ _ _ hl hr =>
    exact node rfl trivial (List.forall_mem_cons.mpr ⟨hl, List.forall_mem_singleton.mpr hr⟩)
  | conditional _ _ _ asked yes no =>
    exact node rfl trivial (List.forall_mem_cons.mpr
      ⟨asked, List.forall_mem_cons.mpr ⟨yes, List.forall_mem_singleton.mpr (deeper no)⟩⟩)

/-- Operators are no methods: they are called by names that no identifier has. -/
theorem Produced.isNamed {d : Nat} {e : Expr} (produced : Produced d e) :
    Everywhere Expr.children Expr.IsNamed e := by
  refine produced.induct_children (motive := fun _ e => Everywhere Expr.children Expr.IsNamed e) id ?_ ?_
  · intro d operand field each
    exact everywhere_iff.mpr ⟨trivial, (everywhere_iff.mp each).2⟩
  · intro d e _ isName below
    exact everywhere_iff.mpr ⟨isName, below⟩

namespace Parser

/-- Whatever the parser reads is of a kind. -/
def Gives {α : Type} (p : Parser α) (P : α → Prop) : Prop := ∀ s a rest, p s = .ok a rest → P a

section
variable {α β : Type} {p q : Parser α} {P Q : α → Prop} {R : β → Prop}

theorem Gives.any : Gives p fun _ => True := fun _ _ _ _ => trivial

theorem Gives.pure {a : α} (h : P a) : Gives (Pure.pure a : Parser α) P := by
  rintro s a rest ⟨⟩
  exact h

theorem Gives.fail (problem : Problem) : Gives (Parser.fail problem) P := nofun

theorem Gives.overflow : Gives Parser.overflow P := nofun

/-- What a parser reads first is known to the one behind it. -/
theorem Gives.bind {f : α → Parser β} (hp : Gives p P) (hf : ∀ a, P a → Gives (f a) R) :
    Gives (p >>= f) R := by
  intro s b rest h
  rw [run_bind] at h
  cases first : p s with
  | ok a between =>
    rw [first, Outcome.ok_next] at h
    exact hf a (hp s a between first) between b rest h
  | miss | fail | overflow => rw [first] at h; cases h

theorem Gives.seqLeft {q : Parser β} (hp : Gives p P) : Gives (p <* q) P := by
  change Gives (p >>= fun a => q >>= fun _ => Pure.pure a) P
  exact hp.bind fun a ha => any.bind fun _ _ => .pure ha

theorem Gives.seqRight {q : Parser β} (hp : Gives p P) : Gives (q *> p) P := by
  change Gives (q >>= fun _ => p) P
  exact any.bind fun _ _ => hp

theorem Gives.map {f : α → β} (hp : Gives p P) (hf : ∀ a, P a → R (f a)) : Gives (f <$> p) R :=
  hp.bind fun a ha => .pure (hf a ha)

theorem Gives.commit (hp : Gives p P) : Gives p.commit P := by
  intro s a rest h
  unfold Parser.commit at h
  split at h
  · cases h
  · exact hp s a rest h

theorem Gives.orElse (hp : Gives p P) (hq : Gives q P) : Gives (p.orElse q) P := by
  intro s a rest h
  unfold Parser.orElse at h
  split at h
  · exact hq s a rest h
  · exact hp s a rest h

theorem Gives.firstOf {last : Parser α} {before : List (Parser α)} (hl : Gives last P)
    (hb : ∀ p ∈ before, Gives p P) : Gives (Parser.firstOf last before) P := by
  induction before with
  | nil => exact hl
  | cons p before ih =>
    obtain ⟨first, others⟩ := List.forall_mem_cons.mp hb
    exact first.orElse (ih others)

theorem Gives.optional (hp : Gives p P) : Gives p.optional fun o => ∀ a ∈ o, P a := by
  intro s o rest h
  unfold Parser.optional at h
  split at h
  · rename_i a rest' read
    cases h
    rintro _ ⟨⟩
    exact hp s a _ read
  · cases h
    exact nofun
  · cases h
  · cases h

theorem Gives.bounded {f : Nat → Parser α} (h : ∀ n, Gives (f n) P) : Gives (Parser.bounded f) P :=
  fun s a rest read => h s.length s a rest read

theorem Gives.itemsUpTo {separator : Parser β} (hp : Gives p P) (n : Nat) :
    Gives (Parser.itemsUpTo separator p n) fun items => ∀ a ∈ items, P a := by
  induction n with
  | zero => exact .pure nofun
  | succ n ih =>
    refine hp.seqRight.optional.bind fun o ho => ?_
    cases o with
    | none => exact .pure nofun
    | some a => exact ih.map fun items each => List.forall_mem_cons.mpr ⟨ho a rfl, each⟩

theorem Gives.items {separator : Parser β} (hp : Gives p P) :
    Gives (Parser.items separator p) fun items => ∀ a ∈ items, P a := by
  refine hp.optional.bind fun o ho => ?_
  cases o with
  | none => exact .pure nofun
  | some a =>
    exact (Gives.bounded fun n => hp.itemsUpTo n).map fun items each =>
      List.forall_mem_cons.mpr ⟨ho a rfl, each⟩

end

theorem isIdent_of_bareIdent : Gives bareIdent fun name => isIdent name = true := by
  intro s name rest h
  unfold bareIdent at h
  split at h
  · cases h
  · rename_i c more
    dsimp only at h
    split at h
    · rename_i starts
      cases h
      rw [Bool.and_eq_true] at starts
      rw [isIdent, String.toList_ofList]
      simp only [starts.1, List.all_takeWhile, starts.2, Bool.and_self]
    · cases h

theorem isIdent_of_ident : Gives ident fun name => isIdent name = true :=
  Gives.any.bind fun _ _ => isIdent_of_bareIdent

/-! ## The grammar -/

theorem produced_ofMethod {d : Nat} {target : Expr} {function : String} {arguments : List Expr}
    (whole : Produced (d + 1) target) (isName : isIdent function = true)
    (inside : ∀ e ∈ arguments, Produced d e) : Produced (d + 1) (.ofMethod target function arguments) := by
  unfold Expr.ofMethod
  split
  · split
    · exact .comprehension whole (List.forall_mem_cons.mp inside).2
    · exact .method whole isName inside
  · exact .method whole isName inside

/-- A run of links stays on the level of its first operand if one link does. -/
theorem gives_steps {d : Nat} {step? : Expr → Parser (Option Expr)} {first : Parser Expr}
    (hf : Gives first (Produced d))
    (link : ∀ left, Produced d left → Gives (step? left) fun o => ∀ e ∈ o, Produced d e) :
    Gives (first >>= fun left => bounded (steps step? left)) (Produced d) := by
  refine hf.bind fun left hl => .bounded fun n => ?_
  induction n generalizing left with
  | zero => exact .pure hl
  | succ n ih =>
    refine (link left hl).bind fun o ho => ?_
    cases o with
    | none => exact .pure hl
    | some longer => exact ih longer (ho longer rfl)

theorem gives_level {d : Nat} {operand : Parser Expr} (h : Gives operand (Produced (d + 1)))
    (operators : List Operator) : Gives (level operators operand) (Produced (d + 1)) := by
  rw [level_eq]
  refine gives_steps h fun left hl => Gives.any.bind fun o _ => ?_
  cases o with
  | none => exact .pure nofun
  | some op => exact h.commit.bind fun right hr => .pure (by rintro _ ⟨⟩; exact .operation op hl hr)

theorem produced_negate? {d : Nat} {e f : Expr} (he : Produced (d + 1) e) (negates : e.negate? = some f) :
    Produced (d + 1) f := by
  unfold Expr.negate? at negates
  split at negates
  · split at negates <;> cases negates
    exact .literal _
  · cases negates
    exact .literal _
  · cases negates
    exact .negative he

section
variable {nested : Parser Expr} {d : Nat} (inner : Gives nested (Produced d))
include inner

theorem gives_arguments : Gives (arguments nested) fun es => ∀ e ∈ es, Produced d e :=
  Gives.any.bind fun _ _ => inner.items.bind fun _ each => Gives.any.bind fun _ _ => .pure each

theorem gives_fields : Gives (fields nested) fun fields => ∀ field ∈ fields, Produced d field.2 := by
  have field : Gives (do
      let name ← ident
      Parser.commit (symbol ":")
      return (name, ← nested.commit)) fun field => Produced d field.2 :=
    Gives.any.bind fun _ _ => Gives.any.bind fun _ _ => inner.commit.bind fun _ he => .pure he
  exact Gives.any.bind fun _ _ => field.items.bind fun _ each => Gives.any.bind fun _ _ => .pure each

theorem gives_parenthesized : Gives (parenthesized nested) (Produced (d + 1)) :=
  Gives.any.bind fun _ _ => inner.commit.bind fun _ he => Gives.any.bind fun _ _ =>
    .pure (.parenthesized he)

theorem gives_list : Gives (list nested) (Produced (d + 1)) :=
  Gives.any.bind fun _ _ => inner.items.bind fun _ each => Gives.any.bind fun _ _ => .pure (.list each)

theorem gives_map : Gives (map nested) (Produced (d + 1)) := by
  have entry : Gives (do
      let key ← nested
      Parser.commit (symbol ":")
      return (key, ← nested.commit)) fun entry => Produced d entry.1 ∧ Produced d entry.2 :=
    inner.bind fun _ hk => Gives.any.bind fun _ _ => inner.commit.bind fun _ hv => .pure ⟨hk, hv⟩
  exact Gives.any.bind fun _ _ => entry.items.bind fun _ each => Gives.any.bind fun _ _ =>
    .pure (.map (fun entry mem => (each entry mem).1) fun entry mem => (each entry mem).2)

theorem gives_identOrCall : Gives (identOrCall nested) (Produced (d + 1)) := by
  refine isIdent_of_ident.bind fun name isName => (gives_arguments inner).optional.bind fun o ho => ?_
  cases o with
  | none => exact .pure (.ident name)
  | some es =>
    have each := ho es rfl
    dsimp only
    split
    · split
      · exact .pure (.present (each _ List.mem_cons_self))
      · exact .fail _
    · exact .pure (.call isName each)

theorem gives_primary : Gives (primary nested) (Produced (d + 1)) := by
  refine Gives.any.bind fun _ _ => (gives_identOrCall inner).firstOf ?_
  simp only [List.forall_mem_cons]
  exact ⟨gives_parenthesized inner, gives_list inner, gives_map inner,
    Gives.any.map fun value _ => .literal value, nofun⟩

theorem gives_suffix? {operand : Expr} (whole : Produced (d + 1) operand) :
    Gives (suffix? nested operand) fun o => ∀ e ∈ o, Produced (d + 1) e := by
  refine Gives.any.bind fun point _ => ?_
  cases point with
  | some _ =>
    refine isIdent_of_ident.commit.bind fun name isName => (gives_arguments inner).optional.bind fun o ho => ?_
    cases o with
    | some es => exact .pure (by rintro _ ⟨⟩; exact produced_ofMethod whole isName (ho es rfl))
    | none => exact .pure (by rintro _ ⟨⟩; exact .select whole)
  | none =>
    refine inner.commit.seqRight.seqLeft.optional.bind fun o ho => ?_
    cases o with
    | some e => exact .pure (by rintro _ ⟨⟩; exact .index whole (ho e rfl))
    | none =>
      dsimp only
      split
      · exact .pure nofun
      · refine (gives_fields inner).optional.bind fun o ho => .pure ?_
        cases o with
        | none => exact nofun
        | some each => rintro _ ⟨⟩; exact .message (ho each rfl)

theorem gives_member : Gives (member nested) (Produced (d + 1)) := by
  rw [member_eq]
  exact gives_steps (gives_primary inner) fun _ => gives_suffix? inner

theorem gives_negated (signs : Nat) : Gives (negated nested signs) (Produced (d + 1)) := by
  have whole := (gives_member inner).commit
  unfold negated
  split
  · exact gives_member inner
  · split
    · exact whole
    · refine Gives.any.bind fun number _ => ?_
      cases number with
      | some value => exact .pure (.literal value)
      | none =>
        refine whole.bind fun e he => ?_
        split
        · rename_i negates
          exact .pure (produced_negate? he negates)
        · exact .overflow

theorem gives_unary : Gives (unary nested) (Produced (d + 1)) := by
  refine Gives.any.bind fun nots _ => ?_
  split
  · refine (gives_member inner).commit.bind fun e he => .pure ?_
    split
    · exact .not he
    · exact he
  · exact Gives.any.bind fun signs _ => gives_negated inner signs

theorem gives_disjunction : Gives (disjunction nested) (Produced (d + 1)) :=
  gives_level (gives_level (gives_level (gives_level (gives_level (gives_unary inner) _) _) _) _) _

theorem gives_conditional : Gives (conditional nested) (Produced (d + 1)) := by
  refine (gives_disjunction inner).bind fun condition asked => Gives.any.bind fun o _ => ?_
  cases o with
  | none => exact .pure asked
  | some _ =>
    exact (gives_disjunction inner).commit.bind fun _ hy => Gives.any.bind fun _ _ =>
      inner.commit.bind fun _ hn => .pure (.conditional asked hy hn)

end

theorem gives_expression (d : Nat) : Gives (expression d) (Produced d) := by
  induction d with
  | zero => exact .fail _
  | succ d ih => exact gives_conditional ih

end Parser

/-- Every expression that is read is one that the grammar makes. -/
theorem produced_of_parse {source : String} {e : Expr} (parsed : parse source = .ok e) :
    Produced maxDepth e := by
  have whole : (Parser.expression maxDepth <* Parser.blanks).Gives (Produced maxDepth) :=
    (Parser.gives_expression maxDepth).seqLeft
  unfold parse at parsed
  dsimp only at parsed
  split at parsed
  · rename_i read
    cases parsed
    exact whole _ _ _ read
  · cases parsed
  · cases parsed
  · cases parsed
  · cases parsed

end ClusterPolicy.Cel
