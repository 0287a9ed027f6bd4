import ClusterPolicy.Proofs.Cel.Support
import Mathlib.Algebra.Order.BigOperators.Group.List
import Mathlib.Algebra.Order.Ring.Basic
import Mathlib.Data.List.MinMax

/-! How large the condition of an expression is. Only presence tests within presence tests make it grow
beyond a square. -/

namespace ClusterPolicy

namespace Condition

mutual

/-- The nodes of a condition as a tree, the way it is written. -/
def nodes : Condition → Nat
  | empty | var _ | bool _ | long _ | string _ | decimal _ | entity _ => 1
  | not a | neg a | like a _ | has a _ | access a _ | is a _ => a.nodes + 1
  | and a b | or a b | binary _ a b => a.nodes + b.nodes + 1
  | ite c a b => c.nodes + a.nodes + b.nodes + 1
  | set items => itemNodes items + 1
  | record fields => fieldNodes fields + 1

def itemNodes : List Condition → Nat
  | [] => 0
  | c :: rest => c.nodes + itemNodes rest

def fieldNodes : List (String × Condition) → Nat
  | [] => 0
  | (_, c) :: rest => c.nodes + fieldNodes rest

end

theorem nodes_both (a b : Condition) : (both a b).nodes ≤ a.nodes + b.nodes + 1 := by
  fun_induction both a b with
  | case1 b => omega
  | case2 a => omega
  | case3 a b c _ ihb ihc =>
    rw [nodes]
    omega
  | case4 a b => exact Nat.le_of_eq (by rw [nodes])

end Condition

namespace Cel

namespace Expr

mutual

/-- What is made of an expression and of what has been made of its children. -/
def fold {α : Type} (f : Expr → List α → α) (e : Expr) : α :=
  f e <| match e with
    | literal _ | ident _ => []
    | select operand _ _ => [operand.fold f]
    | call _ arguments => foldEach f arguments
    | method target _ arguments => target.fold f :: foldEach f arguments
    | list items => foldEach f items
    | map entries => foldEntries f entries
    | message _ fields => foldFields f fields
    | comprehension _ range _ body => range.fold f :: foldEach f body

def foldEach {α : Type} (f : Expr → List α → α) : List Expr → List α
  | [] => []
  | e :: rest => e.fold f :: foldEach f rest

def foldEntries {α : Type} (f : Expr → List α → α) : List (Expr × Expr) → List α
  | [] => []
  | (key, value) :: rest => key.fold f :: value.fold f :: foldEntries f rest

def foldFields {α : Type} (f : Expr → List α → α) : List (String × Expr) → List α
  | [] => []
  | (_, e) :: rest => e.fold f :: foldFields f rest

end

section
variable {α : Type} (f : Expr → List α → α)

theorem foldEach_eq (es : List Expr) : foldEach f es = es.map (fold f) := by
  induction es with
  | nil => rfl
  | cons e es ih => rw [foldEach, ih, List.map_cons]

theorem foldEntries_eq (entries : List (Expr × Expr)) :
    foldEntries f entries = (entries.flatMap fun entry => [entry.1, entry.2]).map (fold f) := by
  induction entries with
  | nil => rfl
  | cons entry entries ih =>
    rw [foldEntries, ih]
    rfl

theorem foldFields_eq (fields : List (String × Expr)) :
    foldFields f fields = (fields.map (·.2)).map (fold f) := by
  induction fields with
  | nil => rfl
  | cons field fields ih =>
    rw [foldFields, ih]
    rfl

theorem fold_eq (e : Expr) : e.fold f = f e (e.children.map (fold f)) := by
  cases e <;> simp [fold, children, foldEach_eq, foldEntries_eq, foldFields_eq]

end

/-- The nodes of an expression. -/
def nodes : Expr → Nat := fold fun _ below => below.sum + 1

/-- How many tests for presence stand in one another's operands. -/
def testDepth : Expr → Nat := fold fun e below => below.foldr max 0 + e.isTest.toNat

theorem nodes_eq (e : Expr) : e.nodes = (e.children.map nodes).sum + 1 := fold_eq _ e

theorem testDepth_eq (e : Expr) : e.testDepth = (e.children.map testDepth).foldr max 0 + e.isTest.toNat :=
  fold_eq _ e

theorem nodes_pos (e : Expr) : 0 < e.nodes := by
  rw [nodes_eq]
  exact Nat.succ_pos _

theorem testDepth_le {e child : Expr} (mem : child ∈ e.children) : child.testDepth ≤ e.testDepth := by
  rw [testDepth_eq e]
  exact Nat.le_add_right_of_le (List.le_max_of_le (List.mem_map_of_mem mem) (Nat.le_refl _))

theorem testDepth_lt {e : Expr} {n : Nat} (plain : e.isTest = false)
    (below : ∀ child ∈ e.children, child.testDepth < n + 1) : e.testDepth < n + 1 := by
  rw [testDepth_eq, plain]
  exact Nat.lt_succ_of_le (List.max_le_of_forall_le _ n (List.forall_mem_map.mpr fun child mem =>
    Nat.le_of_lt_succ (below child mem)))

theorem testDepth_present (operand : Expr) (field : String) :
    (select operand field true).testDepth = (select operand field false).testDepth + 1 := by
  simp [testDepth_eq (select operand field _), children, isTest]

/-! ## Bounds -/

/-- For the condition of an expression. -/
def bound (e : Expr) : Nat := e.nodes ^ (e.testDepth + 1)

/-- For the guards in front of a selection from it. -/
def guardBound (e : Expr) : Nat := e.nodes ^ (e.testDepth + 2)

theorem bound_pos (e : Expr) : 0 < e.bound := Nat.pow_pos e.nodes_pos

theorem guardBound_pos (e : Expr) : 0 < e.guardBound := Nat.pow_pos e.nodes_pos

theorem sum_pow_le (ns : List Nat) (k : Nat) : (ns.map (· ^ (k + 1))).sum ≤ ns.sum ^ (k + 1) := by
  induction ns with
  | nil => simp
  | cons n ns ih =>
    rw [List.map_cons, List.sum_cons, List.sum_cons]
    calc n ^ (k + 1) + (ns.map (· ^ (k + 1))).sum
      _ ≤ n ^ (k + 1) + ns.sum ^ (k + 1) := Nat.add_le_add_left ih _
      _ ≤ (n + ns.sum) ^ (k + 1) := pow_add_pow_le (Nat.zero_le _) (Nat.zero_le _) (Nat.succ_ne_zero k)

/-- The bound of an expression leaves room for a node beside its children. -/
theorem sum_bound_lt (e : Expr) : (e.children.map bound).sum < e.bound := by
  have parts : (e.children.map bound).sum ≤ (e.children.map nodes).sum ^ (e.testDepth + 1) := by
    refine Nat.le_trans ?_ (sum_pow_le (e.children.map nodes) e.testDepth)
    rw [List.map_map]
    refine List.sum_le_sum fun child mem => ?_
    exact Nat.pow_le_pow_right child.nodes_pos (Nat.succ_le_succ (testDepth_le mem))
  refine Nat.lt_of_le_of_lt parts ?_
  rw [bound, nodes_eq e]
  exact Nat.pow_lt_pow_left (Nat.lt_succ_self _) (Nat.succ_ne_zero _)

/-- The operand of a test is compiled once for the guards and once for the test. -/
theorem guardBound_add_lt (operand : Expr) :
    operand.guardBound + operand.bound < (operand.nodes + 1) ^ (operand.testDepth + 2) := by
  rw [guardBound, bound, Nat.pow_succ _ (operand.testDepth + 1), ← Nat.mul_add_one,
    Nat.pow_succ _ (operand.testDepth + 1)]
  exact Nat.mul_lt_mul_of_pos_right (Nat.pow_lt_pow_left (Nat.lt_succ_self _) (Nat.succ_ne_zero _))
    (Nat.succ_pos _)

theorem bound_present (operand : Expr) (field : String) :
    (select operand field true).bound = (operand.nodes + 1) ^ (operand.testDepth + 2) := by
  rw [bound, nodes_eq, testDepth_eq]
  simp [children, isTest]

theorem guardBound_select (operand : Expr) (field : String) :
    (select operand field false).guardBound = (operand.nodes + 1) ^ (operand.testDepth + 2) := by
  rw [guardBound, nodes_eq, testDepth_eq]
  simp [children, isTest]

end Expr

/-! ## What a compilation yields at most -/

/-- What a compilation yields, if it does, is of a kind, with no more warnings than that. -/
def Costs {α : Type} (t : Compilation α) (P : α → Prop) (most : Nat) : Prop :=
  ∀ a warnings, t = .ok (a, warnings) → P a ∧ warnings.length ≤ most

section
variable {α β : Type} {P Q : α → Prop} {R : β → Prop} {m n : Nat}

theorem Costs.pure {a : α} (h : P a) : Costs (Pure.pure a : Compilation α) P 0 := by
  rintro b warnings ⟨⟩
  exact ⟨h, Nat.le_refl 0⟩

theorem Costs.refuse (obstacle : Obstacle) : Costs (Compilation.refuse obstacle) P n := nofun

theorem Costs.warn (warning : Warning) : Costs (Compilation.warn warning) (fun _ => True) 1 := by
  rintro a warnings ⟨⟩
  exact ⟨trivial, Nat.le_refl 1⟩

/-- Two compilations behind each other cost what both do. -/
theorem Costs.bind {t : Compilation α} {f : α → Compilation β} (ht : Costs t P m)
    (hf : ∀ a, P a → Costs (f a) R n) : Costs (t >>= f) R (m + n) := by
  intro b warnings h
  obtain ⟨a, before, behind, first, next, rfl⟩ := bind_eq_ok.mp h
  obtain ⟨ha, few⟩ := ht a before first
  obtain ⟨hb, more⟩ := hf a ha b behind next
  exact ⟨hb, by rw [List.length_append]; exact Nat.add_le_add few more⟩

theorem Costs.le {t : Compilation α} (h : Costs t P m) (le : m ≤ n) : Costs t P n :=
  fun a warnings yields => ⟨(h a warnings yields).1, Nat.le_trans (h a warnings yields).2 le⟩

end

/-- At most four nodes and one warning for each of `n`. -/
abbrev Within (n : Nat) (t : Compilation Condition) : Prop := Costs t (fun c => c.nodes ≤ 4 * n) n

theorem Within.mono {t : Compilation Condition} {m n : Nat} (h : Within m t) (le : m ≤ n) : Within n t := by
  intro c warnings yields
  obtain ⟨small, few⟩ := h c warnings yields
  exact ⟨by omega, by omega⟩

theorem Within.pure {c : Condition} {n : Nat} (small : c.nodes ≤ 4 * n) : Within n (pure c) :=
  Costs.le (.pure small) (Nat.zero_le n)

theorem Literal.within_compile (l : Literal) : Within 1 l.compile := by
  cases l with
  | uint n =>
    simp only [Literal.compile]
    split
    · exact .pure (by simp [Condition.nodes])
    · exact .refuse _
  | double x =>
    simp only [Literal.compile]
    split
    · exact .refuse _
    · exact (Costs.warn _).bind fun _ _ => .pure (by simp [Condition.nodes])
  | null => exact .refuse _
  | bool | int | string | bytes => exact .pure (by simp [Condition.nodes])

/-- A function adds one node. -/
def Meaning.Grows : Meaning → Prop
  | .unary f => ∀ c, (f c).nodes = c.nodes + 1
  | .binary f => ∀ c d, (f c d).nodes = c.nodes + d.nodes + 1
  | _ => True

theorem Meaning.grows_of (function : String) : (Meaning.of function).Grows := by
  unfold Meaning.of
  split <;> simp [Grows, Condition.nodes, Condition.contains, Nat.add_comm]

namespace Expr

theorem within_compileCall {function : String} {receiver : Option (Compilation Condition)}
    {arguments : List Expr} {n : Nat} (target : ∀ t ∈ receiver, Within n t)
    (each : ∀ e ∈ arguments, Within e.bound e.compile) :
    Within (n + (arguments.map bound).sum + 1)
      (compileCall function receiver arguments (compileEach arguments)) := by
  have grows := Meaning.grows_of function
  unfold compileCall
  rw [compileEach_eq]
  cases meaning : Meaning.of function with
  | unary condition =>
    rw [meaning] at grows
    match arguments with
    | [a] =>
      simp only [List.forall_mem_singleton] at each
      simp only [List.map_cons, List.map_nil, List.sum_cons, List.sum_nil]
      refine Costs.le (each.bind fun c hc => .pure ?_) (by omega)
      rw [grows]
      omega
    | [] | _ :: _ :: _ => exact .refuse _
  | binary condition =>
    rw [meaning] at grows
    match arguments with
    | [a, b] =>
      simp only [List.forall_mem_cons] at each
      simp only [List.map_cons, List.map_nil, List.sum_cons, List.sum_nil]
      refine Costs.le (each.1.bind fun c hc => each.2.1.bind fun d hd => .pure ?_) (by omega)
      rw [grows]
      omega
    | [] | [_] | _ :: _ :: _ :: _ => exact .refuse _
  | ordering operator symbol decimalMethod =>
    match arguments with
    | [a, b] =>
      simp only [List.forall_mem_cons] at each
      simp only [List.map_cons, List.map_nil, List.sum_cons, List.sum_nil]
      refine Costs.le (each.1.bind fun c hc => each.2.1.bind fun d hd =>
        (Costs.warn _).bind fun _ _ => .pure ?_) (by omega)
      rw [Condition.nodes]
      omega
    | [] | [_] | _ :: _ :: _ :: _ => exact .refuse _
  | conditional =>
    match arguments with
    | [a, b, c] =>
      simp only [List.forall_mem_cons] at each
      simp only [List.map_cons, List.map_nil, List.sum_cons, List.sum_nil]
      refine Costs.le (each.1.bind fun x hx => each.2.1.bind fun y hy =>
        each.2.2.1.bind fun z hz => .pure ?_) (by omega)
      rw [Condition.nodes]
      omega
    | [] | [_] | [_, _] | _ :: _ :: _ :: _ :: _ => exact .refuse _
  | pattern ofText =>
    cases receiver with
    | none => exact .refuse _
    | some t =>
      dsimp only
      split
      · split
        · refine Costs.le ((target t rfl).bind fun c hc => .pure ?_) (by omega)
          rw [Condition.nodes]
          omega
        · exact .refuse _
      · exact .refuse _
  | refused obstacle => exact .refuse _

theorem costs_inOrder {es : List Expr} (each : ∀ e ∈ es, Within e.bound e.compile) :
    Costs (Compilation.inOrder (es.map compile)) (fun cs => Condition.itemNodes cs ≤ 4 * (es.map bound).sum)
      (es.map bound).sum := by
  induction es with
  | nil => exact .pure (Nat.le_refl 0)
  | cons e es ih =>
    obtain ⟨first, others⟩ := List.forall_mem_cons.mp each
    simp only [List.map_cons, List.sum_cons]
    refine Costs.le (first.bind fun c hc => (ih others).bind fun cs hcs => .pure ?_) (by omega)
    rw [Condition.itemNodes]
    omega

/-- What a parent makes of conditions in the bounds of its children is in its own. -/
theorem within_bound {e : Expr} {t : Compilation Condition}
    (h : Within ((e.children.map bound).sum + 1) t) : Within e.bound t :=
  h.mono e.sum_bound_lt

mutual

theorem within_compile (e : Expr) : Within e.bound e.compile := by
  match e with
  | literal value => exact value.within_compile.mono (bound_pos _)
  | ident name =>
    have positive := bound_pos (ident name)
    refine .pure ?_
    unfold identCondition
    split <;> simp only [Condition.resource, Condition.context, Condition.nodes] <;> omega
  | select operand field false =>
    apply within_bound
    simp only [children, List.map_cons, List.map_nil, List.sum_cons, List.sum_nil]
    refine Costs.le ((within_compile operand).bind fun c hc => .pure ?_) (by omega)
    rw [Condition.nodes]
    omega
  | select operand field true =>
    have twice := guardBound_add_lt operand
    rw [bound_present]
    refine Costs.le ((within_presence operand).bind fun g hg =>
      (within_compile operand).bind fun c hc => .pure ?_) (by omega)
    have size := Condition.nodes_both g (.has c field)
    rw [Condition.nodes] at size
    omega
  | call function arguments =>
    have call : Within (0 + (arguments.map bound).sum + 1)
        (compileCall function none arguments (compileEach arguments)) :=
      within_compileCall nofun (within_compileEach arguments)
    rw [Nat.zero_add] at call
    exact within_bound call
  | method target function arguments =>
    apply within_bound
    rw [children, List.map_cons, List.sum_cons]
    refine within_compileCall ?_ (within_compileEach arguments)
    rintro t ⟨⟩
    exact within_compile target
  | list items =>
    have inside := costs_inOrder (within_compileEach items)
    rw [← compileEach_eq] at inside
    refine within_bound (Costs.le (inside.bind fun cs hcs => .pure ?_) (Nat.le_succ _))
    rw [Condition.nodes, children]
    omega
  | map [] =>
    have positive := bound_pos (map [])
    exact .pure (by simp only [Condition.nodes, Condition.fieldNodes]; omega)
  | map [(key, value)] =>
    apply within_bound
    simp only [children, List.flatMap_cons, List.flatMap_nil, List.append_nil, List.map_cons, List.map_nil,
      List.sum_cons, List.sum_nil]
    refine Costs.le ((within_compile key).bind fun k hk => (within_compile value).bind fun v hv =>
      .pure ?_) (by omega)
    simp only [Condition.nodes, Condition.fieldNodes]
    omega
  | map (_ :: _ :: _) => exact .refuse _
  | message type fields => exact .refuse _
  | comprehension kind range name body => exact .refuse _

theorem within_presence (e : Expr) : Within e.guardBound e.presence := by
  have positive := guardBound_pos e
  match e with
  | ident name =>
    refine .pure ?_
    split <;> simp only [Condition.context, Condition.nodes] <;> omega
  | select operand field false =>
    have twice := guardBound_add_lt operand
    rw [guardBound_select]
    refine Costs.le ((within_presence operand).bind fun g hg =>
      (within_compile operand).bind fun c hc => .pure ?_) (by omega)
    have size := Condition.nodes_both g (.has c field)
    rw [Condition.nodes] at size
    omega
  | select operand field true => exact .pure (by simp only [Condition.nodes]; omega)
  | literal _ | call _ _ | method _ _ _ | list _ | map _ | message _ _ | comprehension _ _ _ _ =>
    exact .pure (by simp only [Condition.nodes]; omega)

theorem within_compileEach (es : List Expr) : ∀ e ∈ es, Within e.bound e.compile := by
  match es with
  | [] => exact nofun
  | e :: rest => exact List.forall_mem_cons.mpr ⟨within_compile e, within_compileEach rest⟩

end

end Expr

/-! ## Expressions that are read -/

theorem Produced.testDepth_lt {d : Nat} {e : Expr} (produced : Produced d e) : e.testDepth < d := by
  refine produced.induct_children (motive := fun d e => e.testDepth < d) Nat.lt_succ_of_lt ?_ ?_
  · intro d operand field less
    rw [Expr.testDepth_present]
    exact Nat.succ_lt_succ less
  · exact fun plain _ below => Expr.testDepth_lt plain below

/-- The condition of an expression that is read has at most `4 * n ^ (d + 1)` nodes, with at most
`n ^ (d + 1)` warnings, for `n` nodes and tests for presence that stand `d` deep in one another's operands. -/
theorem nodes_of_parse {source : String} {e : Expr} (parsed : parse source = .ok e) :
    e.testDepth < maxDepth ∧ ∀ c warnings, e.compile = .ok (c, warnings) →
      (c.nodes ≤ 4 * e.nodes ^ (e.testDepth + 1) ∧ warnings.length ≤ e.nodes ^ (e.testDepth + 1)) ∧
      (e.testDepth ≤ 1 → c.nodes ≤ 4 * e.nodes ^ 2 ∧ warnings.length ≤ e.nodes ^ 2) := by
  refine ⟨(produced_of_parse parsed).testDepth_lt, fun c warnings isCompiled => ?_⟩
  have bounds : c.nodes ≤ 4 * e.bound ∧ warnings.length ≤ e.bound := e.within_compile c warnings isCompiled
  refine ⟨bounds, fun shallow => ?_⟩
  have square : e.bound ≤ e.nodes ^ 2 := Nat.pow_le_pow_right e.nodes_pos (by omega)
  omega

theorem nodes_of_parse_path :
    ∃ e c warnings, parse "has(a.b.c) && a.b.c < 0.0" = .ok e ∧ e.compile = .ok (c, warnings) ∧
      e.nodes = 9 ∧ e.testDepth = 1 ∧ c.nodes ≤ 4 * 9 ^ 2 ∧ warnings.length ≤ 9 ^ 2 := by
  have reads : (parse "has(a.b.c) && a.b.c < 0.0").toOption.any (fun e =>
      e.compile.toOption.any fun _ => e.nodes = 9 && e.testDepth = 1) = true := by
    decide +kernel
  obtain ⟨e, parsed, compiles⟩ := exists_eq_ok reads
  obtain ⟨⟨c, warnings⟩, compiled, sizes⟩ := exists_eq_ok compiles
  simp only [Bool.and_eq_true, decide_eq_true_eq] at sizes
  have bounds := ((nodes_of_parse parsed).2 c warnings compiled).2 (Nat.le_of_eq sizes.2)
  rw [sizes.1] at bounds
  exact ⟨e, c, warnings, parsed, compiled, sizes.1, sizes.2, bounds⟩

/-- A test goes through its operand again for each field on the way, and so does a test in the operand. -/
theorem nodes_of_nested_tests :
    let source := "has(has(has(has(has(has(0.0.a.a.a).a.a.a).a.a.a).a.a.a).a.a.a).a.a.a)"
    ∃ e c warnings, parse source = .ok e ∧ e.compile = .ok (c, warnings) ∧
      (e.nodes = 19 ∧ c.nodes = 3641 ∧ warnings.length = 729) ∧
      ¬c.nodes ≤ 4 * e.nodes ^ 2 ∧ ¬warnings.length ≤ e.nodes ^ 2 := by
  intro source
  have reads : (parse source).toOption.any (fun e => e.compile.toOption.any fun r =>
      e.nodes = 19 && r.1.nodes = 3641 && r.2.length = 729) = true := by
    decide +kernel
  obtain ⟨e, parsed, compiles⟩ := exists_eq_ok reads
  obtain ⟨⟨c, warnings⟩, compiled, sizes⟩ := exists_eq_ok compiles
  simp only [Bool.and_eq_true, decide_eq_true_eq] at sizes
  obtain ⟨⟨nodes, large⟩, many⟩ := sizes
  refine ⟨e, c, warnings, parsed, compiled, ⟨nodes, large, many⟩, ?_⟩
  rw [nodes, large, many]
  decide

end Cel

end ClusterPolicy
