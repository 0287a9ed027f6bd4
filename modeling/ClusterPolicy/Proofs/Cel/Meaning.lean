import ClusterPolicy.Cel.Compilation
import ClusterPolicy.Proofs.Cel.Term
import ClusterPolicy.Proofs.Condition.Denotation
import ClusterPolicy.Proofs.Condition.Pattern

namespace ClusterPolicy.Cel

open Cedar (Entities Request Value)

/-- What a request and its entities are asked for. -/
abbrev Asked := Request → Entities → Option Value

/-- The condition has the value that is asked for, or fails where there is none. -/
def Denotes (c : Condition) (asked : Asked) : Prop :=
  ∃ e, c.toExpr? = some e ∧ ∀ request entities, e.outcome request entities = asked request entities

/-- The compilation yields a condition that has the value that is asked for. -/
def Means (compiled : Compilation Condition) (asked : Asked) : Prop :=
  ∃ c warnings, compiled = .ok (c, warnings) ∧ Denotes c asked

theorem Denotes.congr {c : Condition} {f g : Asked} (h : Denotes c f)
    (same : ∀ request entities, f request entities = g request entities) : Denotes c g := by
  obtain ⟨e, he, value⟩ := h
  exact ⟨e, he, fun request entities => (value request entities).trans (same request entities)⟩

/-! ## Paths -/

/-- The value at the end of a path; a path that leads nowhere has none. -/
def selected (root : String) (path : List String) : Asked :=
  fun request entities => (walkFrom request entities root path).join

/-- Whether a path leads somewhere. -/
def present (root : String) (path : List String) : Asked :=
  fun request entities => (walkFrom request entities root path).map fun v => .bool v.isSome

section
variable {root field : String} {path : List String} {request : Request} {entities : Entities}

theorem walk_append {v : Value} : walk entities v (path ++ [field]) =
    (walk entities v path).bind fun reached => step entities reached field := by
  simp [walk, List.foldlM_append]

theorem walkFrom_append : walkFrom request entities root (path ++ [field]) =
    (walkFrom request entities root path).bind fun reached => step entities reached field := by
  unfold walkFrom
  split
  · exact walk_append
  · exact @walk_append field (root :: path) entities (.record request.context)

theorem selected_append : selected root (path ++ [field]) request entities =
    (do (← (← selected root path request entities).fields? entities).lookup field) := by
  unfold selected
  rw [walkFrom_append]
  rcases walkFrom request entities root path with _ | _ | v
  · rfl
  · rfl
  · simp only [Option.bind_some, step, Option.join_some, Option.bind_eq_bind]
    cases v.fields? entities <;> rfl

theorem selection_append :
    selection root (path ++ [field]) = .select (selection root path) field false := by
  simp [selection]

theorem present_append_of_some {v : Value}
    (reached : walkFrom request entities root path = some (some v)) :
    present root (path ++ [field]) request entities =
      (do return .bool ((← v.fields? entities).lookup field).isSome) := by
  unfold present
  rw [walkFrom_append, reached]
  simp only [Option.bind_some, step]
  cases v.fields? entities <;> rfl

/-- A guard in front of a selection, and the question for a field behind it, ask for the longer
path. -/
theorem denotes_both_has {guard c : Condition} (guards : Denotes guard (present root path))
    (selects : Denotes c (selected root path)) (field : String) :
    Denotes (.both guard (.has c field)) (present root (path ++ [field])) := by
  obtain ⟨g, hg, there⟩ := guards
  obtain ⟨e, he, value⟩ := selects
  -- Only what is always there goes without a guard.
  by_cases empty : guard = .empty
  · subst empty
    cases hg
    refine ⟨.has e field, by simp [Condition.both, Condition.toExpr?, he], ?_⟩
    intro request entities
    have reached : present root path request entities = some (.bool true) :=
      (there request entities).symm
    unfold present at reached
    rcases walk : walkFrom request entities root path with _ | _ | v
    · simp [walk] at reached
    · simp [walk] at reached
    · rw [Cedar.Expr.outcome_has, value, selected, walk, present_append_of_some walk]
      rfl
  · have chain : Condition.both guard (.has c field) = .and guard (.has c field) := by
      cases guard <;> first | rfl | exact absurd rfl empty
    refine ⟨.and g (.has e field), by simp [chain, Condition.toExpr?, hg, he], ?_⟩
    intro request entities
    rw [Cedar.Expr.outcome_and, there, Cedar.Expr.outcome_has, value]
    rcases walk : walkFrom request entities root path with _ | _ | v
    · simp [present, walkFrom_append, walk]
    · simp [present, walkFrom_append, walk, step, Value.bool?]
    · rw [present_append_of_some walk]
      simp only [present, selected, walk]
      cases fields : v.fields? entities <;> simp [fields, Value.bool?]

/-- The guards in front of a selection ask whether the path to it is there. -/
theorem exists_presence (root : String) (path : List String) : ∃ guard c,
    (selection root path).presence = .ok (guard, []) ∧ (selection root path).compile = .ok (c, []) ∧
      Denotes guard (present root path) ∧ Denotes c (selected root path) := by
  -- Every step is guarded by those before it, so the path grows at its end.
  induction path using List.reverseRecOn with
  | nil =>
    by_cases object : root = "object"
    · subst object
      exact ⟨.empty, .resource, rfl, rfl, ⟨.bool true, rfl, fun _ _ => rfl⟩,
        ⟨.var .resource, rfl, fun _ _ => rfl⟩⟩
    · have walked : ∀ request entities,
          walkFrom request entities root [] = some (request.context.lookup root) := by
        intro request entities
        simp [walkFrom, object, walk, step, Value.fields?]
      refine ⟨.has .context root, .access .context root, ?_, ?_, ⟨.has (.var .context) root, rfl, ?_⟩,
        ⟨.access (.var .context) root, rfl, ?_⟩⟩
      · simp only [selection, List.foldl_nil, Expr.presence, object, if_false]
        rfl
      · simp only [selection, List.foldl_nil, Expr.compile, identCondition, object, if_false]
        rfl
      · intro request entities
        rw [Cedar.Expr.outcome_has, present, walked]
        rfl
      · intro request entities
        rw [Cedar.Expr.outcome_access, selected, walked]
        rfl
  | append_singleton path field ih =>
    obtain ⟨guard, c, guarded, compiled, guards, selects⟩ := ih
    rw [selection_append]
    refine ⟨.both guard (.has c field), .access c field, ?_, ?_, denotes_both_has guards selects field, ?_⟩
    · rw [Expr.presence, guarded, compiled]
      rfl
    · rw [Expr.compile, compiled]
      rfl
    · obtain ⟨e, he, value⟩ := selects
      refine ⟨.access e field, by simp [Condition.toExpr?, he], ?_⟩
      intro request entities
      rw [Cedar.Expr.outcome_access, value, selected_append]

example : (selection "object" ["spec", "replicas"]).presence = .ok
    (.and (.has .resource "spec") (.has (.access .resource "spec") "replicas"), []) := by rfl

end

/-! ## Operators -/

section
variable {a b c : Condition} {f g h : Asked}

theorem Denotes.and (ha : Denotes a f) (hb : Denotes b g) : Denotes (.and a b) fun request entities => do
    if ← (← f request entities).bool? then return .bool (← (← g request entities).bool?)
    else return .bool false := by
  obtain ⟨ea, hea, valueA⟩ := ha
  obtain ⟨eb, heb, valueB⟩ := hb
  refine ⟨.and ea eb, by simp [Condition.toExpr?, hea, heb], ?_⟩
  intro request entities
  rw [Cedar.Expr.outcome_and, valueA, valueB]

theorem Denotes.or (ha : Denotes a f) (hb : Denotes b g) : Denotes (.or a b) fun request entities => do
    if ← (← f request entities).bool? then return .bool true
    else return .bool (← (← g request entities).bool?) := by
  obtain ⟨ea, hea, valueA⟩ := ha
  obtain ⟨eb, heb, valueB⟩ := hb
  refine ⟨.or ea eb, by simp [Condition.toExpr?, hea, heb], ?_⟩
  intro request entities
  rw [Cedar.Expr.outcome_or, valueA, valueB]

theorem Denotes.not (ha : Denotes a f) : Denotes (.not a) fun request entities => do
    return .bool !(← (← f request entities).bool?) := by
  obtain ⟨e, he, value⟩ := ha
  refine ⟨.not e, by simp [Condition.toExpr?, he], ?_⟩
  intro request entities
  rw [Cedar.Expr.outcome_not, value]

theorem ofInt?_neg {n : Int64} (nonneg : 0 ≤ n) : Value.ofInt? (-n.toInt) = some (.long (-n)) := by
  have low : 0 ≤ n.toInt := Int64.le_iff_toInt_le.mp nonneg
  have high := n.toInt_lt
  rw [Value.ofInt?, if_pos (by omega), Int64.ofInt_neg, Int64.ofInt_toInt]

/-- A minus in front of a literal makes another literal, of the same value. -/
theorem Denotes.neg (ha : Denotes a f) : Denotes (.neg a) (fun request entities =>
    do Value.ofInt? (-(← (← f request entities).int?))) := by
  obtain ⟨e, he, value⟩ := ha
  by_cases literal : ∃ n, a = .long n ∧ 0 ≤ n
  · obtain ⟨n, rfl, nonneg⟩ := literal
    cases he
    refine ⟨.long (-n), Condition.toExpr?_negLong nonneg, ?_⟩
    intro request entities
    simp only [← value]
    exact (ofInt?_neg nonneg).symm
  · have negative : ∀ n, a = .long n → n < 0 := by
      intro n isN
      exact Int64.not_le.mp fun nonneg => literal ⟨n, isN, nonneg⟩
    refine ⟨.neg e, by rw [Condition.toExpr?_neg negative, he]; rfl, ?_⟩
    intro request entities
    rw [Cedar.Expr.outcome_neg, value]

theorem Denotes.ite (hc : Denotes c f) (ha : Denotes a g) (hb : Denotes b h) :
    Denotes (.ite c a b) (fun request entities => do
      if ← (← f request entities).bool? then g request entities else h request entities) := by
  obtain ⟨ec, hec, valueC⟩ := hc
  obtain ⟨ea, hea, valueA⟩ := ha
  obtain ⟨eb, heb, valueB⟩ := hb
  refine ⟨.ite ec ea eb, by simp [Condition.toExpr?, hec, hea, heb], ?_⟩
  intro request entities
  rw [Cedar.Expr.outcome_ite, valueC, valueA, valueB]

theorem Denotes.binary (op : Cedar.Operator) (ha : Denotes a f) (hb : Denotes b g) :
    Denotes (.binary op a b) (fun request entities => do
      (op.apply entities (← f request entities) (← g request entities)).toOption) := by
  obtain ⟨ea, hea, valueA⟩ := ha
  obtain ⟨eb, heb, valueB⟩ := hb
  refine ⟨.binary op ea eb, by simp [Condition.toExpr?, hea, heb], ?_⟩
  intro request entities
  rw [Cedar.Expr.outcome_binary, valueA, valueB]

theorem Denotes.access (ha : Denotes a f) (field : String) :
    Denotes (.access a field) (fun request entities => do
      (← (← f request entities).fields? entities).lookup field) := by
  obtain ⟨e, he, value⟩ := ha
  refine ⟨.access e field, by simp [Condition.toExpr?, he], ?_⟩
  intro request entities
  rw [Cedar.Expr.outcome_access, value]

end

/-! ## Values of operators -/

def Order.cedar : Order → Cedar.Operator
  | .less => .less
  | .lessOrEqual => .lessOrEqual
  | .greater => .greater
  | .greaterOrEqual => .greaterOrEqual

def Arithmetic.cedar : Arithmetic → Cedar.Operator
  | .add => .add
  | .subtract => .subtract
  | .multiply => .multiply

def TextTest.pattern : TextTest → String → Pattern
  | .startsWith => .startingWith
  | .endsWith => .endingWith
  | .contains => .containing

section
variable {entities : Entities} {v w : Value}

theorem toOption_compare {test : Int64 → Int64 → Bool} {holds : Int → Int → Bool}
    (same : ∀ m n, test m n = holds m.toInt n.toInt) :
    (Cedar.Operator.compare v w test).toOption =
      (do return .bool (holds (← v.int?) (← w.int?))) := by
  cases v with
  | long m =>
    cases w with
    | long n => exact congrArg (fun b => some (Value.bool b)) (same m n)
    | _ => rfl
  | _ => rfl

theorem toOption_order (op : Order) : (op.cedar.apply entities v w).toOption =
    (do return .bool (op.holds (← v.int?) (← w.int?))) := by
  cases op with
  | less => exact toOption_compare fun m n => decide_eq_decide.mpr Int64.lt_iff_toInt_lt
  | lessOrEqual => exact toOption_compare fun m n => decide_eq_decide.mpr Int64.le_iff_toInt_le
  | greater => exact toOption_compare fun m n => decide_eq_decide.mpr Int64.lt_iff_toInt_lt
  | greaterOrEqual => exact toOption_compare fun m n => decide_eq_decide.mpr Int64.le_iff_toInt_le

theorem toOption_compute (operation : Int → Int → Int) :
    (Cedar.Operator.compute v w operation).toOption =
      (do Value.ofInt? (operation (← v.int?) (← w.int?))) := by
  cases v with
  | long m =>
    cases w with
    | long n => exact Value.toOption_ofInt _
    | _ => rfl
  | _ => rfl

theorem toOption_arithmetic (op : Arithmetic) : (op.cedar.apply entities v w).toOption =
    (do Value.ofInt? (op.result (← v.int?) (← w.int?))) := by
  cases op <;> exact toOption_compute _

theorem toOption_contains : (Cedar.Operator.contains.apply entities v w).toOption =
    (do return .bool ((← v.items?).any fun item => item.same w)) := by
  cases v <;> rfl

theorem accepts_pattern (test : TextTest) (text : String) (s : List Char) :
    Cedar.PatternElem.accepts (test.pattern text).elems s = test.holds text.toList s := by
  rw [Bool.eq_iff_iff]
  cases test with
  | startsWith => exact Pattern.accepts_startingWith.trans decide_eq_true_iff.symm
  | endsWith => exact Pattern.accepts_endingWith.trans decide_eq_true_iff.symm
  | contains => exact Pattern.accepts_containing.trans decide_eq_true_iff.symm

end

section
variable {a b : Condition} {f g : Asked}

theorem Denotes.test (test : TextTest) (text : String) (ha : Denotes a f) :
    Denotes (.like a (test.pattern text)) fun request entities => do
      return .bool (test.holds text.toList (← (← f request entities).text?)) := by
  obtain ⟨e, he, value⟩ := ha
  refine ⟨.like e (test.pattern text).elems, by simp [Condition.toExpr?, he], ?_⟩
  intro request entities
  rw [Cedar.Expr.outcome_like, value]
  simp only [accepts_pattern]

/-- The collection is asked first, which makes no difference. -/
theorem Denotes.contains (ha : Denotes a f) (hb : Denotes b g) :
    Denotes (.contains b a) fun request entities => do
      let v ← f request entities
      return .bool ((← (← g request entities).items?).any fun item => item.same v) := by
  obtain ⟨e, he, value⟩ := hb.binary .contains ha
  refine ⟨e, he, ?_⟩
  intro request entities
  rw [value]
  beta_reduce
  rcases f request entities with _ | v
  · cases g request entities <;> rfl
  · rcases g request entities with _ | w
    · rfl
    · exact toOption_contains

end

/-! ## Compiled terms -/

section
variable {a b c : Expr} {f g h : Asked}

/-- An operator's condition has its meaning if the conditions of its operands have theirs. -/
theorem Means.operation {op : Operator} {build : Condition → Condition → Condition} {asked : Asked}
    (known : Meaning.of op.function = .binary build) (ha : Means a.compile f)
    (hb : Means b.compile g)
    (built : ∀ {c d}, Denotes c f → Denotes d g → Denotes (build c d) asked) :
    Means (Expr.operation op a b).compile asked := by
  obtain ⟨c, before, compiledA, denotesA⟩ := ha
  obtain ⟨d, behind, compiledB, denotesB⟩ := hb
  refine ⟨build c d, before ++ (behind ++ []), ?_, built denotesA denotesB⟩
  rw [Expr.operation, Expr.compile]
  unfold Expr.compileCall
  simp only [known, Expr.compileEach, compiledA, compiledB]
  rfl

theorem Means.call {function : String} {build : Condition → Condition} {asked : Asked}
    (known : Meaning.of function = .unary build) (ha : Means a.compile f)
    (built : ∀ {c}, Denotes c f → Denotes (build c) asked) :
    Means (Expr.call function [a]).compile asked := by
  obtain ⟨c, warnings, compiled, denotes⟩ := ha
  refine ⟨build c, warnings ++ [], ?_, built denotes⟩
  rw [Expr.compile]
  unfold Expr.compileCall
  simp only [known, Expr.compileEach, compiled]
  rfl

theorem Means.order (op : Order) (ha : Means a.compile f) (hb : Means b.compile g) :
    Means (Expr.operation op.operator a b).compile fun request entities => do
      let v ← f request entities
      let w ← g request entities
      return .bool (op.holds (← v.int?) (← w.int?)) := by
  obtain ⟨c, before, compiledA, denotesA⟩ := ha
  obtain ⟨d, behind, compiledB, denotesB⟩ := hb
  have known : ∃ symbol decimalMethod,
      Meaning.of op.operator.function = .ordering op.cedar symbol decimalMethod := by
    cases op <;> exact ⟨_, _, rfl⟩
  obtain ⟨symbol, decimalMethod, known⟩ := known
  refine ⟨.binary op.cedar c d,
    before ++ (behind ++ ([.ambiguousComparison symbol decimalMethod] ++ [])), ?_, ?_⟩
  · rw [Expr.operation, Expr.compile]
    unfold Expr.compileCall
    simp only [known, Expr.compileEach, compiledA, compiledB]
    rfl
  · have asked := denotesA.binary op.cedar denotesB
    simpa only [toOption_order] using asked

theorem Means.arithmetic (op : Arithmetic) (ha : Means a.compile f) (hb : Means b.compile g) :
    Means (Expr.operation op.operator a b).compile (fun request entities => do
      let v ← f request entities
      let w ← g request entities
      Value.ofInt? (op.result (← v.int?) (← w.int?))) := by
  have known : Meaning.of op.operator.function = .binary (.binary op.cedar) := by cases op <;> rfl
  apply Means.operation known ha hb
  intro c d denotesA denotesB
  have asked := denotesA.binary op.cedar denotesB
  simpa only [toOption_arithmetic] using asked

theorem Means.ite (hc : Means c.compile f) (ha : Means a.compile g) (hb : Means b.compile h) :
    Means (Expr.call "_?_:_" [c, a, b]).compile (fun request entities => do
      if ← (← f request entities).bool? then g request entities else h request entities) := by
  obtain ⟨cc, first, compiledC, denotesC⟩ := hc
  obtain ⟨ca, second, compiledA, denotesA⟩ := ha
  obtain ⟨cb, third, compiledB, denotesB⟩ := hb
  refine ⟨.ite cc ca cb, first ++ (second ++ (third ++ [])), ?_, denotesC.ite denotesA denotesB⟩
  have known : Meaning.of "_?_:_" = .conditional := rfl
  rw [Expr.compile]
  unfold Expr.compileCall
  simp only [known, Expr.compileEach, compiledC, compiledA, compiledB]
  rfl

theorem Means.test (test : TextTest) (text : String) (ha : Means a.compile f) :
    Means (Expr.method a test.function [.literal (.string text)]).compile fun request entities => do
      return .bool (test.holds text.toList (← (← f request entities).text?)) := by
  obtain ⟨c, warnings, compiled, denotes⟩ := ha
  have known : Meaning.of test.function = .pattern test.pattern := by cases test <;> rfl
  refine ⟨.like c (test.pattern text), warnings ++ [], ?_, denotes.test test text⟩
  rw [Expr.compile]
  unfold Expr.compileCall
  simp only [known, Expr.stringValue?, compiled]
  rfl

end

/-- A list of expressions that compiles to conditions for the values that are asked for. -/
def MeansEach (compiled : List (Compilation Condition))
    (asked : Request → Entities → Option (List Value)) : Prop :=
  ∃ cs warnings es, Compilation.inOrder compiled = .ok (cs, warnings) ∧
    Condition.itemsToExpr? cs = some es ∧ ∀ request entities,
      (Cedar.Expr.evaluateItems request entities es).toOption = asked request entities

theorem MeansEach.list {items : List Expr} {asked : Request → Entities → Option (List Value)}
    (h : MeansEach (Expr.compileEach items) asked) :
    Means (Expr.list items).compile fun request entities => (asked request entities).map .set := by
  obtain ⟨cs, warnings, es, compiled, expressions, values⟩ := h
  refine ⟨.set cs, warnings ++ [], ?_, .set es, by simp [Condition.toExpr?, expressions], ?_⟩
  · rw [Expr.compile, compiled]
    rfl
  · intro request entities
    simp only [← values, Cedar.Expr.outcome, Cedar.Expr.evaluate]
    cases Cedar.Expr.evaluateItems request entities es <;> rfl

namespace Term

mutual

theorem means_evaluate (t : Term) :
    Means t.expr.compile fun request entities => t.evaluate request entities := by
  match t with
  | bool b => exact ⟨.bool b, [], rfl, .bool b, rfl, fun _ _ => rfl⟩
  | int n => exact ⟨.long n, [], rfl, .long n, rfl, fun _ _ => rfl⟩
  | string s => exact ⟨.string s, [], rfl, .string s, rfl, fun _ _ => rfl⟩
  | ident name =>
    obtain ⟨_, c, -, compiled, -, selects⟩ := exists_presence name []
    refine ⟨c, [], compiled, selects.congr ?_⟩
    intro request entities
    by_cases object : name = "object"
    · simp [evaluate, selected, walkFrom, walk, object]
    · simp [evaluate, selected, walkFrom, walk, step, object, Value.fields?]
  | select a field =>
    obtain ⟨c, warnings, compiled, denotes⟩ := means_evaluate a
    refine ⟨.access c field, warnings ++ [], ?_, denotes.access field⟩
    rw [expr, Expr.compile, compiled]
    rfl
  | has root path field =>
    obtain ⟨guard, c, guarded, compiled, guards, selects⟩ := exists_presence root path
    refine ⟨.both guard (.has c field), [], ?_, ?_⟩
    · rw [expr, Expr.compile, guarded, compiled]
      rfl
    · apply (denotes_both_has guards selects field).congr
      intro request entities
      simp only [present, evaluate]
      cases walkFrom request entities root (path ++ [field]) <;> rfl
  | and a b => exact .operation rfl (means_evaluate a) (means_evaluate b) .and
  | or a b => exact .operation rfl (means_evaluate a) (means_evaluate b) .or
  | not a => exact .call rfl (means_evaluate a) .not
  | neg a => exact .call rfl (means_evaluate a) .neg
  | equal a b => exact .operation rfl (means_evaluate a) (means_evaluate b) (.binary .equal)
  | notEqual a b => exact .operation rfl (means_evaluate a) (means_evaluate b) (.binary .notEqual)
  | order op a b => exact .order op (means_evaluate a) (means_evaluate b)
  | arithmetic op a b => exact .arithmetic op (means_evaluate a) (means_evaluate b)
  | ite c a b => exact .ite (means_evaluate c) (means_evaluate a) (means_evaluate b)
  | test t a text => exact .test t text (means_evaluate a)
  | member a b => exact .operation rfl (means_evaluate a) (means_evaluate b) .contains
  | among a items =>
    have listed := (means_evaluateEach items).list
    apply Means.operation rfl (means_evaluate a) listed
    intro c d denotesA denotesB
    apply (denotesA.contains denotesB).congr
    intro request entities
    simp only [evaluate]
    cases evaluateEach request entities items <;> rfl

theorem means_evaluateEach (ts : List Term) :
    MeansEach (Expr.compileEach (exprs ts)) fun request entities =>
      evaluateEach request entities ts := by
  match ts with
  | [] => exact ⟨[], [], [], rfl, rfl, fun _ _ => rfl⟩
  | t :: rest =>
    obtain ⟨c, first, compiled, e, he, value⟩ := means_evaluate t
    obtain ⟨cs, others, es, compiledRest, hes, values⟩ := means_evaluateEach rest
    refine ⟨c :: cs, first ++ (others ++ []), e :: es, ?_, ?_, ?_⟩
    · simp only [exprs, Expr.compileEach, Compilation.inOrder, compiled, compiledRest]
      rfl
    · simp [Condition.itemsToExpr?, he, hes]
    · intro request entities
      simp only [evaluateEach, ← value, ← values, Cedar.Expr.outcome, Cedar.Expr.evaluateItems]
      rcases e.evaluate request entities with _ | v
      · rfl
      · cases Cedar.Expr.evaluateItems request entities es <;> rfl

end

/-- Every term compiles to a condition, and the expression that the condition stands for has the value
of the term on every request, or no value where the term has none. -/
theorem evaluate_compiled (t : Term) : ∃ c warnings e,
    t.expr.compile = .ok (c, warnings) ∧ c.toExpr? = some e ∧ ∀ request entities,
      (e.evaluate request entities).toOption = t.evaluate request entities := by
  obtain ⟨c, warnings, compiled, e, he, value⟩ := means_evaluate t
  exact ⟨c, warnings, e, compiled, he, value⟩

end Term

end ClusterPolicy.Cel
