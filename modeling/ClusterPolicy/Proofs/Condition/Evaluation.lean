import ClusterPolicy.Proofs.Cedar.Evaluation
import ClusterPolicy.Proofs.Condition.Connective
import ClusterPolicy.Proofs.Condition.Denotation
import Mathlib.Data.Option.NAry

namespace ClusterPolicy.Condition

open Cedar (Entities Request Test Value)

/-- The test that a condition stands for. -/
def test? (c : Condition) : Option Test := c.toExpr?.map Cedar.Expr.test

@[simp] theorem test?_empty : empty.test? = some Test.always := rfl

theorem test?_and (a b : Condition) : (and a b).test? = Option.map₂ Test.both a.test? b.test? := by
  simp only [test?, toExpr?]
  cases a.toExpr? with
  | none => rfl
  | some ea =>
    cases b.toExpr? with
    | none => rfl
    | some eb => exact congrArg some (Cedar.Expr.test_and ea eb)

theorem test?_or (a b : Condition) : (or a b).test? = Option.map₂ Test.either a.test? b.test? := by
  simp only [test?, toExpr?]
  cases a.toExpr? with
  | none => rfl
  | some ea =>
    cases b.toExpr? with
    | none => rfl
    | some eb => exact congrArg some (Cedar.Expr.test_or ea eb)

theorem test?_not (a : Condition) : (not a).test? = a.test?.map Test.negation := by
  simp only [test?, toExpr?]
  cases a.toExpr? with
  | none => rfl
  | some e => exact congrArg some (Cedar.Expr.test_not e)

/-- A conjunction asks for both, however it is associated. -/
theorem test?_both (a b : Condition) : (both a b).test? = Option.map₂ Test.both a.test? b.test? := by
  fun_induction both a b with
  | case1 b => cases b.test? <;> simp
  | case2 a => cases a.test? <;> simp
  | case3 a b c _ ihb ihc =>
    rw [ihc, ihb, test?_and]
    exact Option.map₂_assoc Test.both_assoc
  | case4 a b => exact test?_and a b

/-! ## Conditions that can be written -/

/-- Nothing is asked, or an expression says what. -/
def IsWritable (c : Condition) : Prop := c = .empty ∨ c.isProper = true

theorem isWritable_empty : empty.IsWritable := .inl rfl

theorem isProper_join (k : Connective) {a b : Condition} (ha : a.isProper = true)
    (hb : b.isProper = true) : (k.join a b).isProper = true := by
  have parts : ∀ a b : Condition, (k.node a b).isProper = true ↔
      a.isProper = true ∧ b.isProper = true := by
    intro a b
    cases k <;> simp [Connective.node, isProper]
  exact k.join_of (parts _ _).mp (fun a b _ _ _ ha hb => (parts a b).mpr ⟨ha, hb⟩) ha hb

theorem isProper_both {a b : Condition} (ha : a.isProper = true) (hb : b.isProper = true) :
    (both a b).isProper = true := isProper_join .and ha hb

theorem isProper_either {a b : Condition} (ha : a.isProper = true) (hb : b.isProper = true) :
    (either a b).isProper = true := isProper_join .or ha hb

@[simp] theorem empty_both (a : Condition) : both .empty a = a := Connective.and.empty_join a

@[simp] theorem both_empty (a : Condition) : both a .empty = a := Connective.and.join_empty a

@[simp] theorem empty_either (a : Condition) : either .empty a = a := Connective.or.empty_join a

@[simp] theorem either_empty (a : Condition) : either a .empty = a := Connective.or.join_empty a

theorem IsWritable.join (k : Connective) {a b : Condition} (ha : a.IsWritable) (hb : b.IsWritable) :
    (k.join a b).IsWritable := by
  rcases ha with rfl | ha
  · rwa [k.empty_join]
  · rcases hb with rfl | hb
    · exact .inr (by rwa [k.join_empty])
    · exact .inr (isProper_join k ha hb)

theorem IsWritable.both {a b : Condition} (ha : a.IsWritable) (hb : b.IsWritable) :
    (Condition.both a b).IsWritable := ha.join .and hb

theorem IsWritable.either {a b : Condition} (ha : a.IsWritable) (hb : b.IsWritable) :
    (Condition.either a b).IsWritable := ha.join .or hb

theorem IsWritable.all {cs : List Condition} (h : ∀ c ∈ cs, c.IsWritable) :
    (Condition.all cs).IsWritable :=
  List.foldlRecOn cs Condition.both isWritable_empty fun _ ha c hc => ha.both (h c hc)

theorem IsWritable.any {cs : List Condition} (h : ∀ c ∈ cs, c.IsWritable) :
    (Condition.any cs).IsWritable :=
  List.foldlRecOn cs Condition.either isWritable_empty fun _ ha c hc => ha.either (h c hc)

theorem IsWritable.anyOf {α : Type} {items : List α} {part : α → Condition}
    (h : ∀ i ∈ items, (part i).IsWritable) : (Condition.any (items.map part)).IsWritable :=
  IsWritable.any (List.forall_mem_map.mpr h)

theorem isProper_any {α : Type} {items : List α} {part : α → Condition} (nonempty : items ≠ [])
    (h : ∀ i ∈ items, (part i).isProper = true) : (any (items.map part)).isProper = true := by
  obtain ⟨i, items, rfl⟩ := List.exists_cons_of_ne_nil nonempty
  obtain ⟨hi, hitems⟩ := List.forall_mem_cons.mp h
  rw [any, List.map_cons, List.foldl_cons, empty_either]
  refine List.foldlRecOn (motive := fun a => a.isProper = true) _ either hi fun _ ha c hc => ?_
  obtain ⟨j, hj, rfl⟩ := List.mem_map.mp hc
  exact isProper_either ha (hitems j hj)

theorem test?_of_isProper {c : Condition} (h : c.isProper = true) : ∃ t, c.test? = some t := by
  obtain ⟨e, he⟩ := toExpr?_of_isProper h
  exact ⟨e.test, by simp [test?, he]⟩

theorem test?_of_isWritable {c : Condition} (h : c.IsWritable) : ∃ t, c.test? = some t := by
  rcases h with rfl | h
  · exact ⟨_, rfl⟩
  · exact test?_of_isProper h

theorem ne_empty_of_isProper {c : Condition} (h : c.isProper = true) : c ≠ .empty := by
  rintro rfl
  simp [isProper] at h

/-- A disjunction asks for one or the other, however it is associated, if no part of it is empty. -/
theorem test?_either_of {S : Condition → Prop} (ne_empty : ∀ {c}, S c → c ≠ .empty)
    (parts : ∀ {a b}, S (or a b) → S a ∧ S b) (join : ∀ {a b}, S a → S b → S (either a b))
    {a b : Condition} (ha : S a) (hb : S b) :
    (either a b).test? = Option.map₂ Test.either a.test? b.test? := by
  fun_induction either a b with
  | case1 b => exact absurd rfl (ne_empty ha)
  | case2 a => exact absurd rfl (ne_empty hb)
  | case3 a b c _ ihb ihc =>
    obtain ⟨hb, hc⟩ := parts hb
    rw [ihc (join ha hb) hc, ihb ha hb, test?_or]
    exact Option.map₂_assoc Test.either_assoc
  | case4 a b => exact test?_or a b

theorem test?_either {a b : Condition} (ha : a.isProper = true) (hb : b.isProper = true) :
    (either a b).test? = Option.map₂ Test.either a.test? b.test? :=
  test?_either_of ne_empty_of_isProper (by simp [isProper]) isProper_either ha hb

theorem exists_test?_either {a b : Condition} {t : Test} (h : (either a b).test? = some t) :
    (∃ s, a.test? = some s) ∧ ∃ s, b.test? = some s := by
  fun_induction either a b generalizing t with
  | case1 b => exact ⟨⟨_, rfl⟩, t, h⟩
  | case2 a => exact ⟨⟨t, h⟩, _, rfl⟩
  | case3 a b c _ ihb ihc =>
    obtain ⟨⟨front, isFront⟩, u, hu⟩ := ihc h
    obtain ⟨hasA, s, hs⟩ := ihb isFront
    exact ⟨hasA, _, by rw [test?_or, hs, hu]; rfl⟩
  | case4 a b =>
    rw [test?_or, Option.map₂_eq_some_iff] at h
    obtain ⟨s, u, hs, hu, -⟩ := h
    exact ⟨⟨s, hs⟩, u, hu⟩

/-- A disjunction can be tested only if each part can. -/
theorem exists_test?_any {cs : List Condition} {t : Test} (h : (any cs).test? = some t) :
    ∀ c ∈ cs, ∃ s, c.test? = some s := by
  suffices run : ∀ (a : Condition) (t : Test), (cs.foldl either a).test? = some t →
      (∃ s, a.test? = some s) ∧ ∀ c ∈ cs, ∃ s, c.test? = some s from (run .empty t h).2
  clear h
  induction cs with
  | nil =>
    intro a t h
    exact ⟨⟨t, h⟩, nofun⟩
  | cons c cs ih =>
    intro a t h
    obtain ⟨⟨s, hs⟩, others⟩ := ih _ t h
    obtain ⟨hasA, hasC⟩ := exists_test?_either hs
    exact ⟨hasA, List.forall_mem_cons.mpr ⟨hasC, others⟩⟩

/-! ## Answers -/

/-- The condition's answer on a request is `b`; in particular it does not fail there. -/
def Decides (request : Request) (entities : Entities) (c : Condition) (b : Bool) : Prop :=
  ∃ t, c.test? = some t ∧ t request entities = .ok b

/-- The condition holds for a request. -/
abbrev Holds (request : Request) (entities : Entities) (c : Condition) : Prop :=
  c.Decides request entities true

section
variable {request : Request} {entities : Entities} {a b c : Condition} {x y : Bool}

theorem Decides.unique (hx : c.Decides request entities x) (hy : c.Decides request entities y) :
    x = y := by
  obtain ⟨t, ht, isX⟩ := hx
  obtain ⟨u, hu, isY⟩ := hy
  cases ht.symm.trans hu
  simpa using isX.symm.trans isY

theorem Decides.holds_iff (h : c.Decides request entities x) :
    c.Holds request entities ↔ x = true :=
  ⟨fun holds => h.unique holds, by rintro rfl; exact h⟩

theorem decides_empty : empty.Decides request entities true := ⟨_, rfl, rfl⟩

theorem holds_both : (both a b).Holds request entities ↔
    a.Holds request entities ∧ b.Holds request entities := by
  simp only [Holds, Decides, test?_both, Option.map₂_eq_some_iff]
  constructor
  · rintro ⟨_, ⟨s, t, hs, ht, rfl⟩, holds⟩
    obtain ⟨first, second⟩ := Test.both_eq_ok_true.mp holds
    exact ⟨⟨s, hs, first⟩, ⟨t, ht, second⟩⟩
  · rintro ⟨⟨s, hs, first⟩, ⟨t, ht, second⟩⟩
    exact ⟨_, ⟨s, t, hs, ht, rfl⟩, Test.both_eq_ok_true.mpr ⟨first, second⟩⟩

theorem holds_all {cs : List Condition} :
    (all cs).Holds request entities ↔ ∀ c ∈ cs, c.Holds request entities := by
  suffices run : ∀ a : Condition, (cs.foldl both a).Holds request entities ↔
      a.Holds request entities ∧ ∀ c ∈ cs, c.Holds request entities from
    (run .empty).trans (and_iff_right decides_empty)
  induction cs with
  | nil => simp
  | cons c cs ih =>
    intro a
    rw [List.foldl_cons, ih, holds_both, List.forall_mem_cons, and_assoc]

/-- The second condition is asked only where the first says yes, and may fail there. -/
theorem Decides.exists_test?_both {t : Test} (ha : a.Decides request entities x) (ht : b.test? = some t) :
    ∃ u, (Condition.both a b).test? = some u ∧
      u request entities = if x then t request entities else .ok false := by
  obtain ⟨s, hs, isX⟩ := ha
  refine ⟨s.both t, by simp [Condition.test?_both, hs, ht], ?_⟩
  rw [Test.both, isX]
  rfl

/-- The second condition need not have an answer where the first says no. -/
theorem Decides.guards (ha : a.Decides request entities x) (writable : b.IsWritable)
    (hb : x = true → b.Decides request entities y) :
    (Condition.both a b).Decides request entities (x && y) := by
  obtain ⟨s, hs, isX⟩ := ha
  obtain ⟨t, ht⟩ := test?_of_isWritable writable
  refine ⟨s.both t, by simp [test?_both, hs, ht], Test.both_eq_ok isX fun hx => ?_⟩
  obtain ⟨u, hu, isY⟩ := hb hx
  cases ht.symm.trans hu
  exact isY

theorem Decides.both (ha : a.Decides request entities x) (hb : b.Decides request entities y) :
    (Condition.both a b).Decides request entities (x && y) := by
  obtain ⟨s, hs, isX⟩ := ha
  obtain ⟨t, ht, isY⟩ := hb
  exact ⟨s.both t, by simp [test?_both, hs, ht], Test.both_eq_ok isX fun _ => isY⟩

theorem Decides.either (ha : a.Decides request entities x) (hb : b.Decides request entities y)
    (properA : a.isProper = true) (properB : b.isProper = true) :
    (Condition.either a b).Decides request entities (x || y) := by
  obtain ⟨s, hs, isX⟩ := ha
  obtain ⟨t, ht, isY⟩ := hb
  exact ⟨s.either t, by simp [test?_either properA properB, hs, ht], Test.either_eq_ok isX isY⟩

theorem Decides.not (h : c.Decides request entities x) :
    (Condition.not c).Decides request entities !x := by
  obtain ⟨t, ht, isX⟩ := h
  exact ⟨t.negation, by simp [test?_not, ht], by simp [Test.negation, isX, Except.map]⟩

section
variable {α : Type} {items : List α} {part : α → Condition} {answer : α → Bool}
  (proper : ∀ i ∈ items, (part i).isProper = true)
  (decides : ∀ i ∈ items, (part i).Decides request entities (answer i))
include proper decides

theorem Decides.foldl_either (properA : a.isProper = true) (ha : a.Decides request entities x) :
    ((items.map part).foldl Condition.either a).Decides request entities (x || items.any answer) := by
  induction items generalizing a x with
  | nil => simpa using ha
  | cons i items ih =>
    obtain ⟨properI, proper⟩ := List.forall_mem_cons.mp proper
    obtain ⟨hi, decides⟩ := List.forall_mem_cons.mp decides
    have next := ih proper decides (isProper_either properA properI) (ha.either hi properA properI)
    rwa [Bool.or_assoc, ← List.any_cons] at next

theorem Decides.any (nonempty : items ≠ []) :
    (Condition.any (items.map part)).Decides request entities (items.any answer) := by
  obtain ⟨i, items, rfl⟩ := List.exists_cons_of_ne_nil nonempty
  obtain ⟨properI, proper⟩ := List.forall_mem_cons.mp proper
  obtain ⟨hi, decides⟩ := List.forall_mem_cons.mp decides
  rw [Condition.any, List.map_cons, List.foldl_cons, empty_either, List.any_cons]
  exact foldl_either proper decides properI hi

end

end

/-! ## Values -/

/-- The value of the condition's expression. -/
def Yields (request : Request) (entities : Entities) (c : Condition) (v : Value) : Prop :=
  ∃ e, c.toExpr? = some e ∧ e.evaluate request entities = .ok v

section
variable {request : Request} {entities : Entities} {a b c : Condition} {v w u : Value} {x : Bool}

theorem Yields.decides (h : c.Yields request entities (.bool x)) : c.Decides request entities x := by
  obtain ⟨e, he, isX⟩ := h
  refine ⟨e.test, by simp [test?, he], ?_⟩
  rw [Cedar.Expr.test, isX]
  rfl

theorem yields_var (v : Cedar.Var) : (var v).Yields request entities (request.value v) := ⟨_, rfl, rfl⟩

theorem yields_string (s : String) : (string s).Yields request entities (.string s) := ⟨_, rfl, rfl⟩

theorem yields_set {α : Type} {items : List α} {part : α → Condition} {value : α → Value}
    (each : ∀ i ∈ items, (part i).Yields request entities (value i)) :
    (Condition.set (items.map part)).Yields request entities (.set (items.map value)) := by
  have listed : ∃ es, itemsToExpr? (items.map part) = some es ∧
      Cedar.Expr.evaluateItems request entities es = .ok (items.map value) := by
    induction items with
    | nil => exact ⟨[], rfl, rfl⟩
    | cons i items ih =>
      obtain ⟨first, others⟩ := List.forall_mem_cons.mp each
      obtain ⟨e, he, isValue⟩ := first
      obtain ⟨es, hes, areValues⟩ := ih others
      refine ⟨e :: es, by simp [itemsToExpr?, he, hes], ?_⟩
      rw [Cedar.Expr.evaluateItems, isValue, areValues]
      rfl
  obtain ⟨es, hes, areValues⟩ := listed
  refine ⟨.set es, by simp [toExpr?, hes], ?_⟩
  rw [Cedar.Expr.evaluate, areValues]
  rfl

theorem yields_strings (items : List String) :
    (strings items).Yields request entities (.set (items.map .string)) :=
  yields_set fun s _ => yields_string s

theorem Yields.binary {op : Cedar.Operator} (ha : a.Yields request entities v)
    (hb : b.Yields request entities w) (apply : op.apply entities v w = .ok u) :
    (Condition.binary op a b).Yields request entities u := by
  obtain ⟨ea, hea, isV⟩ := ha
  obtain ⟨eb, heb, isW⟩ := hb
  refine ⟨.binary op ea eb, by simp [toExpr?, hea, heb], ?_⟩
  simp only [Cedar.Expr.evaluate, isV, isW]
  exact apply

theorem Yields.access {name : String} (ha : a.Yields request entities v)
    (get : v.get entities name = .ok w) : (Condition.access a name).Yields request entities w := by
  obtain ⟨e, he, isV⟩ := ha
  refine ⟨.access e name, by simp [toExpr?, he], ?_⟩
  simp only [Cedar.Expr.evaluate, isV]
  exact get

theorem Yields.has {name : String} (ha : a.Yields request entities v)
    (present : v.hasAttr entities name = .ok x) :
    (Condition.has a name).Decides request entities x := by
  obtain ⟨e, he, isV⟩ := ha
  refine Yields.decides ⟨.has e name, by simp [toExpr?, he], ?_⟩
  rw [Cedar.Expr.evaluate, isV]
  change (v.hasAttr entities name >>= _) = _
  rw [present]
  rfl

theorem Yields.is {uid : Cedar.EntityUid} {type : String} (name : Cedar.isName type = true)
    (ha : a.Yields request entities (.entity uid)) :
    (Condition.is a type).Decides request entities (uid.type == type) := by
  obtain ⟨e, he, isUid⟩ := ha
  refine Yields.decides ⟨.is e type, by simp [toExpr?, he, name], ?_⟩
  simp only [Cedar.Expr.evaluate, isUid]
  rfl

theorem Yields.like {s : String} (ha : a.Yields request entities (.string s)) (pattern : Pattern) :
    (Condition.like a pattern).Decides request entities
      (Cedar.PatternElem.accepts pattern.elems s.toList) := by
  obtain ⟨e, he, isString⟩ := ha
  refine Yields.decides ⟨.like e pattern.elems, by simp [toExpr?, he], ?_⟩
  simp only [Cedar.Expr.evaluate, isString]
  rfl

theorem Yields.equal (ha : a.Yields request entities v) (hb : b.Yields request entities w) :
    (Condition.equal a b).Decides request entities (v.same w) :=
  (ha.binary hb rfl).decides

theorem Yields.equalString {s : String} (ha : a.Yields request entities (.string s)) (t : String) :
    (Condition.equal a (.string t)).Decides request entities (s == t) := by
  simpa [Value.same] using ha.equal (yields_string t)

end

end ClusterPolicy.Condition
