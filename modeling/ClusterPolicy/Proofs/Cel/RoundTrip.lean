import ClusterPolicy.Proofs.Cel.Levels

namespace ClusterPolicy.Cel

open Cel.Parser

namespace Printed

/-- Whether a text is read as an expression. -/
structure Reads (p : Printed) (e : Expr) : Prop where
  positive : 0 < p.level
  whole : p.level ≤ 9
  stands : ∀ depth, p.nesting ≤ depth → Stands (expression depth) p.level p.chars e

namespace Reads

variable {p q : Printed} {e f : Expr} {depth : Nat}

theorem closes (h : 0 < depth) : Closes (expression depth) := by
  cases depth with
  | zero => cases h
  | succ depth => exact closes_conditional (expression depth)

/-- One level deeper. -/
theorem nested (h : p.Reads e) (room : p.nesting < depth) : Takes (expression depth) 1 p.chars e := by
  cases depth with
  | zero => cases room
  | succ depth =>
    exact ((h.stands depth (Nat.le_of_lt_succ room)).mono (by decide) h.positive h.whole).reads

theorem placed (h : p.Reads e) {k : Nat} (positive : 0 < k) (hk : k ≤ 9)
    (room : (p.placed k).nesting ≤ depth) : Stands (expression depth) k (p.placed k).chars e := by
  unfold Printed.placed at room ⊢
  split
  · rename_i lower
    rw [if_pos lower] at room
    exact (Stands.parenthesized (h.nested room)).mono positive hk (Nat.le_refl 9)
  · rename_i tight
    rw [if_neg tight] at room
    exact (h.stands depth room).mono positive (Nat.le_of_not_lt tight) h.whole

theorem operation {op : Operator} (hp : p.Reads e) (hq : q.Reads f) :
    (Printed.operation op p q).Reads (.operation op e f) := by
  have level : 2 ≤ op.level ∧ op.level ≤ 6 := by cases op <;> decide
  have chains : Chains op.level := by cases op <;> decide
  refine ⟨?_, ?_, fun depth room => ?_⟩
  · change 0 < op.level
    omega
  · change op.level ≤ 9
    omega
  · have left := hp.placed (k := op.level) (by omega) (by omega) (Nat.le_trans (Nat.le_max_left ..) room)
    have right := hq.placed (k := op.level + 1) (by omega) (by omega) (Nat.le_trans (Nat.le_max_right ..) room)
    exact .chain chains (left.leads.append _) ((left.grows chains).operator right.reads)

theorem conditional {r : Printed} {g : Expr} (hp : p.Reads e) (hq : q.Reads f) (hr : r.Reads g) :
    (Printed.conditional p q r).Reads (.call "_?_:_" [e, f, g]) := by
  refine ⟨(by decide : 0 < 1), (by decide : 1 ≤ 9), fun depth room => ?_⟩
  simp only [Printed.conditional, Nat.max_le] at room ⊢
  have condition := hp.placed (k := 2) (by decide) (by decide) room.1.1
  have yes := hq.placed (k := 2) (by decide) (by decide) room.1.2
  exact .plain (by decide) ((condition.leads.mono (by decide)).append _)
    (reads_choice condition.reads yes.reads (hr.nested room.2))

/-- The operand of a sign, which is always in parentheses. -/
theorem parenthesized (h : p.Reads e) (room : (p.placed 10).nesting ≤ depth) :
    (∀ c ∈ (p.placed 10).chars.head?, c = '(') ∧
      Stands (expression depth) 8 (p.placed 10).chars e := by
  have lower : p.level < 10 := Nat.lt_succ_of_le h.whole
  simp only [Printed.placed, if_pos lower] at room ⊢
  refine ⟨?_, (Stands.parenthesized (h.nested room)).mono (by decide) (by decide) (Nat.le_refl 9)⟩
  rintro _ ⟨⟩
  rfl

section
variable {n : Nat} {text : List Char}

/-- Behind a sign. -/
theorem of_sign {sign : Char} (shown : visible sign = true)
    (h : ∀ depth, n ≤ depth → Parser.Reads (expression depth) 7 (sign :: text) e) :
    Printed.Reads ⟨7, n, sign :: text⟩ e :=
  ⟨(by decide : 0 < 7), (by decide : 7 ≤ 9), fun depth room =>
    .plain (k := 7) (by decide) ⟨sign, text, rfl, shown, nofun⟩ (h depth room)⟩

/-- An operand that no member is selected from. -/
theorem of_primary (leads : Leads 8 text)
    (h : ∀ depth, n ≤ depth → Takes (primary (expression depth)) 9 text e) :
    Printed.Reads ⟨8, n, text⟩ e :=
  ⟨(by decide : 0 < 8), (by decide : 8 ≤ 9), fun depth room =>
    .plain (k := 8) (by decide) leads (reads_of_primary (h depth room))⟩

/-- A chain of members. -/
theorem of_grows (h : ∀ depth, n ≤ depth → Leads 9 text ∧ Grows (expression depth) 9 text e) :
    Printed.Reads ⟨9, n, text⟩ e :=
  ⟨(by decide : 0 < 9), Nat.le_refl 9, fun depth room =>
    .chain (k := 9) (by decide) (h depth room).1 (h depth room).2⟩

end

/-- What a member is selected from. -/
theorem base (h : p.Reads e) (room : (p.placed 9).nesting ≤ depth) :
    Leads 9 (p.placed 9).chars ∧ Grows (expression depth) 9 (p.placed 9).chars e := by
  have stands := h.placed (k := 9) (by decide) (Nat.le_refl 9) room
  exact ⟨stands.leads, stands.grows (by decide)⟩

theorem not (h : p.Reads e) : (signed '!' p).Reads (.call "!_" [e]) := by
  refine of_sign (by decide) fun depth room => ?_
  obtain ⟨-, operand⟩ := h.parenthesized room
  exact reads_not operand.leads operand.reads

theorem negate {f : Expr} (h : p.Reads e) (negates : e.negate? = some f) : (signed '-' p).Reads f := by
  refine of_sign (by decide) fun depth room => ?_
  obtain ⟨start, operand⟩ := h.parenthesized room
  refine reads_negate operand.leads operand.reads (fun c hc => ?_) negates
  rw [start c hc]
  rfl

theorem selected {field : String} (h : p.Reads e) (isName : isIdent field = true) :
    (p.selected field).Reads (.select e field false) := by
  refine of_grows fun depth room => ?_
  obtain ⟨leads, grows⟩ := h.base room
  exact ⟨leads.append _, grows.select isName⟩

theorem index (hp : p.Reads e) (hq : q.Reads f) : (p.index q).Reads (.call "_[_]" [e, f]) := by
  refine of_grows fun depth room => ?_
  obtain ⟨roomBase, roomInside⟩ := Nat.max_le.mp room
  obtain ⟨leads, grows⟩ := hp.base roomBase
  exact ⟨leads.append _, grows.index (hq.nested roomInside)⟩

theorem leads_word {name : String} (h : isIdent name = true) : Leads 9 name.toList := by
  obtain ⟨c, more, letters, -, parts, -⟩ := exists_of_isIdent h
  obtain ⟨shown, -, unsigned⟩ := visible_of_start (.inl (parts c (letters ▸ List.mem_cons_self)))
  exact ⟨c, more, letters, shown, fun _ => unsigned⟩

theorem word {name : String} (h : isIdent name = true) : (Printed.word name).Reads (.ident name) :=
  of_grows fun _ _ => ⟨leads_word h, grows_of_primary (takes_word h)⟩

theorem literal {v : Literal} (notDouble : ∀ x, v ≠ .double x) : v.printed.Reads (.literal v) := by
  by_cases negative : ∃ n, v = .int n ∧ n < 0
  · obtain ⟨n, rfl, below⟩ := negative
    simp only [Literal.printed, if_pos below]
    exact of_sign (by decide) fun _ _ => reads_negative (Number.long?_neg_natAbs below)
  · have unsigned : v.printed.level = 8 := by
      cases v with
      | int n => simp [Literal.printed, show ¬n < 0 from fun below => negative ⟨n, rfl, below⟩]
      | _ => rfl
    obtain ⟨c, more, shape, start⟩ := Literal.exists_head notDouble unsigned
    obtain ⟨shown, -, noSign⟩ := visible_of_start start
    have whole : v.printed = ⟨8, v.printed.nesting, v.printed.chars⟩ := by rw [← unsigned]
    rw [whole]
    exact of_primary ⟨c, more, shape, shown, fun _ => noSign⟩ fun _ _ => takes_literal notDouble unsigned

/-! ## Lists -/

section
variable {ps : List Printed} {es : List Expr}

/-- The items of a list, each one level deeper. -/
theorem each (h : List.Forall₂ Reads ps es) (room : deepest ps < depth) :
    List.Forall₂ (Takes (expression depth) 1) (ps.map chars) es := by
  induction h with
  | nil => exact .nil
  | cons first _ ih =>
    simp only [deepest, List.map_cons, List.foldr_cons, Nat.max_lt] at room
    exact .cons (first.nested room.1) (ih room.2)

theorem list (h : List.Forall₂ Reads ps es) : (Printed.list ps).Reads (.list es) := by
  refine of_primary ⟨_, _, rfl, by decide, fun _ => by decide⟩ fun depth room => ?_
  exact (takes_list (closes (Nat.zero_lt_of_lt room)) (each h room)).mono (by decide)

/-- A function with its arguments. -/
theorem call {name : String} (isName : isIdent name = true) (plain : name ≠ "has")
    (h : List.Forall₂ Reads ps es) : (called 8 (.word name) ps).Reads (.call name es) := by
  refine of_primary (((leads_word isName).mono (by decide)).append _) fun depth room => ?_
  have inside : deepest ps < depth := (Nat.max_le.mp room).2
  exact (takes_call isName plain (closes (Nat.zero_lt_of_lt inside)) (each h inside)).mono (by decide)

theorem has {field : String} (h : p.Reads e) (isName : isIdent field = true) :
    (called 8 (.word "has") [p.selected field]).Reads (.select e field true) := by
  refine of_primary (((leads_word (by decide)).mono (by decide)).append _) fun depth room => ?_
  have inside : (p.selected field).nesting < depth := by
    simpa [deepest, Nat.succ_le_iff] using (Nat.max_le.mp room).2
  exact (takes_has (closes (Nat.zero_lt_of_lt inside)) ((h.selected isName).nested inside)).mono
    (by decide)

theorem method {function : String} (h : p.Reads e) (isName : isIdent function = true)
    (each : List.Forall₂ Reads ps es) :
    (called 9 (p.selected function) ps).Reads (.ofMethod e function es) := by
  refine of_grows fun depth room => ?_
  obtain ⟨roomBase, inside⟩ := Nat.max_le.mp room
  obtain ⟨leads, grows⟩ := h.base roomBase
  have grown := grows.method isName (closes (Nat.zero_lt_of_lt inside)) (Reads.each each inside)
  have whole : (p.selected function).chars ++ '(' :: (separated (ps.map chars) ++ [')']) =
      (p.placed 9).chars ++ '.' :: (function.toList ++ '(' :: (separated (ps.map chars) ++ [')'])) := by
    simp [Printed.selected]
  rw [whole]
  exact ⟨leads.append _, grown⟩

end

theorem eachEntry {ps : List (Printed × Printed)} {es : List (Expr × Expr)}
    (h : List.Forall₂ (fun p e => p.1.Reads e.1 ∧ p.2.Reads e.2) ps es)
    (keys : deepest (ps.map (·.1)) < depth) (values : deepest (ps.map (·.2)) < depth) :
    List.Forall₂ (Takes (pair (expression depth) (expression depth)) 1)
      (ps.map fun e => paired e.1.chars e.2) es := by
  induction h with
  | nil => exact .nil
  | cons first _ ih =>
    simp only [deepest, List.map_cons, List.foldr_cons, Nat.max_lt] at keys values
    exact .cons (takes_pair (first.1.nested keys.1) (first.2.nested values.1)) (ih keys.2 values.2)

theorem map {ps : List (Printed × Printed)} {es : List (Expr × Expr)}
    (h : List.Forall₂ (fun p e => p.1.Reads e.1 ∧ p.2.Reads e.2) ps es) :
    (Printed.map ps).Reads (.map es) := by
  refine of_primary ⟨_, _, rfl, by decide, fun _ => by decide⟩ fun depth room => ?_
  obtain ⟨keys, values⟩ := Nat.max_lt.mp room
  exact (takes_map (closes (Nat.zero_lt_of_lt room)) (eachEntry h keys values)).mono (by decide)

theorem eachField {ps : List (String × Printed)} {es : List (String × Expr)}
    (h : List.Forall₂ (fun p e => p.1 = e.1 ∧ isIdent e.1 = true ∧ p.2.Reads e.2) ps es)
    (values : deepest (ps.map (·.2)) < depth) :
    List.Forall₂ (Takes (pair ident (expression depth)) 1) (ps.map fun f => paired f.1.toList f.2)
      es := by
  induction h with
  | nil => exact .nil
  | @cons p e _ _ first _ ih =>
    simp only [deepest, List.map_cons, List.foldr_cons, Nat.max_lt] at values
    obtain ⟨same, isName, reads⟩ := first
    refine .cons ?_ (ih values.2)
    change Takes _ 1 (paired p.1.toList p.2) e
    rw [same]
    exact takes_pair (takes_ident isName) (reads.nested values.1)

/-- A message of a type that a path names. -/
theorem message {type : String} {ps : List (String × Printed)} {es : List (String × Expr)}
    (h : (Printed.word type).Reads e) (isPath : e.typePath? = some type)
    (each : List.Forall₂ (fun p e => p.1 = e.1 ∧ isIdent e.1 = true ∧ p.2.Reads e.2) ps es) :
    (Printed.message type ps).Reads (.message type es) := by
  refine of_grows fun depth room => ?_
  obtain ⟨leads, grows⟩ := h.base (Nat.zero_le depth)
  refine ⟨leads.append _, grows.message isPath ?_⟩
  cases each with
  | nil => exact .nil
  | cons first others => exact eachField (.cons first others) room

end Reads

end Printed

/-! ## Expressions -/

namespace Expr

theorem printedEach_eq (es : List Expr) : printedEach es = es.map printed := by
  induction es with
  | nil => rfl
  | cons e es ih => rw [printedEach, ih, List.map_cons]

theorem printedEntries_eq (es : List (Expr × Expr)) :
    printedEntries es = es.map fun e => (e.1.printed, e.2.printed) := by
  induction es with
  | nil => rfl
  | cons e es ih => rw [printedEntries, ih, List.map_cons]

theorem printedFields_eq (fs : List (String × Expr)) :
    printedFields fs = fs.map fun f => (f.1, f.2.printed) := by
  induction fs with
  | nil => rfl
  | cons f fs ih => rw [printedFields, ih, List.map_cons]

/-- The text of a path is the name that it gives to a type. -/
theorem printed_path {e : Expr} {type : String} (h : e.typePath? = some type) :
    e.printed = .word type := by
  fun_induction typePath? e generalizing type with
  | case1 name =>
    cases h
    rfl
  | case2 operand field ih =>
    obtain ⟨path, hp, rfl⟩ := Option.map_eq_some_iff.mp h
    simp [printed, ih hp, Printed.selected, Printed.placed, Printed.word, String.toList_append]
  | case3 => cases h

theorem forall₂_printed {es : List Expr} (h : ∀ e ∈ es, e.printed.Reads e) :
    List.Forall₂ Printed.Reads (printedEach es) es := by
  rw [printedEach_eq, List.forall₂_map_left_iff]
  exact List.forall₂_same.mpr h

/-- A call by a name is written as such. -/
theorem application_isIdent {function : String} (h : isIdent function = true) (arguments : List Printed) :
    Printed.application function arguments = .called 8 (.word function) arguments := by
  have ne : ∀ name, isIdent name = false → function ≠ name := by
    rintro name notName rfl
    rw [h] at notName
    cases notName
  unfold Printed.application
  rw [Operator.ofFunction?_isIdent h]
  match arguments with
  | [] | _ :: _ :: _ :: _ :: _ => rfl
  | [_] => simp only [ne "!_" (by decide), ne "-_" (by decide), ↓reduceIte]
  | [_, _] => simp only [ne "_[_]" (by decide), ↓reduceIte]
  | [_, _, _] => simp only [ne "_?_:_" (by decide), ↓reduceIte]

/-- The text of every expression that can be written is read at its level. -/
theorem reads_printed {e : Expr} (h : e.IsWritable) : e.printed.Reads e := by
  induction h with
  | literal notDouble => exact .literal notDouble
  | ident isName => exact .word isName
  | @select operand field tested _ isName ih =>
    cases tested with
    | false => exact ih.selected isName
    | true => exact ih.has isName
  | @operation op left right _ _ hl hr =>
    rw [printed_operation]
    exact hl.operation hr
  | conditional _ _ _ hc hy hn => exact hc.conditional hy hn
  | not _ ih => exact ih.not
  | negative _ stays ih => exact ih.negate stays
  | index _ _ ih ih' => exact ih.index ih'
  | @call function arguments isName plain _ ih =>
    rw [printed, application_isIdent isName]
    exact .call isName plain (forall₂_printed ih)
  | @method target function arguments _ isName _ stays ih ih' =>
    rw [printed, ← stays]
    exact ih.method isName (forall₂_printed ih')
  | @list items _ ih =>
    rw [printed]
    exact .list (forall₂_printed ih)
  | @map entries _ _ ih ih' =>
    rw [printed, printedEntries_eq]
    refine .map (List.forall₂_map_left_iff.mpr (List.forall₂_same.mpr fun e mem => ?_))
    exact ⟨ih e mem, ih' e mem⟩
  | @message path type fields _ isPath names _ ih ih' =>
    rw [printed, printedFields_eq]
    rw [printed_path isPath] at ih
    refine ih.message isPath (List.forall₂_map_left_iff.mpr (List.forall₂_same.mpr fun f mem => ?_))
    exact ⟨rfl, names f mem, ih' f mem⟩
  | @comprehension kind range variableName body _ isName takes _ ih ih' =>
    have arguments : List.Forall₂ Printed.Reads (.word variableName :: printedEach body)
        (.ident variableName :: body) := .cons (.word isName) (forall₂_printed ih')
    have isMethod : isIdent kind.name = true := by cases kind <;> decide
    have named : Macro.ofName? kind.name = some kind := by cases kind <;> decide
    have stands : ofMethod range kind.name (.ident variableName :: body) =
        .comprehension kind range variableName body := by
      simp [ofMethod, named, takes]
    rw [printed, ← stands]
    exact ih.method isMethod arguments

theorem parse_of_reads {p : Printed} {e : Expr} (h : p.Reads e) (shallow : p.nesting < maxDepth) :
    parse (String.ofList p.chars) = .ok e := by
  have read : expression maxDepth (p.chars ++ []) = .ok e [] := h.nested shallow blank_nil ends_nil
  rw [List.append_nil] at read
  have whole : (expression maxDepth <* blanks) p.chars = .ok e [] := by
    rw [run_seqLeft, read]
    rfl
  simp only [parse, String.toList_ofList, whole]

/-- The text of an expression is read as the expression, if it is of a shape that is read from texts
and nests no deeper than expressions may. -/
theorem parse_text {e : Expr} (h : e.IsWritable) (shallow : e.depth ≤ maxDepth) :
    parse e.text = .ok e := parse_of_reads (reads_printed h) shallow

/-- A choice with a test, a macro and brackets inside. -/
theorem parse_text_replicas :
    let spec : Expr := .ident "spec"
    let difference : Expr := .operation .subtract (.ident "r")
      (.operation .subtract (.literal (.int (-5))) (.call "-_" [.ident "r"]))
    let body : Expr := .operation .less (.call "_[_]" [difference, .literal (.uint 7)])
      (.message "apps.Scale" [("name", .literal (.string "a\"\n"))])
    let e : Expr := .call "_?_:_" [.select spec "replicas" true,
      .comprehension .all (.select spec "replicas" false) "r" [body],
      .operation .member (.literal .null) (.list [.literal (.bytes [255]), .map []])]
    e.IsWritable ∧ e.depth ≤ maxDepth ∧ parse e.text = .ok e ∧
      e.text = "has(spec.replicas) ? spec.replicas.all(r, (r - (-5 - -(r)))[7u] < " ++
        "apps.Scale\x7bname: \"a\\\"\\n\"\x7d) : null in [b\"\\xff\", \x7b\x7d]" := by
  intro spec difference body e
  have isDifference : difference.IsWritable :=
    .operation (.ident (by decide)) (.operation (.literal nofun) (.negative (.ident (by decide)) rfl))
  have path : Expr.IsWritable (.select (.ident "apps") "Scale" false) :=
    .select (.ident (by decide)) (by decide)
  have isBody : body.IsWritable :=
    .operation (.index isDifference (.literal nofun))
      (.message path rfl (List.forall_mem_singleton.mpr (by decide))
        (List.forall_mem_singleton.mpr (.literal nofun)))
  have isSpec : spec.IsWritable := .ident (by decide)
  have writable : e.IsWritable :=
    .conditional (.select isSpec (by decide))
      (.comprehension (.select isSpec (by decide)) (by decide) (by decide)
        (List.forall_mem_singleton.mpr isBody))
      (.operation (.literal nofun) (.list (List.forall_mem_cons.mpr
        ⟨.literal nofun, List.forall_mem_singleton.mpr (.map nofun nofun)⟩)))
  have shallow : e.depth ≤ maxDepth := by decide +kernel
  exact ⟨writable, shallow, parse_text writable shallow, by decide +kernel⟩

end Expr

end ClusterPolicy.Cel
