import ClusterPolicy.Cedar.Policy
import ClusterPolicy.Condition
import Mathlib.Data.List.Forall2

namespace ClusterPolicy.Condition

open Cedar (EntityUid Expr Operator Var)

mutual

/-- The expression that the condition's text reads back as; none if a type is no name or a record
repeats a key. A minus before a literal belongs to the literal. -/
def toExpr? : Condition → Option Expr
  | empty => some (.bool true)
  | var v => some (.var v)
  | bool b => some (.bool b)
  | long n => some (.long n)
  | string s => some (.string s)
  | decimal text => some (.decimal (.string text))
  | entity uid => if Cedar.isName uid.type then some (.entity uid) else none
  | and a b => return .and (← a.toExpr?) (← b.toExpr?)
  | or a b => return .or (← a.toExpr?) (← b.toExpr?)
  | not a => return .not (← a.toExpr?)
  | neg a =>
    match a with
    | long n => if 0 ≤ n then some (.long (-n)) else some (.neg (.long n))
    | a => return .neg (← a.toExpr?)
  | binary op a b => return .binary op (← a.toExpr?) (← b.toExpr?)
  | like a pattern => return .like (← a.toExpr?) pattern.elems
  | has a attr => return .has (← a.toExpr?) attr
  | access a attr => return .access (← a.toExpr?) attr
  | is a type => if Cedar.isName type then return .is (← a.toExpr?) type else none
  | ite c a b => return .ite (← c.toExpr?) (← a.toExpr?) (← b.toExpr?)
  | set items => return .set (← itemsToExpr? items)
  | record fields =>
    if (fields.map (·.1)).Nodup then return .record (← fieldsToExpr? fields) else none

def itemsToExpr? : List Condition → Option (List Expr)
  | [] => some []
  | c :: rest => return (← c.toExpr?) :: (← itemsToExpr? rest)

def fieldsToExpr? : List (String × Condition) → Option (List (String × Expr))
  | [] => some []
  | (key, c) :: rest => return (key, ← c.toExpr?) :: (← fieldsToExpr? rest)

end

mutual

/-- No part is empty, every type is a name and no record repeats a key. -/
def isProper : Condition → Bool
  | empty => false
  | var _ | bool _ | long _ | string _ | decimal _ => true
  | entity uid => Cedar.isName uid.type
  | and a b | or a b | binary _ a b => a.isProper && b.isProper
  | not a | neg a | like a _ | has a _ | access a _ => a.isProper
  | is a type => a.isProper && Cedar.isName type
  | ite c a b => c.isProper && a.isProper && b.isProper
  | set items => itemsAreProper items
  | record fields => decide (fields.map (·.1)).Nodup && fieldsAreProper fields

def itemsAreProper : List Condition → Bool
  | [] => true
  | c :: rest => c.isProper && itemsAreProper rest

def fieldsAreProper : List (String × Condition) → Bool
  | [] => true
  | (_, c) :: rest => c.isProper && fieldsAreProper rest

end

theorem itemsAreProper_iff {items : List Condition} :
    itemsAreProper items = true ↔ ∀ c ∈ items, c.isProper = true := by
  induction items with
  | nil => simp [itemsAreProper]
  | cons c items ih => rw [itemsAreProper, Bool.and_eq_true, ih, List.forall_mem_cons]

/-- A minus belongs to a literal only if that literal has none of its own. -/
theorem toExpr?_neg {a : Condition} (negative : ∀ n, a = .long n → n < 0) :
    (neg a).toExpr? = a.toExpr?.map Expr.neg := by
  by_cases literal : ∃ n, a = .long n
  · obtain ⟨n, rfl⟩ := literal
    simp [toExpr?, Int64.not_le.mpr (negative n rfl)]
  · rw [toExpr?]
    · exact Option.map_eq_bind.symm
    · intro n hn
      exact literal ⟨n, hn⟩

theorem toExpr?_negLong {n : Int64} (h : 0 ≤ n) : (neg (long n)).toExpr? = some (.long (-n)) := by
  simp [toExpr?, h]

mutual

/-- A proper condition stands for an expression. -/
theorem toExpr?_of_isProper {c : Condition} (h : c.isProper = true) : ∃ e, c.toExpr? = some e := by
  match c with
  | empty => simp [isProper] at h
  | var _ | bool _ | long _ | string _ | decimal _ => exact ⟨_, rfl⟩
  | entity uid =>
    simp only [isProper] at h
    exact ⟨.entity uid, by simp [toExpr?, h]⟩
  | and a b | or a b | binary op a b =>
    simp only [isProper, Bool.and_eq_true] at h
    obtain ⟨ea, ha⟩ := toExpr?_of_isProper h.1
    obtain ⟨eb, hb⟩ := toExpr?_of_isProper h.2
    exact ⟨_, by simp [toExpr?, ha, hb]; rfl⟩
  | not a | like a _ | has a _ | access a _ =>
    simp only [isProper] at h
    obtain ⟨e, he⟩ := toExpr?_of_isProper h
    exact ⟨_, by simp [toExpr?, he]; rfl⟩
  | neg a =>
    simp only [isProper] at h
    obtain ⟨e, he⟩ := toExpr?_of_isProper h
    by_cases literal : ∃ n, a = .long n ∧ 0 ≤ n
    · obtain ⟨n, rfl, hn⟩ := literal
      exact ⟨_, toExpr?_negLong hn⟩
    · have negative : ∀ n, a = .long n → n < 0 :=
        fun n hn => Int64.not_le.mp fun le => literal ⟨n, hn, le⟩
      exact ⟨.neg e, by rw [toExpr?_neg negative, he]; rfl⟩
  | is a type =>
    simp only [isProper, Bool.and_eq_true] at h
    obtain ⟨e, he⟩ := toExpr?_of_isProper h.1
    exact ⟨_, by simp [toExpr?, he, h.2]; rfl⟩
  | ite c a b =>
    simp only [isProper, Bool.and_eq_true] at h
    obtain ⟨ec, hc⟩ := toExpr?_of_isProper h.1.1
    obtain ⟨ea, ha⟩ := toExpr?_of_isProper h.1.2
    obtain ⟨eb, hb⟩ := toExpr?_of_isProper h.2
    exact ⟨_, by simp [toExpr?, hc, ha, hb]; rfl⟩
  | set items =>
    simp only [isProper] at h
    obtain ⟨es, hes⟩ := itemsToExpr?_of_proper h
    exact ⟨.set es, by simp [toExpr?, hes]⟩
  | record fields =>
    simp only [isProper, Bool.and_eq_true, decide_eq_true_eq] at h
    obtain ⟨es, hes⟩ := fieldsToExpr?_of_proper h.2
    exact ⟨.record es, by simp [toExpr?, hes, h.1]⟩

theorem itemsToExpr?_of_proper {items : List Condition} (h : itemsAreProper items = true) :
    ∃ es, itemsToExpr? items = some es := by
  match items with
  | [] => exact ⟨[], rfl⟩
  | c :: rest =>
    simp only [itemsAreProper, Bool.and_eq_true] at h
    obtain ⟨e, he⟩ := toExpr?_of_isProper h.1
    obtain ⟨es, hes⟩ := itemsToExpr?_of_proper h.2
    exact ⟨e :: es, by simp [itemsToExpr?, he, hes]⟩

theorem fieldsToExpr?_of_proper {fields : List (String × Condition)}
    (h : fieldsAreProper fields = true) : ∃ es, fieldsToExpr? fields = some es := by
  match fields with
  | [] => exact ⟨[], rfl⟩
  | (key, c) :: rest =>
    simp only [fieldsAreProper, Bool.and_eq_true] at h
    obtain ⟨e, he⟩ := toExpr?_of_isProper h.1
    obtain ⟨es, hes⟩ := fieldsToExpr?_of_proper h.2
    exact ⟨(key, e) :: es, by simp [fieldsToExpr?, he, hes]⟩

end

/-! ## Induction -/

section

set_option linter.unusedSectionVars false

variable {motive : Condition → Expr → Prop}
  (empty : motive .empty (.bool true))
  (var : ∀ v, motive (.var v) (.var v))
  (bool : ∀ b, motive (.bool b) (.bool b))
  (long : ∀ n, motive (.long n) (.long n))
  (string : ∀ s, motive (.string s) (.string s))
  (decimal : ∀ text, motive (.decimal text) (.decimal (.string text)))
  (entity : ∀ uid : EntityUid, Cedar.isName uid.type = true → motive (.entity uid) (.entity uid))
  (and : ∀ {a b ea eb}, motive a ea → motive b eb → motive (.and a b) (.and ea eb))
  (or : ∀ {a b ea eb}, motive a ea → motive b eb → motive (.or a b) (.or ea eb))
  (not : ∀ {a e}, motive a e → motive (.not a) (.not e))
  (negLong : ∀ n : Int64, 0 ≤ n → motive (.neg (.long n)) (.long (-n)))
  (neg : ∀ {a e}, (∀ n, a = .long n → n < 0) → motive a e → motive (.neg a) (.neg e))
  (binary : ∀ {op a b ea eb}, motive a ea → motive b eb →
    motive (.binary op a b) (.binary op ea eb))
  (like : ∀ {a e} (pattern : Pattern), motive a e → motive (.like a pattern) (.like e pattern.elems))
  (has : ∀ {a e} attr, motive a e → motive (.has a attr) (.has e attr))
  (access : ∀ {a e} attr, motive a e → motive (.access a attr) (.access e attr))
  (is : ∀ {a e} type, Cedar.isName type = true → motive a e → motive (.is a type) (.is e type))
  (ite : ∀ {c a b ec ea eb}, motive c ec → motive a ea → motive b eb →
    motive (.ite c a b) (.ite ec ea eb))
  (set : ∀ {items es}, List.Forall₂ motive items es → motive (.set items) (.set es))
  (record : ∀ {fields es}, (fields.map (·.1)).Nodup →
    List.Forall₂ (fun f g => f.1 = g.1 ∧ motive f.2 g.2) fields es →
    motive (.record fields) (.record es))

include empty var bool long string decimal entity and or not negLong neg binary like has access is
  ite set record

mutual

/-- Induction over the conditions that stand for an expression, together with these. -/
theorem toExpr?_induction {c : Condition} {e : Expr} (h : c.toExpr? = some e) : motive c e := by
  match c with
  | .empty => cases h; exact empty
  | .var v => cases h; exact var v
  | .bool b => cases h; exact bool b
  | .long n => cases h; exact long n
  | .string s => cases h; exact string s
  | .decimal text => cases h; exact decimal text
  | .entity uid =>
    simp only [toExpr?, Option.ite_none_right_eq_some, Option.some.injEq] at h
    obtain ⟨name, rfl⟩ := h
    exact entity uid name
  | .and a b =>
    simp only [toExpr?, Option.bind_eq_bind, Option.bind_eq_some_iff] at h
    obtain ⟨ea, ha, eb, hb, ⟨⟩⟩ := h
    exact and (toExpr?_induction ha) (toExpr?_induction hb)
  | .or a b =>
    simp only [toExpr?, Option.bind_eq_bind, Option.bind_eq_some_iff] at h
    obtain ⟨ea, ha, eb, hb, ⟨⟩⟩ := h
    exact or (toExpr?_induction ha) (toExpr?_induction hb)
  | .not a =>
    simp only [toExpr?, Option.bind_eq_bind, Option.bind_eq_some_iff] at h
    obtain ⟨e, he, ⟨⟩⟩ := h
    exact not (toExpr?_induction he)
  | .neg a =>
    by_cases literal : ∃ n, a = .long n ∧ 0 ≤ n
    · obtain ⟨n, rfl, hn⟩ := literal
      rw [toExpr?_negLong hn] at h
      cases h
      exact negLong n hn
    · have negative : ∀ n, a = .long n → n < 0 :=
        fun n hn => Int64.not_le.mp fun le => literal ⟨n, hn, le⟩
      rw [toExpr?_neg negative, Option.map_eq_some_iff] at h
      obtain ⟨e, he, rfl⟩ := h
      exact neg negative (toExpr?_induction he)
  | .binary op a b =>
    simp only [toExpr?, Option.bind_eq_bind, Option.bind_eq_some_iff] at h
    obtain ⟨ea, ha, eb, hb, ⟨⟩⟩ := h
    exact binary (toExpr?_induction ha) (toExpr?_induction hb)
  | .like a pattern =>
    simp only [toExpr?, Option.bind_eq_bind, Option.bind_eq_some_iff] at h
    obtain ⟨e, he, ⟨⟩⟩ := h
    exact like pattern (toExpr?_induction he)
  | .has a attr =>
    simp only [toExpr?, Option.bind_eq_bind, Option.bind_eq_some_iff] at h
    obtain ⟨e, he, ⟨⟩⟩ := h
    exact has attr (toExpr?_induction he)
  | .access a attr =>
    simp only [toExpr?, Option.bind_eq_bind, Option.bind_eq_some_iff] at h
    obtain ⟨e, he, ⟨⟩⟩ := h
    exact access attr (toExpr?_induction he)
  | .is a type =>
    simp only [toExpr?, Option.ite_none_right_eq_some, Option.bind_eq_bind,
      Option.bind_eq_some_iff] at h
    obtain ⟨name, e, he, ⟨⟩⟩ := h
    exact is type name (toExpr?_induction he)
  | .ite c a b =>
    simp only [toExpr?, Option.bind_eq_bind, Option.bind_eq_some_iff] at h
    obtain ⟨ec, hc, ea, ha, eb, hb, ⟨⟩⟩ := h
    exact ite (toExpr?_induction hc) (toExpr?_induction ha) (toExpr?_induction hb)
  | .set items =>
    simp only [toExpr?, Option.bind_eq_bind, Option.bind_eq_some_iff] at h
    obtain ⟨es, hes, ⟨⟩⟩ := h
    exact set (itemsToExpr?_induction hes)
  | .record fields =>
    simp only [toExpr?, Option.ite_none_right_eq_some, Option.bind_eq_bind,
      Option.bind_eq_some_iff] at h
    obtain ⟨distinct, es, hes, ⟨⟩⟩ := h
    exact record distinct (fieldsToExpr?_induction hes)

theorem itemsToExpr?_induction {items : List Condition} {es : List Expr}
    (h : itemsToExpr? items = some es) : List.Forall₂ motive items es := by
  match items with
  | [] => cases h; exact .nil
  | c :: rest =>
    simp only [itemsToExpr?, Option.bind_eq_bind, Option.bind_eq_some_iff] at h
    obtain ⟨e, he, es, hes, ⟨⟩⟩ := h
    exact .cons (toExpr?_induction he) (itemsToExpr?_induction hes)

theorem fieldsToExpr?_induction {fields : List (String × Condition)} {es : List (String × Expr)}
    (h : fieldsToExpr? fields = some es) :
    List.Forall₂ (fun f g => f.1 = g.1 ∧ motive f.2 g.2) fields es := by
  match fields with
  | [] => cases h; exact .nil
  | (key, c) :: rest =>
    simp only [fieldsToExpr?, Option.bind_eq_bind, Option.bind_eq_some_iff] at h
    obtain ⟨e, he, es, hes, ⟨⟩⟩ := h
    exact .cons ⟨rfl, toExpr?_induction he⟩ (fieldsToExpr?_induction hes)

end

end

end ClusterPolicy.Condition
