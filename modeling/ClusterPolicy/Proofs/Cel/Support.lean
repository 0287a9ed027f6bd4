import ClusterPolicy.Proofs.Cel.Production
import ClusterPolicy.Proofs.Cel.Proper
import ClusterPolicy.Proofs.Condition.RoundTrip
import ClusterPolicy.Proofs.Number.Double

namespace ClusterPolicy.Cel

/-- Integers in 64 bits with a sign, and numbers in the range of a decimal. -/
def Literal.IsSupported : Literal → Prop
  | uint n => n.toNat ≤ 2 ^ 63 - 1
  | double x => x.isFinite = true ∧ x.absolute ≤ 922337203685477
  | null => False
  | _ => True

/-- How many operands an operator takes, if it can be expressed. -/
def arity? (function : String) : Option Nat :=
  if function ∈ ["!_", "-_"] then some 1
  else if function ∈ ["_&&_", "_||_", "_==_", "_!=_", "_<_", "_<=_", "_>_", "_>=_", "_+_", "_-_", "_*_", "@in"] then
    some 2
  else if function = "_?_:_" then some 3
  else none

/-- The methods that can be expressed. -/
def textTests : List String := ["startsWith", "endsWith", "contains"]

namespace Expr

/-- A part that can be expressed if what stands below it can. -/
def IsSupported : Expr → Prop
  | literal value => value.IsSupported
  | call function arguments => arity? function = some arguments.length
  | method _ function arguments => function ∈ textTests ∧ ∃ text, arguments = [literal (.string text)]
  | map entries => entries.length ≤ 1
  | message .. | comprehension .. => False
  | ident _ | select .. | list _ => True

end Expr

/-! ## Literals and calls -/

theorem Literal.succeeds_compile (l : Literal) : Succeeds l.compile ↔ l.IsSupported := by
  cases l with
  | bool | int | string | bytes => exact iff_of_true (succeeds_pure _) trivial
  | null => exact iff_of_false (not_succeeds_refuse _) id
  | uint n =>
    have fits : (Number.long? n.toNat).isSome = true ↔ n.toNat ≤ 2 ^ 63 - 1 := by
      simp only [Number.long?, Option.isSome_ite, Int64.toInt_minValue, Int64.toInt_maxValue]
      omega
    simp only [compile]
    split
    · rename_i isSome
      rw [isSome] at fits
      exact iff_of_true (succeeds_pure _) (fits.mp rfl)
    · rename_i isNone
      rw [isNone] at fits
      exact iff_of_false (not_succeeds_refuse _) fun le => Bool.false_ne_true (fits.mpr le)
  | double x =>
    have bounds : x.isFinite = true ∧ x.absolute ≤ 922337203685477 ↔
        (!x.isFinite || x.exceeds decimalMax) = false := by
      have exceeds : x.exceeds decimalMax = true ↔ (decimalMax : ℚ) < x.absolute := Number.Double.exceeds_iff
      rw [decimalMax, Nat.cast_ofNat] at exceeds
      rw [Bool.or_eq_false_iff, Bool.not_eq_false', ← not_lt, ← exceeds, Bool.not_eq_true, decimalMax]
    refine Iff.trans ?_ bounds.symm
    simp only [compile]
    split
    · rename_i outside
      exact iff_of_false (not_succeeds_refuse _) (by simp [outside])
    · rename_i inside
      exact iff_of_true ((succeeds_bind fun _ => iff_of_true (succeeds_pure _) trivial).mpr
        ⟨succeeds_warn _, trivial⟩) (Bool.eq_false_iff.mpr inside)

/-- How many conditions are put together. -/
def Meaning.arity? : Meaning → Option Nat
  | .unary _ => some 1
  | .binary _ | .ordering .. => some 2
  | .conditional => some 3
  | .pattern _ | .refused _ => none

theorem Meaning.arity?_of (function : String) : (Meaning.of function).arity? = Cel.arity? function := by
  unfold Meaning.of
  split <;> simp_all [Meaning.arity?, Cel.arity?]

/-- No operator is an identifier, so a method is a test of a text or nothing known. -/
theorem Meaning.of_isIdent {function : String} (isName : isIdent function = true) :
    (function ∈ textTests ∧ ∃ ofText, Meaning.of function = .pattern ofText) ∨
      function ∉ textTests ∧ ∃ obstacle, Meaning.of function = .refused obstacle := by
  unfold Meaning.of
  split <;> first
    | exact absurd isName (by decide)
    | exact .inl ⟨by decide, _, rfl⟩
    | exact .inr ⟨by decide, _, rfl⟩
    | exact .inr ⟨by simp_all [textTests], _, rfl⟩

namespace Expr

theorem compileEach_eq (es : List Expr) : compileEach es = es.map compile := by
  induction es with
  | nil => rfl
  | cons e es ih => rw [compileEach, ih, List.map_cons]

theorem succeeds_compileCall {function : String} {arguments : List Expr} :
    Succeeds (compileCall function none arguments (compileEach arguments)) ↔
      arity? function = some arguments.length ∧ ∀ e ∈ arguments, Succeeds e.compile := by
  rw [← Meaning.arity?_of, compileEach_eq]
  unfold compileCall
  cases Meaning.of function with
  | unary condition =>
    match arguments with
    | [a] => simpa [Meaning.arity?] using succeeds_map condition
    | [] | _ :: _ :: _ => exact iff_of_false (not_succeeds_refuse _) (by simp [Meaning.arity?])
  | binary condition =>
    match arguments with
    | [a, b] =>
      simpa [Meaning.arity?] using succeeds_bind fun c => succeeds_map (condition c)
    | [] | [_] | _ :: _ :: _ :: _ =>
      exact iff_of_false (not_succeeds_refuse _) (by simp [Meaning.arity?])
  | ordering operator symbol decimalMethod =>
    match arguments with
    | [a, b] =>
      simpa [Meaning.arity?] using succeeds_bind fun c => succeeds_bind fun d =>
        (succeeds_map fun _ => Condition.binary operator c d).trans
          (iff_of_true (succeeds_warn (.ambiguousComparison symbol decimalMethod)) trivial)
    | [] | [_] | _ :: _ :: _ :: _ =>
      exact iff_of_false (not_succeeds_refuse _) (by simp [Meaning.arity?])
  | conditional =>
    match arguments with
    | [a, b, c] =>
      simpa [Meaning.arity?] using succeeds_bind fun x => succeeds_bind fun y =>
        succeeds_map (Condition.ite x y)
    | [] | [_] | [_, _] | _ :: _ :: _ :: _ :: _ =>
      exact iff_of_false (not_succeeds_refuse _) (by simp [Meaning.arity?])
  | pattern ofText => exact iff_of_false (not_succeeds_refuse _) nofun
  | refused obstacle => exact iff_of_false (not_succeeds_refuse _) nofun

theorem stringValue?_eq_some {e : Expr} {text : String} :
    e.stringValue? = some text ↔ e = literal (.string text) := by
  unfold stringValue?
  split
  · simp
  · rename_i other
    exact iff_of_false nofun (other text)

theorem succeeds_compileMethod {function : String} (isName : isIdent function = true)
    {target : Compilation Condition} {arguments : List Expr} {compiled : List (Compilation Condition)} :
    Succeeds (compileCall function (some target) arguments compiled) ↔
      (function ∈ textTests ∧ ∃ text, arguments = [literal (.string text)]) ∧ Succeeds target := by
  unfold compileCall
  rcases Meaning.of_isIdent isName with ⟨mem, ofText, isTest⟩ | ⟨notMem, obstacle, isRefused⟩
  · rw [isTest]
    match arguments with
    | [argument] =>
      cases value : argument.stringValue? with
      | some text =>
        obtain rfl := stringValue?_eq_some.mp value
        simpa [mem, stringValue?] using succeeds_map fun c => Condition.like c (ofText text)
      | none =>
        simp only [value]
        refine iff_of_false (not_succeeds_refuse _) ?_
        rintro ⟨⟨-, text, ⟨⟩⟩, -⟩
        cases value
    | [] | _ :: _ :: _ => exact iff_of_false (not_succeeds_refuse _) (by simp)
  · rw [isRefused]
    exact iff_of_false (not_succeeds_refuse _) fun both => notMem both.1.1

/-! ## Expressions -/

/-- What the guards read is compiled anyway. -/
theorem succeeds_presence {e : Expr} (h : Succeeds e.compile) : Succeeds e.presence := by
  match e with
  | ident name => exact succeeds_pure _
  | select operand field false =>
    have compiles : Succeeds operand.compile := (succeeds_map _).mp h
    exact (succeeds_bind fun g => succeeds_map _).mpr ⟨succeeds_presence compiles, compiles⟩
  | select operand field true => exact succeeds_pure _
  | literal _ | call _ _ | method _ _ _ | list _ | map _ | message _ _ | comprehension _ _ _ _ =>
    exact succeeds_pure _

mutual

/-- An expression has a condition just if all of its parts may be there. -/
theorem succeeds_compile {e : Expr} (named : Everywhere children IsNamed e) :
    Succeeds e.compile ↔ Everywhere children IsSupported e := by
  obtain ⟨self, below⟩ := everywhere_iff.mp named
  rw [everywhere_iff]
  match e with
  | literal value => exact value.succeeds_compile.trans (and_iff_left nofun).symm
  | ident name => exact iff_of_true (succeeds_pure _) ⟨trivial, nofun⟩
  | select operand field false =>
    refine (succeeds_map fun c => Condition.access c field).trans ?_
    rw [succeeds_compile (below operand List.mem_cons_self)]
    simp [children, IsSupported]
  | select operand field true =>
    refine (succeeds_bind fun g => succeeds_map fun c => Condition.both g (.has c field)).trans ?_
    rw [and_iff_right_of_imp succeeds_presence, succeeds_compile (below operand List.mem_cons_self)]
    simp [children, IsSupported]
  | call function arguments =>
    refine succeeds_compileCall.trans (and_congr_right fun _ => ?_)
    exact succeeds_compileEach below
  | method target function arguments =>
    refine (succeeds_compileMethod self).trans (and_congr_right fun ⟨_, text, isText⟩ => ?_)
    have literals : ∀ e ∈ arguments, Everywhere children IsSupported e := by
      rw [isText, List.forall_mem_singleton]
      exact everywhere_iff.mpr ⟨trivial, nofun⟩
    rw [succeeds_compile (below target List.mem_cons_self), children, List.forall_mem_cons]
    exact (and_iff_left literals).symm
  | list items =>
    refine (succeeds_map Condition.set).trans (succeeds_inOrder.trans ?_)
    rw [compileEach_eq, List.forall_mem_map]
    exact (succeeds_compileEach below).trans (and_iff_right trivial).symm
  | map [] => exact iff_of_true (succeeds_pure _) ⟨Nat.zero_le _, nofun⟩
  | map [(key, value)] =>
    refine (succeeds_bind fun k => succeeds_map fun v =>
      Condition.record [("key", k), ("value", v)]).trans ?_
    rw [succeeds_compile (below key (by simp [children])), succeeds_compile (below value (by simp [children]))]
    simp [children, IsSupported]
  | map (_ :: _ :: _) => exact iff_of_false (not_succeeds_refuse _) (by simp [IsSupported])
  | message type fields => exact iff_of_false (not_succeeds_refuse _) fun both => both.1
  | comprehension kind range name body => exact iff_of_false (not_succeeds_refuse _) fun both => both.1

theorem succeeds_compileEach {es : List Expr} (named : ∀ e ∈ es, Everywhere children IsNamed e) :
    (∀ e ∈ es, Succeeds e.compile) ↔ ∀ e ∈ es, Everywhere children IsSupported e := by
  match es with
  | [] => exact iff_of_true nofun nofun
  | e :: rest =>
    obtain ⟨first, others⟩ := List.forall_mem_cons.mp named
    rw [List.forall_mem_cons, List.forall_mem_cons, succeeds_compile first, succeeds_compileEach others]

end

end Expr

/-- An expression that is read has a condition just if each of its parts, at any depth and in any place,
can be expressed. Its condition has no empty part, asks for no entity and has no key twice in a record, so
that it and its negation are read back from their texts. -/
theorem compile_of_parse {source : String} {e : Expr} (parsed : parse source = .ok e) :
    ((∃ c warnings, e.compile = .ok (c, warnings)) ↔
      ∀ part, Part Expr.children part e → part.IsSupported) ∧
    ∀ c warnings, e.compile = .ok (c, warnings) →
      (∀ part, Part Condition.children part c → part.IsPlainPart) ∧
      (∃ x, c.toExpr? = some x ∧ Cedar.Expr.parse? c.text = some x) ∧
      ∃ x, (Condition.not c).toExpr? = some x ∧ Cedar.Expr.parse? (Condition.not c).text = some x := by
  refine ⟨Expr.succeeds_compile (produced_of_parse parsed).isNamed, fun c warnings isCompiled => ?_⟩
  have plain : c.IsPlain := e.ensures_compile c warnings isCompiled
  have written {d : Condition} (h : d.IsPlain) :
      ∃ x, d.toExpr? = some x ∧ Cedar.Expr.parse? d.text = some x := by
    obtain ⟨x, stands⟩ := Condition.toExpr?_of_isProper (Condition.isProper_of_isPlain h)
    exact ⟨x, stands, Condition.parse?_of_toExpr? stands⟩
  exact ⟨plain, written plain,
    written (Condition.isPlain_of_children trivial (List.forall_mem_singleton.mpr plain))⟩

/-- In the second source a part of the tested path cannot be expressed. -/
theorem compile_of_parse_path :
    let sources := ("has(object.spec) ? object.name.endsWith('-x') : [\x7b'k': 1\x7d] == a", "has([null].a)")
    (∃ e c warnings, parse sources.1 = .ok e ∧ e.compile = .ok (c, warnings) ∧
      (∀ part, Part Expr.children part e → part.IsSupported) ∧
      ∃ x, Cedar.Expr.parse? (Condition.not c).text = some x) ∧
    ∃ e, parse sources.2 = .ok e ∧ ¬∀ part, Part Expr.children part e → part.IsSupported := by
  intro sources
  constructor
  · have reads : (parse sources.1).toOption.any (fun e => e.compile.toOption.any fun _ => true) = true := by
      decide +kernel
    obtain ⟨e, parsed, compiles⟩ := exists_eq_ok reads
    obtain ⟨⟨c, warnings⟩, compiled, -⟩ := exists_eq_ok compiles
    obtain ⟨supported, written⟩ := compile_of_parse parsed
    obtain ⟨-, -, x, -, read⟩ := written c warnings compiled
    exact ⟨e, c, warnings, parsed, compiled, supported.mp ⟨c, warnings, compiled⟩, x, read⟩
  · have reads : (parse sources.2).toOption.any (fun e => e.compile.toOption.isNone) = true := by
      decide +kernel
    obtain ⟨e, parsed, fails⟩ := exists_eq_ok reads
    refine ⟨e, parsed, fun supported => ?_⟩
    obtain ⟨c, warnings, compiled⟩ := (compile_of_parse parsed).1.mpr supported
    rw [compiled] at fails
    cases fails

end ClusterPolicy.Cel
