import ClusterPolicy.Proofs.Cel.RoundTrip
import ClusterPolicy.Proofs.Cel.Support

/-! What a condition says of the expression it was compiled from, if nothing was warned of. -/

namespace ClusterPolicy

open Cel (Expr Literal)

namespace Condition

def functionOf : Cedar.Operator → String
  | .equal => "_==_"
  | .notEqual => "_!=_"
  | .add => "_+_"
  | .subtract => "_-_"
  | .multiply => "_*_"
  | _ => ""

/-- The entry of a map, which is a record of two fields. -/
def entryOf : List Expr → List (Expr × Expr)
  | [key, value] => [(key, value)]
  | _ => []

mutual

/-- The expression that a condition is compiled from without a warning. A test of a selection stands behind
guards that say nothing new. -/
def origin : Condition → Expr
  | bool value => .literal (.bool value)
  | long value => .literal (.int value)
  | string value => .literal (.string value)
  | var _ => .ident "object"
  | access (var .context) name => .ident name
  | access operand field => .select operand.origin field false
  | has operand field => .select operand.origin field true
  | and _ (has (access operand inner) field) => .select (access operand inner).origin field true
  | and left right => .call "_&&_" [left.origin, right.origin]
  | or left right => .call "_||_" [left.origin, right.origin]
  | not operand => .call "!_" [operand.origin]
  | neg operand => .call "-_" [operand.origin]
  | binary .contains collection element => .call "@in" [element.origin, collection.origin]
  | binary op left right => .call (functionOf op) [left.origin, right.origin]
  | like operand [.literal text, .wildcard] => .method operand.origin "startsWith" [.literal (.string text)]
  | like operand [.wildcard, .literal text] => .method operand.origin "endsWith" [.literal (.string text)]
  | like operand [.wildcard, .literal text, .wildcard] =>
    .method operand.origin "contains" [.literal (.string text)]
  | ite condition yes no => .call "_?_:_" [condition.origin, yes.origin, no.origin]
  | set items => .list (originEach items)
  | record fields => .map (entryOf (originFields fields))
  | _ => .literal .null

def originEach : List Condition → List Expr
  | [] => []
  | c :: rest => c.origin :: originEach rest

def originFields : List (String × Condition) → List Expr
  | [] => []
  | (_, c) :: rest => c.origin :: originFields rest

end

/-- What no expression is compiled to: the context alone, and a test of a selection without its guards. -/
def IsBare : Condition → Prop
  | var .context | has (access _ _) _ => True
  | _ => False

/-- What is reached from the request, or is tested there. -/
def IsPath : Condition → Prop
  | var _ | access _ _ | has _ _ => True
  | _ => False

def IsAccess : Condition → Prop
  | access _ _ => True
  | _ => False

theorem not_isBare_of_not_isPath {c : Condition} (h : ¬c.IsPath) : ¬c.IsBare := by
  cases c with
  | var | has => exact absurd trivial h
  | _ => exact id

theorem origin_access {c : Condition} (own : ¬c.IsBare) (field : String) :
    (access c field).origin = .select c.origin field false := by
  cases c with
  | var v =>
    cases v with
    | context => exact absurd trivial own
    | _ => rfl
  | _ => rfl

theorem origin_and {left right : Condition} (own : ¬right.IsBare) :
    (and left right).origin = .call "_&&_" [left.origin, right.origin] := by
  cases right with
  | has operand field =>
    cases operand with
    | access => exact absurd trivial own
    | _ => rfl
  | _ => rfl

/-- A test behind its guards. -/
theorem both_has (guard operand : Condition) (field : String) :
    both guard (has operand field) =
      if guard.isEmpty then has operand field else and guard (has operand field) := by
  cases guard <;> rfl

end Condition

namespace Cel

open Compilation (inOrder)
open Condition (IsBare IsPath IsAccess)

/-! ## Silence -/

section
variable {α β : Type}

theorem bind_silent {t : Compilation α} {f : α → Compilation β} {b : β} :
    (t >>= f) = .ok (b, []) ↔ ∃ a, t = .ok (a, []) ∧ f a = .ok (b, []) := by
  rw [bind_eq_ok]
  constructor
  · rintro ⟨a, before, behind, first, next, none⟩
    obtain ⟨rfl, rfl⟩ := List.append_eq_nil_iff.mp none.symm
    exact ⟨a, first, next⟩
  · rintro ⟨a, first, next⟩
    exact ⟨a, [], [], first, next, rfl⟩

theorem map_silent {t : Compilation α} {f : α → β} {b : β} :
    (t >>= fun a => pure (f a)) = .ok (b, []) ↔ ∃ a, t = .ok (a, []) ∧ b = f a := by
  rw [bind_silent]
  constructor
  · rintro ⟨a, first, ⟨⟩⟩
    exact ⟨a, first, rfl⟩
  · rintro ⟨a, first, rfl⟩
    exact ⟨a, first, rfl⟩

end

/-! ## What is selected and tested -/

theorem Literal.ensures_notPath (l : Literal) : Ensures l.compile fun c => ¬c.IsPath := by
  cases l with
  | uint n =>
    simp only [Literal.compile]
    split
    · exact .pure id
    · exact .refuse _
  | double x =>
    simp only [Literal.compile]
    split
    · exact .refuse _
    · exact (Ensures.warn _).bind fun _ _ => .pure id
  | null => exact .refuse _
  | _ => exact .pure id

/-- No function makes something that is selected or tested. -/
def Meaning.Composes : Meaning → Prop
  | .unary f => ∀ c, ¬(f c).IsPath
  | .binary f => ∀ c d, ¬(f c d).IsPath
  | _ => True

theorem Meaning.composes_of (function : String) : (Meaning.of function).Composes := by
  unfold Meaning.of
  split <;> first
    | exact fun _ => id
    | exact fun _ _ => id
    | trivial

theorem Ensures.any {α : Type} (t : Compilation α) : Ensures t fun _ => True := fun _ _ _ => trivial

namespace Expr

theorem ensures_compileCall_notPath (function : String) (receiver : Option (Compilation Condition))
    (arguments : List Expr) (compiled : List (Compilation Condition)) :
    Ensures (compileCall function receiver arguments compiled) fun c => ¬c.IsPath := by
  have composes := Meaning.composes_of function
  unfold compileCall
  split
  · rename_i f isUnary
    rw [isUnary] at composes
    split
    · exact (Ensures.any _).bind fun c _ => .pure (composes c)
    · exact .refuse _
  · rename_i f isBinary
    rw [isBinary] at composes
    split
    · exact (Ensures.any _).bind fun c _ => (Ensures.any _).bind fun d _ => .pure (composes c d)
    · exact .refuse _
  · split
    · exact (Ensures.any _).bind fun _ _ => (Ensures.any _).bind fun _ _ =>
        (Ensures.any _).bind fun _ _ => .pure id
    · exact .refuse _
  · split
    · exact (Ensures.any _).bind fun _ _ => (Ensures.any _).bind fun _ _ =>
        (Ensures.any _).bind fun _ _ => .pure id
    · exact .refuse _
  · split
    · exact .refuse _
    · split
      · split
        · exact (Ensures.any _).bind fun _ _ => .pure id
        · exact .refuse _
      · exact .refuse _
  · exact .refuse _

def IsPath : Expr → Prop
  | ident _ | select _ _ _ => True
  | _ => False

/-- What is no name and no selection makes nothing that is selected or tested. -/
theorem ensures_notPath {e : Expr} (h : ¬e.IsPath) : Ensures e.compile fun c => ¬c.IsPath := by
  match e with
  | literal value => exact value.ensures_notPath
  | ident _ | select _ _ _ => exact absurd trivial h
  | call function arguments => exact ensures_compileCall_notPath _ _ _ _
  | method target function arguments => exact ensures_compileCall_notPath _ _ _ _
  | list items => exact (Ensures.any _).bind fun _ _ => .pure id
  | map [] => exact .pure id
  | map [(key, value)] => exact (Ensures.any _).bind fun _ _ => (Ensures.any _).bind fun _ _ => .pure id
  | map (_ :: _ :: _) => exact .refuse _
  | message type fields => exact .refuse _
  | comprehension kind range name body => exact .refuse _

/-- Only what is selected itself has guards. -/
theorem isAccess_iff {e : Expr} {guard c : Condition} {before behind : List Warning}
    (guards : e.presence = .ok (guard, before)) (compiled : e.compile = .ok (c, behind)) :
    c.IsAccess ↔ guard.isEmpty = false := by
  match e with
  | ident name =>
    cases guards
    cases compiled
    unfold identCondition
    by_cases isObject : name = "object"
    · simp [isObject, IsAccess, Condition.resource, Condition.isEmpty]
    · simp [isObject, IsAccess, Condition.isEmpty]
  | select operand field false =>
    obtain ⟨g, _, _, -, run, -⟩ := bind_eq_ok.mp guards
    obtain ⟨d, _, _, -, run', -⟩ := bind_eq_ok.mp run
    obtain ⟨d', _, _, -, run'', -⟩ := bind_eq_ok.mp compiled
    cases run'
    cases run''
    refine iff_of_true trivial ?_
    rw [Condition.both_has]
    split <;> rfl
  | select operand field true =>
    cases guards
    obtain ⟨g, _, _, -, run, -⟩ := bind_eq_ok.mp compiled
    obtain ⟨d, _, _, -, run', -⟩ := bind_eq_ok.mp run
    cases run'
    refine iff_of_false ?_ (by simp [Condition.isEmpty])
    rw [Condition.both_has]
    split <;> exact id
  | literal _ | call _ _ | method _ _ _ | list _ | map _ | message _ _ | comprehension _ _ _ _ =>
    cases guards
    have notPath := ensures_notPath id c behind compiled
    refine iff_of_false ?_ (by simp [Condition.isEmpty])
    cases c with
    | access => exact absurd trivial notPath
    | _ => exact id

/-- No expression is compiled to the context alone, or to a test of a selection without its guards. -/
theorem ensures_notBare (e : Expr) : Ensures e.compile fun c => ¬c.IsBare := by
  cases e with
  | ident name =>
    apply Ensures.pure
    unfold identCondition
    split <;> exact id
  | select operand field tested =>
    cases tested with
    | false => exact (Ensures.any _).bind fun _ _ => .pure id
    | true =>
      intro c warnings compiled
      obtain ⟨guard, _, _, guards, run, -⟩ := bind_eq_ok.mp compiled
      obtain ⟨d, _, _, inner, run', -⟩ := bind_eq_ok.mp run
      cases run'
      have accesses := isAccess_iff guards inner
      rw [Condition.both_has]
      split
      · rename_i unguarded
        rw [unguarded] at accesses
        cases d with
        | access => exact absurd (accesses.mp trivial) (by decide)
        | _ => exact id
      · exact id
  | literal | call | method | list | map | message | comprehension =>
    intro c warnings compiled
    exact Condition.not_isBare_of_not_isPath (ensures_notPath id c warnings compiled)

/-! ## Bytes as text -/

mutual

/-- Bytes by the text that they decode to. -/
def textual : Expr → Expr
  | literal (.bytes bytes) => literal (.string (String.ofList (Text.decodeLossy bytes)))
  | select operand field tested => select operand.textual field tested
  | call function arguments => call function (textualEach arguments)
  | method target function arguments => method target.textual function (textualEach arguments)
  | list items => list (textualEach items)
  | map entries => map (textualEntries entries)
  | e => e

def textualEach : List Expr → List Expr
  | [] => []
  | e :: rest => e.textual :: textualEach rest

def textualEntries : List (Expr × Expr) → List (Expr × Expr)
  | [] => []
  | (key, value) :: rest => (key.textual, value.textual) :: textualEntries rest

end

def IsBytes : Expr → Prop
  | literal (.bytes _) => True
  | _ => False

def IsUnsigned : Expr → Prop
  | literal (.uint _) => True
  | _ => False

mutual

theorem textual_eq_self {e : Expr} (noBytes : Everywhere children (fun part => ¬part.IsBytes) e) :
    e.textual = e := by
  obtain ⟨self, below⟩ := everywhere_iff.mp noBytes
  match e with
  | literal value =>
    cases value with
    | bytes => exact absurd trivial self
    | _ => rfl
  | select operand field tested =>
    rw [textual, textual_eq_self (below operand List.mem_cons_self)]
  | call function arguments =>
    have same : textualEach arguments = arguments := textualEach_eq_self below
    rw [textual, same]
  | method target function arguments =>
    obtain ⟨first, others⟩ := List.forall_mem_cons.mp below
    rw [textual, textual_eq_self first, textualEach_eq_self others]
  | list items =>
    have same : textualEach items = items := textualEach_eq_self below
    rw [textual, same]
  | map entries => rw [textual, textualEntries_eq_self below]
  | ident _ | message _ _ | comprehension _ _ _ _ => rfl

theorem textualEach_eq_self {es : List Expr}
    (noBytes : ∀ e ∈ es, Everywhere children (fun part => ¬part.IsBytes) e) : textualEach es = es := by
  match es with
  | [] => rfl
  | e :: rest =>
    obtain ⟨first, others⟩ := List.forall_mem_cons.mp noBytes
    rw [textualEach, textual_eq_self first, textualEach_eq_self others]

theorem textualEntries_eq_self {entries : List (Expr × Expr)}
    (noBytes : ∀ e ∈ entries.flatMap fun entry => [entry.1, entry.2],
      Everywhere children (fun part => ¬part.IsBytes) e) : textualEntries entries = entries := by
  match entries with
  | [] => rfl
  | (key, value) :: rest =>
    obtain ⟨atKey, behind⟩ := List.forall_mem_cons.mp noBytes
    obtain ⟨atValue, others⟩ := List.forall_mem_cons.mp behind
    rw [textualEntries, textual_eq_self atKey, textual_eq_self atValue, textualEntries_eq_self others]

end

/-! ## Back to expressions -/

theorem origin_literal {value : Literal} {c : Condition} (signed : ¬(literal value).IsUnsigned)
    (silent : value.compile = .ok (c, [])) : c.origin = (literal value).textual := by
  cases value with
  | uint => exact absurd trivial signed
  | null => cases silent
  | double x =>
    simp only [Literal.compile] at silent
    split at silent
    · cases silent
    · obtain ⟨_, warned, -⟩ := bind_silent.mp silent
      cases warned
  | _ =>
    cases silent
    rfl

/-- What a function makes of conditions tells the function and what it was applied to. -/
def Recovers (function : String) : Meaning → Prop
  | .unary f => ∀ c, (f c).origin = call function [c.origin]
  | .binary f => ∀ c d, ¬d.IsBare → (f c d).origin = call function [c.origin, d.origin]
  | .conditional => function = "_?_:_"
  | .pattern ofText => ∀ c text,
    (Condition.like c (ofText text)).origin = method c.origin function [literal (.string text)]
  | _ => True

theorem recovers_of (function : String) : Recovers function (Meaning.of function) := by
  unfold Meaning.of
  split <;> first
    | exact fun _ => rfl
    | exact fun _ _ own => Condition.origin_and own
    | exact fun _ _ _ => rfl
    | exact fun _ _ => rfl
    | exact rfl
    | trivial

theorem origin_call {function : String} {arguments : List Expr} {c : Condition}
    (each : ∀ e ∈ arguments, ∀ d, e.compile = .ok (d, []) → d.origin = e.textual)
    (silent : compileCall function none arguments (compileEach arguments) = .ok (c, [])) :
    c.origin = call function (textualEach arguments) := by
  have recovers := recovers_of function
  rw [compileEach_eq] at silent
  unfold compileCall at silent
  cases meaning : Meaning.of function with
  | unary f =>
    rw [meaning] at silent recovers
    match arguments with
    | [a] =>
      obtain ⟨x, run, rfl⟩ := map_silent.mp silent
      rw [recovers x, each a (by simp) x run]
      rfl
    | [] | _ :: _ :: _ => cases silent
  | binary f =>
    rw [meaning] at silent recovers
    match arguments with
    | [a, b] =>
      obtain ⟨x, run, silent⟩ := bind_silent.mp silent
      obtain ⟨y, run', rfl⟩ := map_silent.mp silent
      rw [recovers x y (ensures_notBare b y [] run'), each a (by simp) x run, each b (by simp) y run']
      rfl
    | [] | [_] | _ :: _ :: _ :: _ => cases silent
  | ordering operator symbol decimalMethod =>
    rw [meaning] at silent
    match arguments with
    | [a, b] =>
      obtain ⟨x, -, silent⟩ := bind_silent.mp silent
      obtain ⟨y, -, silent⟩ := bind_silent.mp silent
      obtain ⟨_, warned, -⟩ := bind_silent.mp silent
      cases warned
    | [] | [_] | _ :: _ :: _ :: _ => cases silent
  | conditional =>
    rw [meaning] at silent recovers
    match arguments with
    | [a, b, d] =>
      obtain ⟨x, run, silent⟩ := bind_silent.mp silent
      obtain ⟨y, run', silent⟩ := bind_silent.mp silent
      obtain ⟨z, run'', rfl⟩ := map_silent.mp silent
      rw [show function = "_?_:_" from recovers, Condition.origin, each a (by simp) x run,
        each b (by simp) y run', each d (by simp) z run'']
      rfl
    | [] | [_] | [_, _] | _ :: _ :: _ :: _ :: _ => cases silent
  | pattern ofText =>
    rw [meaning] at silent
    cases silent
  | refused obstacle =>
    rw [meaning] at silent
    cases silent

theorem origin_method {target : Expr} {function : String} {arguments : List Expr}
    {compiled : List (Compilation Condition)} {c : Condition} (isName : isIdent function = true)
    (receiver : ∀ d, target.compile = .ok (d, []) → d.origin = target.textual)
    (silent : compileCall function (some target.compile) arguments compiled = .ok (c, [])) :
    c.origin = method target.textual function (textualEach arguments) := by
  have recovers := recovers_of function
  unfold compileCall at silent
  rcases Meaning.of_isIdent isName with ⟨-, ofText, isTest⟩ | ⟨-, obstacle, isRefused⟩
  · rw [isTest] at silent recovers
    match arguments with
    | [argument] =>
      cases value : argument.stringValue? with
      | some text =>
        simp only [value] at silent
        obtain rfl := stringValue?_eq_some.mp value
        obtain ⟨x, run, rfl⟩ := map_silent.mp silent
        rw [recovers x text, receiver x run]
        rfl
      | none =>
        simp only [value] at silent
        cases silent
    | [] | _ :: _ :: _ => cases silent
  · rw [isRefused] at silent
    cases silent

theorem origin_inOrder {es : List Expr} {ds : List Condition}
    (each : ∀ e ∈ es, ∀ d, e.compile = .ok (d, []) → d.origin = e.textual)
    (silent : inOrder (compileEach es) = .ok (ds, [])) : Condition.originEach ds = textualEach es := by
  induction es generalizing ds with
  | nil =>
    cases silent
    rfl
  | cons e es ih =>
    obtain ⟨first, others⟩ := List.forall_mem_cons.mp each
    obtain ⟨d, run, silent⟩ := bind_silent.mp silent
    obtain ⟨rest, run', rfl⟩ := map_silent.mp silent
    rw [Condition.originEach, textualEach, first d run, ih others run']

mutual

/-- Where nothing was warned of, a condition tells its expression up to bytes. -/
theorem origin_compile {e : Expr} {c : Condition}
    (known : Everywhere children (fun part => part.IsNamed ∧ ¬part.IsUnsigned) e)
    (silent : e.compile = .ok (c, [])) : c.origin = e.textual := by
  obtain ⟨self, below⟩ := everywhere_iff.mp known
  match e with
  | literal value => exact origin_literal self.2 silent
  | ident name =>
    cases silent
    unfold identCondition
    split
    · rename_i isObject
      rw [isObject]
      rfl
    · rfl
  | select operand field false =>
    obtain ⟨d, run, rfl⟩ := map_silent.mp silent
    rw [Condition.origin_access (ensures_notBare operand d [] run),
      origin_compile (below operand List.mem_cons_self) run]
    rfl
  | select operand field true =>
    obtain ⟨guard, guards, silent⟩ := bind_silent.mp silent
    obtain ⟨d, run, rfl⟩ := map_silent.mp silent
    have accesses := isAccess_iff guards run
    have inner := origin_compile (below operand List.mem_cons_self) run
    rw [Condition.both_has, textual, ← inner]
    split
    · rfl
    · rename_i guarded
      rw [Bool.not_eq_true] at guarded
      cases d with
      | access => rfl
      | _ => exact absurd (accesses.mpr guarded) id
  | call function arguments =>
    exact origin_call (origin_compileEach below) silent
  | method target function arguments =>
    exact origin_method self.1 (fun d run => origin_compile (below target List.mem_cons_self) run) silent
  | list items =>
    obtain ⟨ds, run, rfl⟩ := map_silent.mp silent
    exact congrArg list (origin_inOrder (origin_compileEach below) run)
  | map [] =>
    cases silent
    rfl
  | map [(key, value)] =>
    obtain ⟨k, run, silent⟩ := bind_silent.mp silent
    obtain ⟨v, run', rfl⟩ := map_silent.mp silent
    have atKey := origin_compile (below key (by simp [children])) run
    have atValue := origin_compile (below value (by simp [children])) run'
    change map [(k.origin, v.origin)] = map [(key.textual, value.textual)]
    rw [atKey, atValue]
  | map (_ :: _ :: _) => cases silent
  | message type fields => cases silent
  | comprehension kind range name body => cases silent

theorem origin_compileEach {es : List Expr}
    (known : ∀ e ∈ es, Everywhere children (fun part => part.IsNamed ∧ ¬part.IsUnsigned) e) :
    ∀ e ∈ es, ∀ d, e.compile = .ok (d, []) → d.origin = e.textual := by
  match es with
  | [] => exact nofun
  | e :: rest =>
    obtain ⟨first, others⟩ := List.forall_mem_cons.mp known
    exact List.forall_mem_cons.mpr ⟨fun d run => origin_compile first run, origin_compileEach others⟩

end

end Expr

theorem parse_of_printed {source : String} {e : Expr} (writable : e.IsWritable) (text : e.text = source)
    (shallow : e.printed.nesting < maxDepth) : parse source = .ok e := by
  have read := (Expr.reads_printed writable).nested shallow Parser.blank_nil Parser.ends_nil
  refine Parser.parse_of_expression (Eq.trans ?_ read) rfl
  rw [← text, Expr.text, String.toList_ofList, List.append_nil, List.nil_append]

/-- Without a warning and without unsigned integers, expressions of one condition differ at most in bytes
that decode to the same text. -/
theorem textual_eq_of_compile_eq {source source' : String} {e e' : Expr} {c : Condition}
    (parsed : parse source = .ok e) (parsed' : parse source' = .ok e')
    (signed : ∀ n, ¬Part Expr.children (.literal (.uint n)) e)
    (signed' : ∀ n, ¬Part Expr.children (.literal (.uint n)) e')
    (silent : e.compile = .ok (c, [])) (silent' : e'.compile = .ok (c, [])) :
    e.textual = e'.textual ∧
      ((∀ bytes, ¬Part Expr.children (.literal (.bytes bytes)) e) →
        (∀ bytes, ¬Part Expr.children (.literal (.bytes bytes)) e') → e = e') := by
  have recovered {source : String} {e : Expr} (parsed : parse source = .ok e)
      (signed : ∀ n, ¬Part Expr.children (.literal (.uint n)) e) (silent : e.compile = .ok (c, [])) :
      c.origin = e.textual := by
    refine e.origin_compile (fun part isPart => ⟨(produced_of_parse parsed).isNamed part isPart, ?_⟩) silent
    intro isUnsigned
    unfold Expr.IsUnsigned at isUnsigned
    split at isUnsigned
    · exact signed _ isPart
    · exact isUnsigned
  have unchanged {e : Expr} (noBytes : ∀ bytes, ¬Part Expr.children (.literal (.bytes bytes)) e) :
      e.textual = e := by
    refine e.textual_eq_self fun part isPart isBytes => ?_
    unfold Expr.IsBytes at isBytes
    split at isBytes
    · exact noBytes _ isPart
    · exact isBytes
  have same : e.textual = e'.textual := by
    rw [← recovered parsed signed silent, recovered parsed' signed' silent']
  refine ⟨same, fun noBytes noBytes' => ?_⟩
  rw [← unchanged noBytes, same, unchanged noBytes']

theorem textual_eq_of_compile_eq_bytes :
    let tested (bytes : List UInt8) : Expr := .operation .or (.select (.ident "a") "b" true)
      (.operation .equal (.ident "c") (.literal (.bytes bytes)))
    parse "has(a.b) || c == b\"\\xff\"" = .ok (tested [255]) ∧
      parse "has(a.b) || c == b\"\\xfe\"" = .ok (tested [254]) ∧
      (∃ c, (tested [255]).compile = .ok (c, []) ∧ (tested [254]).compile = .ok (c, [])) ∧
      (tested [255]).textual = (tested [254]).textual := by
  intro tested
  have writable (bytes : List UInt8) : (tested bytes).IsWritable :=
    .operation (.select (.ident (by decide)) (by decide)) (.operation (.ident (by decide)) (.literal nofun))
  have parsed : parse "has(a.b) || c == b\"\\xff\"" = .ok (tested [255]) :=
    parse_of_printed (writable _) (by decide +kernel) (by decide +kernel)
  have parsed' : parse "has(a.b) || c == b\"\\xfe\"" = .ok (tested [254]) :=
    parse_of_printed (writable _) (by decide +kernel) (by decide +kernel)
  have signed (bytes : List UInt8) (n : UInt64) :
      ¬Part Expr.children (.literal (.uint n)) (tested bytes) := by
    have leaf {e : Expr} (other : e ≠ .literal (.uint n)) (single : e.children = []) :
        Everywhere Expr.children (· ≠ .literal (.uint n)) e :=
      everywhere_iff.mpr ⟨other, by simp [single]⟩
    have everywhere : Everywhere Expr.children (· ≠ .literal (.uint n)) (tested bytes) := by
      refine everywhere_iff.mpr ⟨nofun, List.forall_mem_cons.mpr ⟨?_, List.forall_mem_singleton.mpr ?_⟩⟩
      · exact everywhere_iff.mpr ⟨nofun, List.forall_mem_singleton.mpr (leaf nofun rfl)⟩
      · exact everywhere_iff.mpr ⟨nofun, List.forall_mem_cons.mpr
          ⟨leaf nofun rfl, List.forall_mem_singleton.mpr (leaf nofun rfl)⟩⟩
    exact fun isPart => everywhere _ isPart rfl
  have decoded : Text.decodeLossy [254] = Text.decodeLossy [255] := by decide +kernel
  have silent (bytes : List UInt8) : (tested bytes).compile =
      .ok (.or (.and (.has .context "a") (.has (.access .context "a") "b"))
        (.binary .equal (.access .context "c") (.string (String.ofList (Text.decodeLossy bytes)))), []) := rfl
  have silent' := silent [254]
  rw [decoded] at silent'
  exact ⟨parsed, parsed', ⟨_, silent [255], silent'⟩,
    (textual_eq_of_compile_eq parsed parsed' (signed _) (signed _) (silent _) silent').1⟩

/-- Two bytes that no text has are taken for one, and so are bytes and the text that they decode to. -/
theorem compile_bytes_silent :
    (parse "b\"\\xff\"" = .ok (.literal (.bytes [255])) ∧
      parse "b\"\\xfe\"" = .ok (.literal (.bytes [254])) ∧
      (Expr.literal (.bytes [255])).compile = .ok (.string "\ufffd", []) ∧
      (Expr.literal (.bytes [254])).compile = .ok (.string "\ufffd", []) ∧
      Expr.literal (.bytes [255]) ≠ .literal (.bytes [254])) ∧
    parse "b\"\\x61\"" = .ok (.literal (.bytes [97])) ∧ parse "\"a\"" = .ok (.literal (.string "a")) ∧
      (Expr.literal (.bytes [97])).compile = .ok (.string "a", []) ∧
      (Expr.literal (.string "a")).compile = .ok (.string "a", []) ∧
      Expr.literal (.bytes [97]) ≠ .literal (.string "a") := by
  have parsed {value : Literal} {source : String} (notDouble : ∀ x, value ≠ .double x)
      (text : (Expr.literal value).text = source) (flat : value.printed.nesting = 0) :
      parse source = .ok (.literal value) :=
    parse_of_printed (.literal notDouble) text (flat ▸ by decide)
  have compiled {bytes : List UInt8} {text : String}
      (decodes : String.ofList (Text.decodeLossy bytes) = text) :
      (Expr.literal (.bytes bytes)).compile = .ok (.string text, []) := decodes ▸ rfl
  refine ⟨⟨?_, ?_, ?_, ?_, by simp⟩, ?_, ?_, ?_, rfl, by simp⟩
  · exact parsed nofun (by decide +kernel) rfl
  · exact parsed nofun (by decide +kernel) rfl
  · exact compiled (by decide +kernel)
  · exact compiled (by decide +kernel)
  · exact parsed nofun (by decide +kernel) rfl
  · exact parsed nofun (by decide +kernel) rfl
  · exact compiled (by decide +kernel)

end Cel

end ClusterPolicy
