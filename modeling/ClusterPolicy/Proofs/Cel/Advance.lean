import ClusterPolicy.Proofs.Cel.Levels
import ClusterPolicy.Proofs.Cel.Quotation

/-! What the parsers leave of a text: an end of it, behind a value as well as where the reading ends. -/

namespace ClusterPolicy.Cel

/-- Somewhere in the text a minus stands in front of a member that is the least integer. -/
def NegatesLeast (text : List Char) : Prop :=
  ∃ after, '-' :: after <:+ text ∧ ∃ depth rest,
    Parser.member (Parser.expression depth) after = .ok (.literal (.int .minValue)) rest

theorem NegatesLeast.of_suffix {text inside : List Char} (h : NegatesLeast inside)
    (isEnd : inside <:+ text) : NegatesLeast text := by
  obtain ⟨after, minus, least⟩ := h
  exact ⟨after, minus.trans isEnd, least⟩

namespace Outcome

variable {α β : Type} {o : Outcome α} {text : List Char} {least least' deep deep' : Nat}

/-- What is left of the text, also where the reading ended. -/
def rest? : Outcome α → Option (List Char)
  | ok _ rest | miss rest | fail _ rest => some rest
  | overflow => none

/-- An end of `text` is left. It lacks at least `least` characters behind a value, and `deep` where an
expression was nested too deeply. Nothing is left where the least integer was negated. -/
def Within (text : List Char) (least deep : Nat) : Outcome α → Prop
  | ok _ rest => rest <:+ text ∧ rest.length + least ≤ text.length
  | miss rest => rest <:+ text
  | fail problem rest => rest <:+ text ∧ (problem = .tooDeep → rest.length + deep ≤ text.length)
  | overflow => NegatesLeast text

theorem Within.suffix (h : o.Within text least deep) : ∀ rest ∈ o.rest?, rest <:+ text := by
  cases o with
  | ok a rest =>
    rintro _ ⟨⟩
    exact h.1
  | miss rest =>
    rintro _ ⟨⟩
    exact h
  | fail problem rest =>
    rintro _ ⟨⟩
    exact h.1
  | overflow => exact nofun

theorem Within.mono (h : o.Within text least deep) (shorter : least' ≤ least) (shallower : deep' ≤ deep) :
    o.Within text least' deep' := by
  cases o with
  | ok a rest => exact ⟨h.1, Nat.le_trans (Nat.add_le_add_left shorter _) h.2⟩
  | miss rest => exact h
  | fail problem rest =>
    exact ⟨h.1, fun tooDeep => Nat.le_trans (Nat.add_le_add_left shallower _) (h.2 tooDeep)⟩
  | overflow => exact h

theorem Within.trans {inside : List Char} (h : o.Within inside least deep) (isEnd : inside <:+ text) :
    o.Within text least deep := by
  have length := isEnd.length_le
  cases o with
  | ok a rest => exact ⟨h.1.trans isEnd, Nat.le_trans h.2 length⟩
  | miss rest => exact List.IsSuffix.trans h isEnd
  | fail problem rest => exact ⟨h.1.trans isEnd, fun tooDeep => Nat.le_trans (h.2 tooDeep) length⟩
  | overflow => exact NegatesLeast.of_suffix h isEnd

theorem Within.ok {a : α} {rest : List Char} (isEnd : rest <:+ text) : (ok a rest).Within text 0 deep :=
  ⟨isEnd, isEnd.length_le⟩

/-- What is read behind a value starts where that value ended. -/
theorem Within.next {f : α → Parser β} {k m d e : Nat} (first : o.Within text k d)
    (behind : ∀ a rest, (f a rest).Within rest m e) (shorter : least ≤ k + m) (deeper : d ≤ k + e) :
    (o.next f).Within text least d := by
  cases o with
  | ok a rest =>
    obtain ⟨isEnd, room⟩ := first
    have second := behind a rest
    rw [ok_next]
    cases read : f a rest with
    | ok b rest' =>
      rw [read] at second
      exact ⟨second.1.trans isEnd, by have := second.2; omega⟩
    | fail problem rest' =>
      rw [read] at second
      exact ⟨second.1.trans isEnd, fun tooDeep => by have := second.2 tooDeep; omega⟩
    | miss | overflow =>
      rw [read] at second
      exact second.trans isEnd
  | miss rest => exact first
  | fail problem rest => exact first
  | overflow => exact first

end Outcome

namespace Parser

/-- From every text the parser leaves an end, which lacks so many characters. -/
def Advances {α : Type} (p : Parser α) (least deep : Nat) : Prop := ∀ s, (p s).Within s least deep

section
variable {α β : Type} {p : Parser α} {k m d e : Nat}

namespace Advances

theorem mono {k' d' : Nat} (h : Advances p k d) (shorter : k' ≤ k) (shallower : d' ≤ d) :
    Advances p k' d' :=
  fun s => (h s).mono shorter shallower

theorem pure (a : α) : Advances (Pure.pure a : Parser α) 0 d :=
  fun _ => ⟨List.suffix_rfl, Nat.le_refl _⟩

theorem fail {problem : Problem} (other : problem ≠ .tooDeep) :
    Advances (Parser.fail problem : Parser α) k d :=
  fun _ => ⟨List.suffix_rfl, fun tooDeep => absurd tooDeep other⟩

/-- What two parsers read one after the other, they leave an end behind. -/
theorem bind {f : α → Parser β} {least : Nat} (hp : Advances p k d) (hf : ∀ a, Advances (f a) m e)
    (shorter : least ≤ k + m) (deeper : d ≤ k + e) : Advances (p >>= f) least d :=
  fun s => (hp s).next (fun a rest => hf a rest) shorter deeper

theorem andThen {f : α → Parser β} (hp : Advances p k d) (hf : ∀ a, Advances (f a) 0 d) :
    Advances (p >>= f) k d :=
  hp.bind hf (Nat.le_refl _) (Nat.le_add_left ..)

/-- Behind something that was read, an expression may be nested one level deeper. -/
theorem inside {f : α → Parser β} (hp : Advances p 1 (d + 1)) (hf : ∀ a, Advances (f a) 0 d) :
    Advances (p >>= f) 1 (d + 1) :=
  hp.bind hf (Nat.le_refl _) (Nat.le_of_eq (Nat.add_comm ..))

theorem map {f : α → β} (hp : Advances p k d) : Advances (f <$> p) k d := hp.andThen fun a => .pure (f a)

theorem constant (hp : Advances p k d) (b : β) : Advances (Parser.constant b p) k d :=
  (hp.andThen fun _ => .pure ()).andThen fun _ => .pure b

theorem seqLeft {q : Parser β} (hp : Advances p k d) (hq : Advances q m d) : Advances (p <* q) k d := by
  change Advances (p >>= fun a => q >>= fun _ => Pure.pure a) k d
  exact hp.andThen fun a => (hq.mono (Nat.zero_le _) (Nat.le_refl _)).andThen fun _ => .pure a

theorem commit (hp : Advances p k d) : Advances p.commit k d := by
  intro s
  have read := hp s
  unfold Parser.commit
  split
  · rename_i missed
    rw [missed] at read
    exact ⟨read, nofun⟩
  · exact read

theorem orElse {q : Parser α} (hp : Advances p k d) (hq : Advances q k d) : Advances (p.orElse q) k d := by
  intro s
  unfold Parser.orElse
  split
  · exact hq s
  · exact hp s

theorem firstOf {last : Parser α} {before : List (Parser α)} (hl : Advances last k d)
    (hb : ∀ p ∈ before, Advances p k d) : Advances (Parser.firstOf last before) k d := by
  induction before with
  | nil => exact hl
  | cons p before ih =>
    obtain ⟨first, others⟩ := List.forall_mem_cons.mp hb
    exact first.orElse (ih others)

theorem optional (hp : Advances p k d) : Advances p.optional 0 d := by
  intro s
  have read := hp s
  unfold Parser.optional
  split
  · rename_i found
    rw [found] at read
    exact ⟨read.1, Nat.le_trans (Nat.add_le_add_left (Nat.zero_le k) _) read.2⟩
  · exact ⟨List.suffix_rfl, Nat.le_refl _⟩
  · rename_i failed
    rw [failed] at read
    exact read
  · rename_i ended
    rw [ended] at read
    exact read

theorem bounded {f : Nat → Parser α} (h : ∀ n, Advances (f n) k d) : Advances (Parser.bounded f) k d :=
  fun s => h s.length s

theorem countUpTo (hp : Advances p k d) (n : Nat) : Advances (Parser.countUpTo p n) 0 d := by
  induction n with
  | zero => exact .pure 0
  | succ n ih =>
    refine hp.optional.andThen fun o => ?_
    cases o with
    | none => exact .pure 0
    | some _ => exact ih.map

theorem count (hp : Advances p k d) : Advances p.count 0 d := .bounded hp.countUpTo

theorem itemsUpTo {separator : Parser β} (hs : Advances separator 0 d) (hp : Advances p 0 d) (n : Nat) :
    Advances (Parser.itemsUpTo separator p n) 0 d := by
  induction n with
  | zero => exact .pure []
  | succ n ih =>
    have one : Advances (separator *> p) 0 d := hs.andThen fun _ => hp
    refine one.optional.andThen fun o => ?_
    cases o with
    | none => exact .pure []
    | some a => exact ih.map

theorem items {separator : Parser β} (hs : Advances separator 0 d) (hp : Advances p 0 d) :
    Advances (Parser.items separator p) 0 d := by
  refine hp.optional.andThen fun o => ?_
  cases o with
  | none => exact .pure []
  | some a => exact (Advances.bounded fun n => hs.itemsUpTo hp n).map

end Advances

end

section
variable {α : Type} {p : Parser α} {s rest : List Char}

/-- What is found behind an optional part is behind the part, if there is one. -/
theorem of_optional_ok {o : Option α} (h : p.optional s = .ok o rest) :
    (∃ a, o = some a ∧ p s = .ok a rest) ∨ o = none ∧ rest = s := by
  unfold Parser.optional at h
  split at h
  · rename_i a _ read
    cases h
    exact .inl ⟨a, rfl, read⟩
  · cases h
    exact .inr ⟨rfl, rfl⟩
  · cases h
  · cases h

theorem of_optional_none (h : p.optional s = .ok none rest) : rest = s := by
  obtain ⟨a, isSome, -⟩ | ⟨-, same⟩ := of_optional_ok h
  · cases isSome
  · exact same

theorem ok_of_commit {a : α} (h : p.commit s = .ok a rest) : p s = .ok a rest := by
  unfold Parser.commit at h
  split at h
  · cases h
  · exact h

end

/-! ## Words and literals -/

theorem skipBlanks_suffix (inComment : Bool) (s : List Char) : skipBlanks inComment s <:+ s := by
  fun_induction skipBlanks inComment s with
  | case1 => exact List.suffix_rfl
  | case2 _ rest ih => exact ih.trans ⟨['/', '/'], rfl⟩
  | case3 c rest _ ih => exact ih.trans (List.suffix_cons c rest)
  | case4 _ c rest _ _ _ ih => exact ih.trans (List.suffix_cons c rest)
  | case5 => exact List.suffix_rfl

theorem digits?_suffix {radix : Nat} {s digits rest : List Char} (h : digits? radix s = some (digits, rest)) :
    rest <:+ s :=
  ⟨digits, (digits?_eq_some h).1.symm⟩

theorem hexadecimal?_suffix {s inside : List Char} (h : hexadecimal? s = some inside) : inside <:+ s := by
  obtain ⟨x, -, rfl⟩ := hexadecimal?_eq_some h
  exact ⟨['0', x], rfl⟩

theorem fraction_suffix (s : List Char) : (fraction s).2 <:+ s := by
  unfold fraction
  split
  · rename_i rest
    cases read : digits? 10 rest with
    | none => exact List.suffix_rfl
    | some found => exact (digits?_suffix read).trans (List.suffix_cons '.' rest)
  · exact List.suffix_rfl

theorem scale?_suffix {s rest : List Char} {scale : Int} (h : scale? s = some (scale, rest)) :
    rest <:+ s := by
  cases s with
  | nil => cases h
  | cons e more =>
    simp only [scale?] at h
    split at h
    · obtain ⟨⟨digits, behind⟩, read, same⟩ := Option.map_eq_some_iff.mp h
      cases same
      refine (digits?_suffix read).trans ?_
      split
      · rename_i behind'
        exact ⟨[e, '-'], rfl⟩
      · exact ⟨[e, '+'], rfl⟩
      · exact List.suffix_cons e _
    · cases h

theorem integer_suffix {radix : Nat} {digits rest after : List Char} {value : Literal}
    (h : integer radix digits rest = some (value, after)) : after <:+ rest := by
  obtain ⟨n, -, ⟨v, -, rfl, -⟩ | ⟨c, v, -, -, rfl, -⟩⟩ := integer_eq_some h
  · exact List.suffix_rfl
  · exact List.suffix_cons c after

theorem openString?_suffix {s inside : List Char} {style : StringStyle}
    (h : openString? s = some (style, inside)) : inside <:+ s := by
  unfold openString? at h
  extract_lets letters ofQuote at h
  have isEnd := List.drop_suffix letters.length s
  split at h
  · rename_i a b c rest shape
    rw [shape] at isEnd
    split at h
    · split at h
      · cases h
        exact .trans ⟨[a, b, c], rfl⟩ isEnd
      · cases h
        exact .trans ⟨[a], rfl⟩ isEnd
    · cases h
  · rename_i a rest _ shape
    rw [shape] at isEnd
    split at h
    · cases h
      exact .trans ⟨[a], rfl⟩ isEnd
    · cases h
  · cases h

section
variable {d : Nat}

theorem advances_blanks : Advances blanks 0 d :=
  fun s => ⟨skipBlanks_suffix false s, (skipBlanks_suffix false s).length_le⟩

theorem advances_exactly (text : List Char) : Advances (exactly text) text.length d := by
  intro s
  unfold exactly
  split
  · rename_i found
    have long := (List.isPrefixOf_iff_prefix.mp found).length_le
    refine ⟨List.drop_suffix _ s, ?_⟩
    rw [List.length_drop]
    omega
  · exact List.suffix_rfl

theorem advances_symbol (text : String) : Advances (symbol text) text.length d := by
  refine advances_blanks.bind (fun _ => advances_exactly text.toList) ?_ (Nat.le_add_left ..)
  rw [String.length_toList]
  omega

theorem advances_word (text : String) : Advances (word text) text.length d := by
  intro s
  unfold word
  split
  · rename_i found
    rw [Bool.and_eq_true] at found
    have long := (List.isPrefixOf_iff_prefix.mp found.1).length_le
    rw [String.length_toList] at long
    refine ⟨List.drop_suffix _ s, ?_⟩
    rw [List.length_drop]
    omega
  · exact List.suffix_rfl

theorem advances_keyword (text : String) : Advances (keyword text) text.length d :=
  advances_blanks.bind (fun _ => advances_word text) (by omega) (Nat.le_add_left ..)

theorem advances_bareIdent : Advances bareIdent 1 d := by
  intro s
  unfold bareIdent
  split
  · exact List.suffix_rfl
  · rename_i c rest
    dsimp only
    split
    · have isEnd : rest.dropWhile identPart <:+ rest := List.dropWhile_suffix _
      exact ⟨isEnd.trans (List.suffix_cons c rest), Nat.succ_le_succ isEnd.length_le⟩
    · exact List.suffix_rfl

theorem advances_ident : Advances ident 1 d :=
  advances_blanks.bind (fun _ => advances_bareIdent) (Nat.le_refl _) (Nat.le_add_left ..)

theorem within_integerLiteral {radix : Nat} {s start digits rest : List Char} (hs : start <:+ s)
    (hr : rest <:+ s) : (integerLiteral radix start digits rest).Within s 0 d := by
  unfold integerLiteral
  split
  · rename_i read
    exact .ok ((integer_suffix read).trans hr)
  · exact ⟨hs, nofun⟩

theorem advances_number : Advances number 0 d := by
  intro s
  unfold number
  split
  · rename_i inside isHex
    have isEnd := hexadecimal?_suffix isHex
    split
    · rename_i digits rest read
      exact within_integerLiteral List.suffix_rfl ((digits?_suffix read).trans isEnd)
    · exact ⟨isEnd, nofun⟩
  · split
    · exact List.suffix_rfl
    · rename_i whole rest read
      have isEnd : (fraction rest).2 <:+ s := (fraction_suffix rest).trans (digits?_suffix read)
      dsimp only
      split
      · rename_i scaled
        exact .ok ((scale?_suffix scaled).trans isEnd)
      · split
        · exact within_integerLiteral List.suffix_rfl isEnd
        · exact .ok isEnd

theorem advances_negatedInteger : Advances negatedInteger 0 d := by
  refine advances_blanks.andThen fun _ s => ?_
  cases hex : (hexadecimal? s).bind (digits? 16) with
  | some found =>
    obtain ⟨digits, rest⟩ := found
    obtain ⟨inside, isHex, read⟩ := Option.bind_eq_some_iff.mp hex
    have isEnd : rest <:+ s := (digits?_suffix read).trans (hexadecimal?_suffix isHex)
    dsimp only
    split
    · split
      · exact List.suffix_rfl
      · exact .ok isEnd
    · exact List.suffix_rfl
  | none =>
    cases decimal : digits? 10 s with
    | none => exact List.suffix_rfl
    | some found =>
      obtain ⟨digits, rest⟩ := found
      have isEnd : rest <:+ s := digits?_suffix decimal
      dsimp only [Option.map_some]
      split
      · split
        · exact List.suffix_rfl
        · exact .ok isEnd
      · exact List.suffix_rfl

theorem escape_ne_tooDeep {bytes : Bool} {s : List Char} : escape bytes s ≠ .error .tooDeep := by
  intro h
  unfold escape at h
  split at h
  · cases h
  · dsimp only at h
    repeat' split at h
    all_goals cases h

theorem stringParts_ne_tooDeep {style : StringStyle} {skip : Nat} {s : List Char} :
    stringParts style skip s ≠ .error .tooDeep := by
  induction s generalizing skip with
  | nil => nofun
  | cons c s ih =>
    cases skip with
    | succ n => exact ih
    | zero =>
      intro h
      unfold stringParts at h
      dsimp only at h
      split at h
      · cases h
      · split at h
        · cases h
        · split at h
          · cases read : escape style.bytes s with
            | error problem =>
              rw [read] at h
              cases h
              exact escape_ne_tooDeep read
            | ok found =>
              cases others : stringParts style found.2 s with
              | error problem =>
                simp only [read, others, bind, Except.bind] at h
                cases h
                exact ih others
              | ok => simp only [read, others, bind, Except.bind, pure, Except.pure, reduceCtorEq] at h
          · cases others : stringParts style 0 s with
            | error problem =>
              rw [others] at h
              cases h
              exact ih others
            | ok =>
              rw [others] at h
              cases h

theorem advances_stringLiteral : Advances stringLiteral 0 d := by
  intro s
  unfold stringLiteral
  split
  · exact List.suffix_rfl
  · rename_i style inside opened
    split
    · rename_i problem failed
      refine ⟨List.suffix_rfl, ?_⟩
      rintro rfl
      exact absurd failed stringParts_ne_tooDeep
    · rename_i parts rest read
      exact .ok ((quotes_of_stringParts 0 read).suffix.trans (openString?_suffix opened))

theorem advances_literal : Advances literal 0 d := by
  have ofWord (text : String) (value : Literal) : Advances (constant value (word text)) 0 d :=
    ((advances_word text).mono (Nat.zero_le _) (Nat.le_refl _)).constant value
  refine advances_stringLiteral.firstOf ?_
  simp only [List.forall_mem_cons]
  exact ⟨ofWord _ _, ofWord _ _, ofWord _ _, advances_number, nofun⟩

end

/-! ## The grammar -/

section
variable {nested : Parser Expr} {d : Nat}

theorem advances_steps {step? : Expr → Parser (Option Expr)} (link : ∀ left, Advances (step? left) 0 d)
    (n : Nat) (left : Expr) : Advances (steps step? left n) 0 d := by
  induction n generalizing left with
  | zero => exact .pure left
  | succ n ih =>
    refine (link left).andThen fun o => ?_
    cases o with
    | none => exact .pure left
    | some longer => exact ih longer

theorem advances_operatorOf (operators : List Operator) : Advances (operatorOf operators) 1 d := by
  refine Advances.firstOf (fun s => List.suffix_rfl)
    (List.forall_mem_map.mpr fun op _ => Advances.constant ?_ op)
  have long : 1 ≤ op.symbol.length := by cases op <;> decide
  split
  · exact (advances_keyword _).mono long (Nat.le_refl _)
  · exact (advances_symbol _).mono long (Nat.le_refl _)

theorem advances_link? {operand : Parser Expr} (h : Advances operand 0 d) (operators : List Operator)
    (left : Expr) : Advances (link? operators operand left) 0 d := by
  refine (advances_operatorOf operators).optional.andThen fun o => ?_
  cases o with
  | none => exact .pure none
  | some op => exact h.commit.andThen fun right => .pure _

theorem advances_chain {operand : Parser Expr} (h : Advances operand 0 d) (operators : List Operator)
    (left : Expr) (n : Nat) : Advances (chain operators operand left n) 0 d := by
  rw [chain_eq]
  exact advances_steps (advances_link? h operators) n left

theorem advances_level {operand : Parser Expr} (h : Advances operand 0 d) (operators : List Operator) :
    Advances (level operators operand) 0 d :=
  h.andThen fun left => .bounded (advances_chain h operators left)

theorem advances_symbol_zero (text : String) : Advances (symbol text) 0 d :=
  (advances_symbol text).mono (Nat.zero_le _) (Nat.le_refl _)

theorem advances_closeWith (text : String) : Advances (closeWith text) 0 d :=
  ((advances_symbol_zero ",").optional.andThen fun _ => .pure ()).andThen fun _ =>
    (advances_symbol_zero text).commit

/-! ## Signs -/

theorem suffix_of_exactly (text : List Char) {s rest : List Char} (h : exactly text s = .ok () rest) :
    text ++ rest <:+ s := by
  unfold exactly at h
  split at h
  · rename_i found
    cases h
    obtain ⟨behind, rfl⟩ := List.isPrefixOf_iff_prefix.mp found
    have whole : text ++ (text ++ behind).drop text.length = text ++ behind := by rw [List.drop_left]
    exact ⟨[], whole⟩
  · cases h

theorem suffix_of_minus {s rest : List Char} (h : (symbol "-").optional s = .ok (some ()) rest) :
    '-' :: rest <:+ s := by
  obtain ⟨_, -, read⟩ | ⟨isNone, -⟩ := of_optional_ok h
  · exact (suffix_of_exactly ['-'] read).trans (skipBlanks_suffix false s)
  · cases isNone

/-- The last of the signs that are counted stands in front of what is left. -/
theorem suffix_of_countUpTo {n count : Nat} {s rest : List Char}
    (h : countUpTo (symbol "-") n s = .ok count rest) :
    count = 0 ∧ rest = s ∨ '-' :: rest <:+ s := by
  induction n generalizing s count with
  | zero =>
    cases h
    exact .inl ⟨rfl, rfl⟩
  | succ n ih =>
    rw [countUpTo, run_bind] at h
    cases read : (symbol "-").optional s with
    | ok o between =>
      rw [read, Outcome.ok_next] at h
      cases o with
      | none =>
        cases h
        exact .inl ⟨rfl, of_optional_none read⟩
      | some _ =>
        have minus := suffix_of_minus read
        simp only [run_map] at h
        cases more : countUpTo (symbol "-") n between with
        | ok count rest =>
          rw [more] at h
          cases h
          obtain ⟨-, rfl⟩ | further := ih more
          · exact .inr minus
          · exact .inr (further.trans ((List.suffix_cons '-' between).trans minus))
        | miss | fail | overflow =>
          rw [more] at h
          cases h
    | miss | fail | overflow =>
      rw [read] at h
      cases h

theorem minValue_of_negate? {e : Expr} (h : e.negate? = none) : e = .literal (.int .minValue) := by
  unfold Expr.negate? at h
  split at h
  · split at h
    · rename_i least
      rw [least]
    · cases h
  · cases h
  · cases h

variable (inner : Advances nested 0 d)
include inner

theorem advances_arguments : Advances (arguments nested) 1 (d + 1) :=
  (advances_symbol "(").inside fun _ => ((advances_symbol_zero ",").items inner).andThen fun _ =>
    (advances_symbol_zero ")").commit.andThen fun _ => .pure _

theorem advances_pair {α : Type} {key : Parser α} (hk : Advances key 0 d) : Advances (pair key nested) 0 d :=
  hk.andThen fun _ => (advances_symbol_zero ":").commit.andThen fun _ => inner.commit.andThen fun _ => .pure _

theorem advances_fields : Advances (fields nested) 1 (d + 1) := by
  have field := advances_pair inner (advances_ident.mono (Nat.zero_le 1) (Nat.le_refl d))
  exact (advances_symbol "\x7b").inside fun _ => ((advances_symbol_zero ",").items field).andThen fun _ =>
    (advances_closeWith "\x7d").andThen fun _ => .pure _

theorem advances_parenthesized : Advances (parenthesized nested) 1 (d + 1) :=
  (advances_exactly ['(']).inside fun _ => inner.commit.andThen fun _ =>
    (advances_symbol_zero ")").commit.andThen fun _ => .pure _

theorem advances_list : Advances (list nested) 1 (d + 1) :=
  (advances_exactly ['[']).inside fun _ => ((advances_symbol_zero ",").items inner).andThen fun _ =>
    (advances_closeWith "]").andThen fun _ => .pure _

theorem advances_map : Advances (map nested) 1 (d + 1) :=
  (advances_exactly ['\x7b']).inside fun _ =>
    ((advances_symbol_zero ",").items (advances_pair inner inner)).andThen fun _ =>
      (advances_closeWith "\x7d").andThen fun _ => .pure _

theorem advances_identOrCall : Advances (identOrCall nested) 1 (d + 1) := by
  refine advances_ident.andThen fun name => (advances_arguments inner).optional.andThen fun o => ?_
  cases o with
  | none => exact .pure _
  | some es =>
    dsimp only
    split
    · split
      · exact .pure _
      · exact .fail nofun
    · exact .pure _

theorem advances_primary : Advances (primary nested) 0 (d + 1) := by
  have weaken {p : Parser Expr} (h : Advances p 1 (d + 1)) : Advances p 0 (d + 1) :=
    h.mono (Nat.zero_le 1) (Nat.le_refl _)
  refine advances_blanks.andThen fun _ => (weaken (advances_identOrCall inner)).firstOf ?_
  simp only [List.forall_mem_cons]
  exact ⟨weaken (advances_parenthesized inner), weaken (advances_list inner), weaken (advances_map inner),
    advances_literal.map, nofun⟩

theorem advances_suffix? (operand : Expr) : Advances (suffix? nested operand) 0 (d + 1) := by
  refine (advances_symbol_zero ".").optional.andThen fun point => ?_
  cases point with
  | some _ =>
    have name := advances_ident.mono (Nat.zero_le 1) (Nat.le_refl (d + 1))
    refine name.commit.andThen fun name => (advances_arguments inner).optional.andThen fun o => ?_
    cases o with
    | some es => exact .pure _
    | none => exact .pure _
  | none =>
    have index : Advances (symbol "[" *> nested.commit <* commit (symbol "]")) 1 (d + 1) :=
      Advances.seqLeft ((advances_symbol "[").inside fun _ => inner.commit) (advances_symbol "]").commit
    refine index.optional.andThen fun o => ?_
    cases o with
    | some e => exact .pure _
    | none =>
      dsimp only
      split
      · exact .pure _
      · exact (advances_fields inner).optional.andThen fun _ => .pure _

theorem advances_suffixes (operand : Expr) (n : Nat) : Advances (suffixes nested operand n) 0 (d + 1) := by
  rw [suffixes_eq]
  exact advances_steps (advances_suffix? inner) n operand

theorem advances_member : Advances (member nested) 0 (d + 1) :=
  (advances_primary inner).andThen fun operand => .bounded (advances_suffixes inner operand)

end

section
variable {depth d : Nat} (inner : Advances (expression depth) 0 d)
include inner

/-- In front of a member that the signs negate stands the last of them. -/
theorem within_negated {signs : Nat} {text s : List Char} (isEnd : s <:+ text)
    (minus : signs = 0 ∨ '-' :: s <:+ text) :
    (negated (expression depth) signs s).Within text 0 (d + 1) := by
  have member := advances_member inner
  unfold negated
  split
  · exact (member s).trans isEnd
  · rename_i some
    split
    · exact (member.commit s).trans isEnd
    · have number := advances_negatedInteger.optional (d := d + 1) s
      rw [run_bind]
      cases read : negatedInteger.optional s with
      | ok o rest =>
        rw [read] at number
        rw [Outcome.ok_next]
        cases o with
        | some value => exact Outcome.Within.ok (number.1.trans isEnd)
        | none =>
          obtain rfl := of_optional_none read
          have operand := member.commit rest
          dsimp only
          rw [run_bind]
          cases found : (Parser.member (expression depth)).commit rest with
          | ok e behind =>
            rw [found] at operand
            rw [Outcome.ok_next]
            cases negated : e.negate? with
            | some f => exact Outcome.Within.ok (operand.1.trans isEnd)
            | none =>
              obtain rfl := minValue_of_negate? negated
              exact ⟨rest, minus.resolve_left some, depth, behind, ok_of_commit found⟩
          | miss | fail | overflow =>
            rw [found] at operand
            exact operand.trans isEnd
      | miss | fail | overflow =>
        rw [read] at number
        exact number.trans isEnd

theorem advances_unary : Advances (unary (expression depth)) 0 (d + 1) := by
  refine (Advances.count (advances_symbol_zero "!")).andThen fun nots => ?_
  split
  · exact (advances_member inner).commit.andThen fun _ => .pure _
  · intro s
    have counted := Advances.count (advances_symbol_zero (d := d + 1) "-") s
    rw [run_bind]
    cases read : count (symbol "-") s with
    | ok signs rest =>
      rw [read] at counted
      rw [Outcome.ok_next]
      exact within_negated inner counted.1 ((suffix_of_countUpTo read).imp_left And.left)
    | miss | fail | overflow =>
      rw [read] at counted
      exact counted

/-- Every level of the grammar leaves an end of the text, if the operands do. -/
theorem advances_atLevel (k : Nat) : Advances (atLevel (expression depth) k) 0 (d + 1) := by
  have unary := advances_unary inner
  have disjunction : Advances (disjunction (expression depth)) 0 (d + 1) :=
    advances_level (advances_level (advances_level (advances_level (advances_level unary _) _) _) _) _
  have conditional : Advances (conditional (expression depth)) 0 (d + 1) := by
    refine disjunction.andThen fun condition => (advances_symbol_zero "?").optional.andThen fun o => ?_
    cases o with
    | none => exact .pure _
    | some _ =>
      refine disjunction.commit.andThen fun yes => ?_
      exact ((advances_symbol ":").commit.inside fun _ => inner.commit.andThen fun _ => .pure _).mono
        (Nat.zero_le 1) (Nat.le_refl _)
  unfold atLevel
  split
  · exact conditional
  · exact conditional
  · exact disjunction
  · exact advances_level (advances_level (advances_level (advances_level unary _) _) _) _
  · exact advances_level (advances_level (advances_level unary _) _) _
  · exact advances_level (advances_level unary _) _
  · exact advances_level unary _
  · exact unary
  · exact advances_member inner

end

/-- An expression that is nested too deeply stands behind a character for each level. -/
theorem advances_expression (d : Nat) : Advances (expression d) 0 d := by
  induction d with
  | zero => exact fun _ => ⟨List.suffix_rfl, fun _ => Nat.le_refl _⟩
  | succ d ih => exact advances_atLevel ih 1

end Parser

end ClusterPolicy.Cel
