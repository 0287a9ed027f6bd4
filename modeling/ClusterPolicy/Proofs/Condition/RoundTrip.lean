import ClusterPolicy.Proofs.Cedar.Levels
import ClusterPolicy.Proofs.Condition.Spacing
import ClusterPolicy.Proofs.Number.Long

namespace ClusterPolicy.Condition

open Cedar Cedar.Parser

theorem level_le (c : Condition) : c.level ≤ 7 := by
  cases c with
  | long n => simp only [level]; split <;> omega
  | binary op => cases op <;> simp [level, Operator.level]
  | _ => simp [level]

/-- Every level of nesting takes a token, so the tokens bound the depth. -/
def Reads (c : Condition) (e : Expr) : Prop :=
  ∀ depth, (tokensOf c.lexemes).length ≤ depth → Stands (expr depth) c.level (tokensOf c.lexemes) e

@[simp] theorem enclose_false (ls : List Lexeme) : enclose false ls = ls := rfl

@[simp] theorem tokensOf_spaced (t : Token) : tokensOf (spaced t) = [t] := rfl

theorem leads_quote (s : String) : 7 < (Token.quote s).leads := by
  simp [Token.leads, Token.quote, Token.word]

theorem isNameSegment_of_isAttribute {attr : String} (h : isAttribute attr = true) :
    isNameSegment attr.toList = true := by
  simp only [isAttribute, Bool.and_eq_true, Bool.not_eq_true'] at h
  obtain ⟨⟨ident, free⟩, ownPrefix⟩ := h
  have different : attr ≠ "__cedar" := by
    rintro rfl
    exact absurd ownPrefix (by decide)
  have reserved : ("__cedar" :: keywords).contains attr = false := by
    rw [List.contains_cons, free, Bool.or_false]
    simpa using different
  simp only [isNameSegment, ident, String.ofList_toList, reserved]
  rfl

theorem attr_attrToken (attr : String) (rest : List Token) :
    Parser.attr (attrToken attr :: rest) = some (attr, rest) := by
  unfold attrToken
  split
  · rename_i bare
    simp [Parser.attr, Token.word, isNameSegment_of_isAttribute bare]
  · simp [Parser.attr, Token.quote]

theorem pattern_patternToken (p : Pattern) (rest : List Token) :
    Parser.pattern (patternToken p :: rest) = some (p.elems, rest) := by
  simp [Parser.pattern, patternToken, unescapePattern?_escaped]

namespace Reads

variable {c : Condition} {e : Expr} {depth : Nat}

theorem nested (h : c.Reads e) (room : (tokensOf c.lexemes).length < depth) (rest : List Token)
    (ends : Ends 0 rest) : expr depth (tokensOf c.lexemes ++ rest) = some (e, rest) := by
  cases depth with
  | zero => omega
  | succ depth => exact ((h depth (by omega)).mono (Nat.zero_le _) (level_le c)).reads rest ends

theorem enclosed (h : c.Reads e) {k : Nat} (hk : k ≤ 7)
    (room : (tokensOf (enclose (c.level < k) c.lexemes)).length ≤ depth) :
    Stands (expr depth) k (tokensOf (enclose (c.level < k) c.lexemes)) e := by
  by_cases lower : c.level < k
  · simp only [enclose, lower, decide_true, ↓reduceIte, List.cons_append, tokensOf_symbol,
      tokensOf_append, tokensOf_nil, List.length_cons, List.length_append, List.length_nil] at room ⊢
    exact (Stands.paren (h.nested (by omega))).mono hk (Nat.le_refl 7)
  · simp only [enclose, lower, decide_false, Bool.false_eq_true, ↓reduceIte] at room ⊢
    exact (h depth room).mono (by omega) (level_le c)

section
variable {a b : Condition} {ea eb : Expr} {t : Token}

theorem operator (ha : a.Reads ea) (hb : b.Reads eb) {k : Nat} {build : Expr → Expr → Expr}
    (chains : Chains k) (ht : build? k t = some build)
    (room : (tokensOf (enclose (a.level < k) a.lexemes ++ spaced t ++
      enclose (b.level < k + 1) b.lexemes)).length ≤ depth) :
    Stands (expr depth) k (tokensOf (enclose (a.level < k) a.lexemes ++ spaced t ++
      enclose (b.level < k + 1) b.lexemes)) (build ea eb) := by
  have bound : k < 7 := by
    simp only [Chains, List.mem_cons, List.not_mem_nil, or_false] at chains
    have notMember : k ≠ 7 := by rintro rfl; simp [build?] at ht
    omega
  simp only [tokensOf_append, tokensOf_spaced, List.append_assoc, List.cons_append, List.nil_append,
    List.length_append, List.length_cons] at room ⊢
  have left : Stands (expr depth) k _ ea := ha.enclosed (by omega) (by omega)
  have right : Stands (expr depth) (k + 1) _ eb := hb.enclosed (by omega) (by omega)
  exact .chain chains (left.leads.append _) ((left.grows chains).operator ht right.reads)

theorem comparison (ha : a.Reads ea) (hb : b.Reads eb) {op : Operator}
    (ht : comparison? t = some op)
    (room : (tokensOf (enclose (a.level < 4) a.lexemes ++ spaced t ++
      enclose (b.level < 4) b.lexemes)).length ≤ depth) :
    Stands (expr depth) 3 (tokensOf (enclose (a.level < 4) a.lexemes ++ spaced t ++
      enclose (b.level < 4) b.lexemes)) (.binary op ea eb) := by
  simp only [tokensOf_append, tokensOf_spaced, List.append_assoc, List.cons_append, List.nil_append,
    List.length_append, List.length_cons] at room ⊢
  have left : Stands (expr depth) 4 _ ea := ha.enclosed (by omega) (by omega)
  have right : Stands (expr depth) 4 _ eb := hb.enclosed (by omega) (by omega)
  refine ⟨(left.leads.mono (by decide)).append _, reads_comparison left.reads ht right.reads, ?_⟩
  intro chains
  exact absurd chains (by decide)

theorem not (ha : a.Reads ea) : (Condition.not a).Reads (.not ea) := by
  intro depth room
  simp only [lexemes, tokensOf_symbol, List.length_cons] at room ⊢
  have operand : Stands (expr depth) 7 _ ea := ha.enclosed (by omega) (by omega)
  exact .plain (k := 6) (by decide) ⟨_, _, rfl, by decide⟩ (reads_not operand.leads operand.reads)

theorem neg (ha : a.Reads ea) (whole : NotNumber (tokensOf (enclose (a.level < 7) a.lexemes))) :
    (Condition.neg a).Reads (.neg ea) := by
  intro depth room
  simp only [lexemes, tokensOf_symbol, List.length_cons] at room ⊢
  have operand : Stands (expr depth) 7 _ ea := ha.enclosed (by omega) (by omega)
  exact .plain (k := 6) (by decide) ⟨_, _, rfl, by decide⟩ (reads_neg operand.leads whole operand.reads)

theorem like (ha : a.Reads ea) (p : Pattern) : (Condition.like a p).Reads (.like ea p.elems) := by
  intro depth room
  simp only [lexemes, tokensOf_append, tokensOf_spaced, tokensOf_token, tokensOf_nil,
    List.append_assoc, List.cons_append, List.nil_append, List.length_append, List.length_cons] at room ⊢
  have operand : Stands (expr depth) 4 _ ea := ha.enclosed (by omega) (by omega)
  have leads := operand.leads.mono (j := 3) (by decide)
  exact .plain (k := 3) (by decide) (leads.append _) (reads_like operand.reads (pattern_patternToken p))

theorem has (ha : a.Reads ea) (attr : String) : (Condition.has a attr).Reads (.has ea attr) := by
  intro depth room
  simp only [lexemes, tokensOf_append, tokensOf_spaced, tokensOf_token, tokensOf_nil,
    List.append_assoc, List.cons_append, List.nil_append, List.length_append, List.length_cons] at room ⊢
  have operand : Stands (expr depth) 4 _ ea := ha.enclosed (by omega) (by omega)
  have leads := operand.leads.mono (j := 3) (by decide)
  exact .plain (k := 3) (by decide) (leads.append _) (reads_has operand.reads (attr_attrToken attr))

theorem is (ha : a.Reads ea) {type : String} (name : isName type = true) :
    (Condition.is a type).Reads (.is ea type) := by
  intro depth room
  simp only [lexemes, tokensOf_append, tokensOf_spaced, tokensOf_map_token,
    List.append_assoc, List.cons_append, List.nil_append, List.length_append, List.length_cons] at room ⊢
  have operand : Stands (expr depth) 4 _ ea := ha.enclosed (by omega) (by omega)
  have leads := operand.leads.mono (j := 3) (by decide)
  exact .plain (k := 3) (by decide) (leads.append _) (reads_is operand.reads name)

theorem access (ha : a.Reads ea) (attr : String) :
    (Condition.access a attr).Reads (.access ea attr) := by
  intro depth room
  simp only [lexemes, tokensOf_append, List.length_append] at room ⊢
  have operand : Stands (expr depth) 7 _ ea := ha.enclosed (by omega) (by omega)
  have grown := operand.grows (by decide)
  refine .chain (k := 7) (by decide) (operand.leads.append _) ?_
  unfold selection
  split
  · rename_i bare
    have read := grown.field (isNameSegment_of_isAttribute bare)
    rwa [String.ofList_toList] at read
  · exact grown.index attr

theorem contains (ha : a.Reads ea) (hb : b.Reads eb) :
    (Condition.binary .contains a b).Reads (.binary .contains ea eb) := by
  intro depth room
  simp only [lexemes, tokensOf_append, tokensOf_symbol, tokensOf_word, tokensOf_nil,
    List.append_assoc, List.cons_append, List.nil_append, List.length_append, List.length_cons,
    List.length_nil] at room ⊢
  have operand : Stands (expr depth) 7 _ ea := ha.enclosed (by omega) (by omega)
  exact .chain (k := 7) (by decide) (operand.leads.append _)
    ((operand.grows (by decide)).contains (hb.nested (by omega)))

theorem ite (hc : c.Reads e) (ha : a.Reads ea) (hb : b.Reads eb) :
    (Condition.ite c a b).Reads (.ite e ea eb) := by
  intro depth room
  simp only [lexemes, tokensOf_append, tokensOf_spaced, tokensOf_word, tokensOf_blank,
    List.append_assoc, List.cons_append, List.nil_append, List.length_append, List.length_cons] at room ⊢
  have read : Parser.Reads (expr depth) 0 _ _ :=
    reads_ite (hc.nested (by omega)) (ha.nested (by omega)) (hb.nested (by omega))
  exact .plain (k := 0) (by decide) ⟨_, _, rfl, by decide⟩ (by simpa using read)

end

end Reads

/-! ## Numbers -/

theorem reads_long (n : Int64) : (long n).Reads (.long n) := by
  intro depth _
  by_cases h : n < 0
  · simp only [lexemes, longLexemes, h, ↓reduceIte, level]
    exact .plain (by decide) ⟨_, _, rfl, by decide⟩ (reads_negative (Number.long?_neg_natAbs h))
  · simp only [lexemes, longLexemes, h, ↓reduceIte, level]
    have value := Number.long?_natAbs (Int64.not_lt.mp h)
    exact .operand (by simp [Token.leads, Token.word]) fun rest _ => primary_number value rest

/-- A literal takes no parentheses behind a minus. -/
theorem lexemes_negLong {n : Int64} (h : 0 ≤ n) :
    tokensOf (neg (long n)).lexemes = [.symbol .minus, .number n.toInt.natAbs] := by
  have positive : ¬n < 0 := Int64.not_lt.mpr h
  simp [lexemes, longLexemes, level, positive, enclose]

theorem reads_negLong {n : Int64} (h : 0 ≤ n) : (neg (long n)).Reads (.long (-n)) := by
  intro depth _
  rw [lexemes_negLong h]
  exact .plain (k := 6) (by decide) ⟨_, _, rfl, by decide⟩ (reads_negative (Number.long?_neg h))

theorem notNumber_cons {t : Token} (h : ∀ n, t ≠ .number n) (ts : List Token) :
    NotNumber (t :: ts) := by
  rintro n _ ⟨⟩
  exact absurd rfl (h n)

/-- A suffix behind an operand, also behind a number alone. -/
theorem notNumber_append {ts suffix : List Token} (h : NotNumber ts ∨ ∃ n, ts = [.number n])
    (hs : ∃ t ∈ suffix.head?, t = .symbol .point ∨ t = .symbol .bracketOpen) :
    NotNumber (ts ++ suffix) := by
  obtain ⟨t, ht, isSuffix⟩ := hs
  obtain ⟨more, rfl⟩ := List.head?_eq_some_iff.mp ht
  rcases h with whole | ⟨n, rfl⟩
  · cases ts with
    | nil => exact notNumber_cons (by rcases isSuffix with rfl | rfl <;> simp) more
    | cons u ts =>
      rintro n _ ⟨⟩
      obtain ⟨v, hv, isSuffix⟩ := whole n ts rfl
      obtain ⟨behind, rfl⟩ := List.head?_eq_some_iff.mp hv
      exact ⟨v, rfl, isSuffix⟩
  · rintro _ _ ⟨⟩
    exact ⟨t, rfl, isSuffix⟩

theorem selection_starts (attr : String) : ∃ t ∈ (tokensOf (selection attr)).head?,
    t = .symbol .point ∨ t = .symbol .bracketOpen := by
  unfold selection
  split
  · exact ⟨_, rfl, .inl rfl⟩
  · exact ⟨_, rfl, .inr rfl⟩

/-- Of the operands, only a literal is a number alone. -/
theorem literal_or_notNumber (a : Condition) :
    (∃ n : Int64, a = .long n ∧ 0 ≤ n) ∨ NotNumber (tokensOf (enclose (a.level < 7) a.lexemes)) := by
  by_cases lower : a.level < 7
  · simp only [enclose, lower, decide_true, ↓reduceIte]
    exact .inr (notNumber_cons (by simp) _)
  · have literal (b : Condition) (h : ∃ n : Int64, b = .long n ∧ 0 ≤ n) :
        ∃ n, tokensOf (enclose (b.level < 7) b.lexemes) = [.number n] := by
      obtain ⟨n, rfl, hn⟩ := h
      have positive : ¬n < 0 := Int64.not_lt.mpr hn
      exact ⟨n.toInt.natAbs, by simp [lexemes, longLexemes, level, positive, enclose]⟩
    simp only [lower, decide_false]
    cases a with
    | long n =>
      have positive : 0 ≤ n := by
        refine Int64.not_lt.mp fun negative => lower ?_
        simp [level, negative]
      exact .inl ⟨n, rfl, positive⟩
    | access b attr =>
      have start := (literal_or_notNumber b).symm.imp_right (literal b)
      rw [enclose_false, lexemes, tokensOf_append]
      exact .inr (notNumber_append start (selection_starts attr))
    | binary op b c =>
      cases op with
      | contains =>
        have start := (literal_or_notNumber b).symm.imp_right (literal b)
        rw [enclose_false, lexemes, List.append_assoc, List.append_assoc, tokensOf_append]
        exact .inr (notNumber_append start ⟨_, rfl, .inl rfl⟩)
      | _ => simp [level, Operator.level] at lower
    | entity uid =>
      obtain ⟨first, more, -, ht⟩ := Token.ofName_eq uid.type
      rw [enclose_false, lexemes, tokensOf_map_token, Token.ofUid, ht]
      exact .inr (notNumber_cons (by simp) _)
    | empty | var _ | bool _ | string _ | decimal _ | set _ | record _ =>
      exact .inr (notNumber_cons (by simp [Token.word, Token.quote]) _)
    | _ => simp [level] at lower

/-- Of the whole operands, only a literal is a number alone. -/
theorem notNumber_lexemes {a : Condition} (negative : ∀ n, a = .long n → n < 0) :
    NotNumber (tokensOf (enclose (a.level < 7) a.lexemes)) := by
  rcases literal_or_notNumber a with ⟨n, rfl, hn⟩ | whole
  · exact absurd (negative n rfl) (Int64.not_lt.mpr hn)
  · exact whole

/-! ## Words and lists -/

theorem reads_string (s : String) : (string s).Reads (.string s) :=
  fun _ _ => .operand (leads_quote s) fun rest _ => primary_string s rest

theorem reads_decimal (text : String) : (decimal text).Reads (.decimal (.string text)) := by
  intro depth room
  have inner : 1 < depth := Nat.lt_of_lt_of_le (by decide : 1 < 4) room
  exact .operand (by decide) fun rest _ => primary_decimal ((reads_string text).nested inner) rest

theorem reads_entity {uid : EntityUid} (name : isName uid.type = true) :
    (entity uid).Reads (.entity uid) := by
  intro depth room
  obtain ⟨first, more, hs, ht⟩ := Token.ofName_eq uid.type
  have segment : isNameSegment first = true :=
    List.all_eq_true.mp name first (hs ▸ List.mem_cons_self)
  have notIf := ne_of_keyword segment "if" (by decide)
  have read (rest : List Token) : primary (expr depth) (Token.ofUid uid ++ rest) = _ :=
    primary_entity name rest
  rw [lexemes, tokensOf_map_token]
  simp only [Token.ofUid, ht, List.cons_append] at read ⊢
  exact .operand (by simp [Token.leads, Token.word, notIf, -String.reduceToList]) fun rest _ => read rest

/-- An item of a list, up to the comma or bracket behind it. -/
theorem Reads.item {c : Condition} {e : Expr} {depth : Nat} {close : Symbol} (h : c.Reads e)
    (room : (tokensOf c.lexemes).length < depth) (closes : (Token.symbol close).leads = 0)
    (free : (Token.symbol close).pull = 0) :
    ReadsItem (expr depth) close (tokensOf c.lexemes) e where
  starts := by
    obtain ⟨t, more, ht, leads⟩ := (h depth (by omega)).leads
    refine ⟨t, more, ht, ?_⟩
    rintro rfl
    omega
  reads t rest isEnd := by
    apply h.nested room
    rintro _ ⟨⟩
    rcases isEnd with rfl | rfl
    · exact .inl rfl
    · exact .inl free

theorem length_le_intercalate {ts : List Token} {tss : List (List Token)} (h : ts ∈ tss) :
    ts.length ≤ ([Token.symbol .comma].intercalate tss).length := by
  induction tss with
  | nil => cases h
  | cons first others ih =>
    cases others with
    | nil => simp_all
    | cons second others =>
      rw [List.intercalate_cons_cons]
      simp only [List.length_append]
      rcases List.mem_cons.mp h with rfl | h
      · omega
      · have := ih h
        omega

theorem tokensOf_itemLexemes (items : List Condition) : tokensOf (itemLexemes items) =
    [Token.symbol .comma].intercalate (items.map fun c => tokensOf c.lexemes) := by
  rw [itemLexemes_eq, tokensOf_intercalate, List.map_map]
  rfl

theorem reads_set {items : List Condition} {es : List Expr} (h : List.Forall₂ Reads items es) :
    (set items).Reads (.set es) := by
  intro depth room
  have tokens : tokensOf (set items).lexemes = .symbol .bracketOpen ::
      ([Token.symbol .comma].intercalate (items.map fun c => tokensOf c.lexemes) ++
        [.symbol .bracketClose]) := by
    simp [lexemes, tokensOf_itemLexemes]
  rw [tokens] at room ⊢
  simp only [List.length_cons, List.length_append, List.length_nil] at room
  have short : ∀ c ∈ items, (tokensOf c.lexemes).length < depth := by
    intro c hc
    have := length_le_intercalate (List.mem_map_of_mem (f := fun c => tokensOf c.lexemes) hc)
    omega
  have read : List.Forall₂ (ReadsItem (expr depth) .bracketClose)
      (items.map fun c => tokensOf c.lexemes) es :=
    List.forall₂_map_left_iff.mpr (((List.forall₂_and_left _ _).mpr ⟨short, h⟩).imp
      fun _ _ both => both.2.item both.1 (by decide) (by decide))
  exact .operand (by decide) fun rest _ => by simpa using primary_set read rest

theorem tokensOf_fieldLexemes (fields : List (String × Condition)) : tokensOf (fieldLexemes fields) =
    [Token.symbol .comma].intercalate (fields.map fun f => tokensOf (keyed f)) := by
  rw [fieldLexemes_eq, tokensOf_intercalate, List.map_map]
  rfl

theorem tokensOf_keyed (f : String × Condition) :
    tokensOf (keyed f) = .quote f.1 :: .symbol .colon :: tokensOf f.2.lexemes := by
  simp [keyed]

theorem Reads.field {f : String × Condition} {g : String × Expr} {depth : Nat} (key : f.1 = g.1)
    (h : f.2.Reads g.2) (room : (tokensOf (keyed f)).length < depth) :
    ReadsItem (Parser.field (expr depth)) .braceClose (tokensOf (keyed f)) g where
  starts := ⟨_, _, tokensOf_keyed f, nofun⟩
  reads t rest isEnd := by
    rw [tokensOf_keyed] at room ⊢
    simp only [List.length_cons] at room
    have item : ReadsItem (expr depth) .braceClose _ g.2 := h.item (by omega) (by decide) (by decide)
    have value := item.reads t rest isEnd
    simp [Parser.field, recordKey, Parser.attr, Token.quote, value, key]

theorem reads_record {fields : List (String × Condition)} {es : List (String × Expr)}
    (distinct : (fields.map (·.1)).Nodup)
    (h : List.Forall₂ (fun f g => f.1 = g.1 ∧ f.2.Reads g.2) fields es) :
    (record fields).Reads (.record es) := by
  intro depth room
  have tokens : tokensOf (record fields).lexemes = .symbol .braceOpen ::
      ([Token.symbol .comma].intercalate (fields.map fun f => tokensOf (keyed f)) ++ [.symbol .braceClose]) := by
    simp [lexemes, tokensOf_fieldLexemes]
  rw [tokens] at room ⊢
  simp only [List.length_cons, List.length_append, List.length_nil] at room
  have short : ∀ f ∈ fields, (tokensOf (keyed f)).length < depth := by
    intro f hf
    have := length_le_intercalate (List.mem_map_of_mem (f := fun f => tokensOf (keyed f)) hf)
    omega
  have keys : fields.map (·.1) = es.map (·.1) := by
    rw [← List.forall₂_eq_eq_eq, List.forall₂_map_left_iff, List.forall₂_map_right_iff]
    exact h.imp fun _ _ => And.left
  have read : List.Forall₂ (ReadsItem (Parser.field (expr depth)) .braceClose)
      (fields.map fun f => tokensOf (keyed f)) es :=
    List.forall₂_map_left_iff.mpr (((List.forall₂_and_left _ _).mpr ⟨short, h⟩).imp
      fun _ _ both => both.2.2.field both.2.1 both.1)
  exact .operand (by decide) fun rest _ => by
    simpa using primary_record read (keys ▸ distinct) rest

/-- The tokens of every condition that stands for an expression are read as this expression. -/
theorem reads_of_toExpr? {c : Condition} {e : Expr} (h : c.toExpr? = some e) : c.Reads e := by
  apply toExpr?_induction (motive := Reads) <;> intros
  case h => exact h
  case empty => exact fun _ _ => .operand (by decide) fun rest _ => primary_bool true rest
  case var v => exact fun _ _ => .operand (by cases v <;> decide) fun rest ends => primary_var v ends
  case bool b => exact fun _ _ => .operand (by cases b <;> decide) fun rest _ => primary_bool b rest
  case long n => exact reads_long n
  case string s => exact reads_string s
  case decimal text => exact reads_decimal text
  case entity uid name => exact reads_entity name
  case and a b _ _ ha hb => exact fun _ room => ha.operator hb (k := 2) (by decide) rfl room
  case or a b _ _ ha hb => exact fun _ room => ha.operator hb (k := 1) (by decide) rfl room
  case not a _ ha => exact ha.not
  case negLong n h => exact reads_negLong h
  case neg a _ negative ha => exact ha.neg (notNumber_lexemes negative)
  case binary op a b _ _ ha hb =>
    cases op with
    | contains => exact ha.contains hb
    | add => exact fun _ room => ha.operator hb (k := 4) (by decide) rfl room
    | subtract => exact fun _ room => ha.operator hb (k := 4) (by decide) rfl room
    | multiply => exact fun _ room => ha.operator hb (k := 5) (by decide) rfl room
    | _ => exact fun _ room => ha.comparison hb rfl room
  case like a _ pattern ha => exact ha.like pattern
  case has a _ attr ha => exact ha.has attr
  case access a _ attr ha => exact ha.access attr
  case is a _ type name ha => exact ha.is name
  case ite c a b _ _ _ hc ha hb => exact hc.ite ha hb
  case set items _ h => exact reads_set h
  case record fields _ distinct h => exact reads_record distinct h

theorem wholeExpr_lexemes {c : Condition} {e : Expr} (h : c.toExpr? = some e) (rest : List Token)
    (ends : Ends 0 rest) : wholeExpr (tokensOf c.lexemes ++ rest) = some (e, rest) := by
  have room : (tokensOf c.lexemes).length < (tokensOf c.lexemes ++ rest).length + 1 := by
    rw [List.length_append]
    omega
  exact (reads_of_toExpr? h).nested room rest ends

/-- The expression that a condition stands for is all of what its text says. -/
theorem parse?_of_toExpr? {c : Condition} {e : Expr} (h : c.toExpr? = some e) :
    Expr.parse? c.text = some e := by
  have read := wholeExpr_lexemes h [] (by simp [Ends])
  rw [List.append_nil] at read
  simp only [Expr.parse?, scan?_text h, Option.bind_eq_bind, Option.bind_some, read]

/-- The text of a condition is one expression of the grammar, with the same operators on the same
operands, the same strings and the same patterns. Only a minus before a literal goes into it. -/
theorem parse?_text {c : Condition} (proper : c.isProper = true) :
    ∃ e, c.toExpr? = some e ∧ Expr.parse? c.text = some e := by
  obtain ⟨e, he⟩ := toExpr?_of_isProper proper
  exact ⟨e, he, parse?_of_toExpr? he⟩

theorem parse?_text_grouped :
    let c : Condition := .and (.or (.has .principal "a b") (.is .resource "k8s::Resource"))
      (.equal (.binary .subtract (.long 1) (.binary .add (.neg (.long 2)) (.long 3)))
        (.record [("if", .like .context [.wildcard, .literal "*"])]))
    c.isProper = true ∧ ∃ e, c.toExpr? = some e ∧ Expr.parse? c.text = some e :=
  ⟨by decide, parse?_text (by decide)⟩

end ClusterPolicy.Condition
