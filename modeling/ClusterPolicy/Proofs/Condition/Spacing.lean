import ClusterPolicy.Condition.Text
import ClusterPolicy.Proofs.Cedar.Name
import ClusterPolicy.Proofs.Cedar.Scan
import ClusterPolicy.Proofs.Condition.Denotation

namespace ClusterPolicy

namespace Cedar

@[simp] theorem spaced_nil (next : Option Char) : Spaced next [] := trivial

@[simp] theorem spaced_token (next : Option Char) (t : Token) (ls : List Lexeme) :
    Spaced next (.token t :: ls) ↔ t.Plain ∧
      (∀ d ∈ (textOf ls).head?.or next, t.separate d = true) ∧ Spaced next ls := Iff.rfl

@[simp] theorem spaced_blank (next : Option Char) (ls : List Lexeme) :
    Spaced next (.blank :: ls) ↔ Spaced next ls := Iff.rfl

@[simp] theorem spaced_line (next : Option Char) (n : Nat) (ls : List Lexeme) :
    Spaced next (.line n :: ls) ↔ Spaced next ls := Iff.rfl

theorem Symbol.separate_not {d : Char} (h : d ≠ '=') : Symbol.separate .not d = true := by
  simp [Symbol.separate, Symbol.text, Symbol.ofPair?, h]

/-- Whether a word ends where this follows. -/
def EndsWord (next : Option Char) : Prop := ∀ d ∈ next, identPart d = false

@[simp] theorem endsWord_some (c : Char) : EndsWord (some c) ↔ identPart c = false := by
  simp [EndsWord]

theorem not_digit {d : Char} (h : identPart d = false) : Text.isDigit 10 d = false := by
  rw [Bool.eq_false_iff] at h ⊢
  intro digit
  exact h (identPart_iff.mpr (.inr (Text.digit_range digit)))

namespace Spaced

theorem symbol {next : Option Char} {s : Symbol} {ls : List Lexeme}
    (ends : ∀ d, s.separate d = true) (h : Spaced next ls) : Spaced next (.symbol s :: ls) :=
  ⟨trivial, fun d _ => ends d, h⟩

theorem quote {next : Option Char} (s : String) {ls : List Lexeme} (h : Spaced next ls) :
    Spaced next (.quote s :: ls) :=
  ⟨Quotable.flatMap Quotable.escape _, fun _ _ => rfl, h⟩

end Spaced

/-- Lexemes that may stand behind a sign, and before all that ends a word. -/
structure Printed (ls : List Lexeme) : Prop where
  starts : ∃ d, (textOf ls).head? = some d ∧ d ≠ '='
  spaced : ∀ {next}, EndsWord next → Spaced next ls

namespace Printed

theorem before {a b : List Lexeme} {c : Char} {next : Option Char} (ha : Printed a)
    (hc : (textOf b).head? = some c) (ends : identPart c = false) (hb : Spaced next b) :
    Spaced next (a ++ b) := by
  rw [spaced_append, hc]
  exact ⟨ha.spaced ((endsWord_some c).mpr ends), hb⟩

theorem append {a b : List Lexeme} {c : Char} (ha : Printed a) (hc : (textOf b).head? = some c)
    (ends : identPart c = false) (hb : ∀ {next}, EndsWord next → Spaced next b) :
    Printed (a ++ b) := by
  obtain ⟨d, hd, notEqual⟩ := ha.starts
  exact ⟨⟨d, by simp [List.head?_append, hd], notEqual⟩, fun free => ha.before hc ends (hb free)⟩

theorem word {s : List Char} (h : isIdent s = true) : Printed [.token (.ident s)] := by
  obtain ⟨c, more, rfl, start, -⟩ := isIdent_cons h
  refine ⟨⟨c, rfl, ?_⟩, fun free => ⟨h, fun d hd => by simp [Token.separate, free d hd], trivial⟩⟩
  rintro rfl
  simp [identStart_iff] at start

theorem number (n : Nat) : Printed [.token (.number n)] := by
  refine ⟨?_, fun free => ⟨trivial, fun d hd => by simp [Token.separate, not_digit (free d hd)],
    trivial⟩⟩
  cases hd : Nat.toDigits 10 n with
  | nil => simp at hd
  | cons c more =>
    refine ⟨c, by simp [Lexeme.text, Token.text, hd], ?_⟩
    rintro rfl
    have mem : '=' ∈ Nat.toDigits 10 n := by simp [hd]
    have digit := Text.isDigit_of_mem_toDigits (by decide) (by decide) mem
    exact absurd digit (by decide)

theorem string {inside : List Char} (h : Quotable inside) : Printed [.token (.string inside)] :=
  ⟨⟨'"', rfl, by decide⟩, fun _ => ⟨h, fun _ _ => rfl, trivial⟩⟩

theorem behind_sign {ls : List Lexeme} {sign : Symbol} (h : sign = .not ∨ sign = .minus)
    (hls : Printed ls) : Printed (.symbol sign :: ls) := by
  obtain ⟨d, hd, notEqual⟩ := hls.starts
  refine ⟨?_, fun free => ⟨trivial, ?_, hls.spaced free⟩⟩
  · rcases h with rfl | rfl
    · exact ⟨'!', rfl, by decide⟩
    · exact ⟨'-', rfl, by decide⟩
  · rw [hd]
    rcases h with rfl | rfl
    · simpa [Token.separate] using Symbol.separate_not notEqual
    · exact fun _ _ => rfl

theorem enclose {ls : List Lexeme} (h : Printed ls) (parentheses : Bool) :
    Printed (Condition.enclose parentheses ls) := by
  cases parentheses with
  | false => exact h
  | true =>
    refine ⟨⟨'(', rfl, by decide⟩, fun _ => ?_⟩
    have inside := h.spaced ((endsWord_some ')').mpr rfl)
    exact .symbol (fun _ => rfl) ((spaced_append _ _ _).mpr ⟨inside, .symbol (fun _ => rfl) trivial⟩)

theorem call {name : List Char} (h : isIdent name = true) (inside : List Lexeme)
    (hi : Spaced (some ')') inside) :
    Printed (.token (.ident name) :: .symbol .parenOpen :: (inside ++ [.symbol .parenClose])) := by
  refine (word h).append (c := '(') rfl rfl fun _ => .symbol (fun _ => rfl) ?_
  exact (spaced_append _ _ _).mpr ⟨hi, .symbol (fun _ => rfl) trivial⟩

theorem operator {a b : List Lexeme} {t : Token} (ha : Printed a) (hb : Printed b) (plain : t.Plain)
    (ends : t.separate ' ' = true) : Printed (a ++ Condition.spaced t ++ b) := by
  rw [List.append_assoc]
  refine ha.append rfl rfl fun free => ⟨plain, ?_, hb.spaced free⟩
  simpa [Lexeme.text] using ends

theorem intercalate {parts : List (List Lexeme)} (h : ∀ ls ∈ parts, Printed ls)
    {next : Option Char} (free : EndsWord next) :
    Spaced next ([Lexeme.symbol .comma, .blank].intercalate parts) := by
  induction parts with
  | nil => trivial
  | cons ls parts ih =>
    have first := h ls List.mem_cons_self
    have others := ih fun m hm => h m (List.mem_cons_of_mem _ hm)
    cases parts with
    | nil => simpa using first.spaced free
    | cons m parts =>
      rw [List.intercalate_cons_cons, List.append_assoc, spaced_append]
      exact ⟨first.spaced ((endsWord_some ',').mpr rfl), .symbol (fun _ => rfl) others⟩

/-- A list between brackets. -/
theorem list {parts : List (List Lexeme)} (h : ∀ ls ∈ parts, Printed ls) (left right : Symbol)
    {l r : Char} (hl : left.text = [l]) (hr : right.text = [r]) (starts : l ≠ '=')
    (ends : identPart r = false) (alone : ∀ d, left.separate d = true ∧ right.separate d = true) :
    Printed (.symbol left :: [Lexeme.symbol .comma, .blank].intercalate parts ++ [.symbol right]) := by
  have close {next : Option Char} : Spaced next [.symbol right] :=
    .symbol (fun d => (alone d).2) trivial
  have inside : Spaced (some r) ([Lexeme.symbol .comma, .blank].intercalate parts) :=
    intercalate h ((endsWord_some r).mpr ends)
  refine ⟨⟨l, by simp [Lexeme.symbol, Lexeme.text, Token.text, hl], starts⟩, fun _ => ?_⟩
  refine .symbol (fun d => (alone d).1) ((spaced_append _ _ _).mpr ⟨?_, close⟩)
  simpa [Lexeme.symbol, Lexeme.text, Token.text, hr] using inside

theorem segments {first : List Char} {more : List (List Char)}
    (h : ∀ s ∈ first :: more, isIdent s = true) :
    Printed ((.ident first :: Token.behindPath more).map .token) := by
  induction more generalizing first with
  | nil => exact word (h first List.mem_cons_self)
  | cons s more ih =>
    have head := word (h first List.mem_cons_self)
    have tail := ih fun t ht => h t (List.mem_cons_of_mem _ ht)
    exact head.append (c := ':') rfl rfl fun free => .symbol (fun _ => rfl) (tail.spaced free)

theorem name {name : String} (h : isName name = true) :
    Printed ((Token.ofName name).map .token) := by
  obtain ⟨first, more, hs, ht⟩ := Token.ofName_eq name
  rw [ht]
  apply segments
  intro s mem
  have segment := List.all_eq_true.mp h s (hs ▸ mem)
  simp only [isNameSegment, Bool.and_eq_true] at segment
  exact segment.1

theorem uid {uid : EntityUid} (h : isName uid.type = true) :
    Printed ((Token.ofUid uid).map .token) := by
  rw [Token.ofUid, List.map_append]
  exact (name h).append (c := ':') rfl rfl fun _ => .symbol (fun _ => rfl) (.quote _ trivial)

end Printed

end Cedar

namespace Condition

open Cedar

theorem printed_longLexemes (n : Int64) : Printed (longLexemes n) := by
  unfold longLexemes
  split
  · exact Printed.behind_sign (.inr rfl) (.number _)
  · exact .number _

theorem isIdent_of_isAttribute {attr : String} (h : isAttribute attr = true) :
    isIdent attr.toList = true := by
  simp only [isAttribute, Bool.and_eq_true] at h
  exact h.1.1

theorem printed_attrToken (attr : String) : Printed [.token (attrToken attr)] := by
  unfold attrToken
  split
  · rename_i bare
    exact .word (isIdent_of_isAttribute bare)
  · exact .string (Quotable.flatMap Quotable.escape _)

theorem printed_selection {a : List Lexeme} (ha : Printed a) (attr : String) :
    Printed (a ++ selection attr) := by
  unfold selection
  split
  · rename_i bare
    have field := Printed.word (isIdent_of_isAttribute bare)
    exact ha.append (c := '.') rfl rfl fun free => .symbol (fun _ => rfl) (field.spaced free)
  · exact ha.append (c := '[') rfl rfl fun _ =>
      .symbol (fun _ => rfl) (.quote _ (.symbol (fun _ => rfl) trivial))

theorem itemLexemes_eq (items : List Condition) :
    itemLexemes items = [Lexeme.symbol .comma, .blank].intercalate (items.map lexemes) := by
  induction items with
  | nil => rfl
  | cons c rest ih =>
    cases rest with
    | nil => simp [itemLexemes]
    | cons d rest =>
      rw [itemLexemes, ih]
      · simp [List.intercalate_cons_cons]
      · simp

def keyed (f : String × Condition) : List Lexeme :=
  [.quote f.1, .symbol .colon, .blank] ++ f.2.lexemes

theorem fieldLexemes_eq (fields : List (String × Condition)) :
    fieldLexemes fields = [Lexeme.symbol .comma, .blank].intercalate (fields.map keyed) := by
  induction fields with
  | nil => rfl
  | cons f rest ih =>
    cases rest with
    | nil => simp [fieldLexemes, keyed]
    | cons g rest =>
      rw [fieldLexemes, ih]
      · simp [List.intercalate_cons_cons, keyed]
      · simp

theorem printed_keyed {f : String × Condition} (h : Printed f.2.lexemes) : Printed (keyed f) := by
  refine ⟨⟨'"', rfl, by decide⟩, fun free => .quote f.1 ⟨trivial, ?_, h.spaced free⟩⟩
  simp [Lexeme.text, Token.separate]
  decide

/-- The lexemes of every condition that stands for an expression may stand anywhere in a text. -/
theorem printed_lexemes {c : Condition} {e : Expr} (h : c.toExpr? = some e) : Printed c.lexemes := by
  apply toExpr?_induction (motive := fun c _ => Printed c.lexemes) <;> intros
  case h => exact h
  case empty => exact .word rfl
  case var v => cases v <;> exact .word rfl
  case bool b => cases b <;> exact .word rfl
  case long n => exact printed_longLexemes n
  case string s => exact .string (Quotable.flatMap Quotable.escape _)
  case decimal text =>
    exact .call (by decide : isIdent "decimal".toList = true) [.quote text] (.quote text trivial)
  case entity uid name => exact .uid name
  case and a b _ _ ha hb => exact (ha.enclose _).operator (hb.enclose _) trivial rfl
  case or a b _ _ ha hb => exact (ha.enclose _).operator (hb.enclose _) trivial rfl
  case not a _ ha => exact (ha.enclose _).behind_sign (.inl rfl)
  case negLong n _ => exact (printed_longLexemes n).enclose _ |>.behind_sign (.inr rfl)
  case neg a _ _ ha => exact (ha.enclose _).behind_sign (.inr rfl)
  case binary op a b _ _ ha hb =>
    cases op with
    | contains =>
      have call := Printed.call (by decide : isIdent "contains".toList = true) b.lexemes
        (hb.spaced ((endsWord_some ')').mpr rfl))
      rw [lexemes, List.append_assoc, List.append_assoc]
      exact (ha.enclose _).append (c := '.') rfl rfl fun free =>
        .symbol (fun _ => rfl) (call.spaced free)
    | member => exact (ha.enclose _).operator (hb.enclose _) rfl rfl
    | _ => exact (ha.enclose _).operator (hb.enclose _) trivial rfl
  case like a _ pattern ha =>
    exact (ha.enclose _).operator (.string (Quotable.flatMap Quotable.escapedElem _)) rfl rfl
  case has a _ attr ha => exact (ha.enclose _).operator (printed_attrToken attr) rfl rfl
  case access a _ attr ha => exact printed_selection (ha.enclose _) attr
  case is a _ type name ha => exact (ha.enclose _).operator (.name name) rfl rfl
  case ite c a b _ _ _ hc ha hb =>
    have parts := (hc.operator (t := .word "then") ha rfl rfl).operator (t := .word "else") hb rfl rfl
    have start := Printed.word (s := "if".toList) rfl
    exact start.append (b := .blank :: _) (c := ' ') rfl rfl fun free => parts.spaced free
  case set items _ h =>
    have parts := ((List.forall₂_and_left (R := fun _ _ => True) _ _).mp
      (h.imp fun _ _ h => ⟨h, trivial⟩)).1
    rw [lexemes, itemLexemes_eq]
    exact .list (List.forall_mem_map.mpr parts) _ _ rfl rfl (by decide) rfl fun _ => ⟨rfl, rfl⟩
  case record fields _ _ h =>
    have parts := ((List.forall₂_and_left (R := fun _ _ => True) _ _).mp
      (h.imp fun _ _ h => ⟨printed_keyed h.2, trivial⟩)).1
    rw [lexemes, fieldLexemes_eq]
    exact .list (List.forall_mem_map.mpr parts) _ _ rfl rfl (by decide) rfl fun _ => ⟨rfl, rfl⟩

/-- The text of a condition is scanned as its tokens. -/
theorem scan?_text {c : Condition} {e : Expr} (h : c.toExpr? = some e) :
    Token.scan? c.text.toList = some (tokensOf c.lexemes) := by
  have spaced : Spaced none c.lexemes := (printed_lexemes h).spaced nofun
  simpa [text] using scan?_textOf spaced

end Condition

end ClusterPolicy
