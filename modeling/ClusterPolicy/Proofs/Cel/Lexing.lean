import ClusterPolicy.Proofs.Cel.Text
import Mathlib.Data.List.Forall2

namespace ClusterPolicy.Cel

/-- Reads on behind what has been read. -/
def Outcome.next {α β : Type} (o : Outcome α) (f : α → Parser β) : Outcome β :=
  match o with
  | .ok a rest => f a rest
  | .miss rest => .miss rest
  | .fail problem rest => .fail problem rest
  | .overflow => .overflow

@[simp] theorem Outcome.ok_next {α β : Type} (a : α) (rest : List Char) (f : α → Parser β) :
    (Outcome.ok a rest).next f = f a rest := rfl

namespace Parser

section
variable {α β : Type} {p : Parser α} {q : Parser β} {a : α} {s rest : List Char}

@[simp] theorem run_bind (p : Parser α) (f : α → Parser β) (s : List Char) :
    (p >>= f) s = (p s).next f := rfl

@[simp] theorem run_pure (a : α) (s : List Char) : (pure a : Parser α) s = .ok a s := rfl

@[simp] theorem run_map (f : α → β) (p : Parser α) (s : List Char) :
    (f <$> p) s = (p s).next fun a => pure (f a) := rfl

@[simp] theorem run_discard (p : Parser α) (s : List Char) :
    (discard p : Parser Unit) s = (p s).next fun _ => pure () := rfl

@[simp] theorem run_seqRight (p : Parser α) (q : Parser β) (s : List Char) :
    (p *> q) s = (p s).next fun _ => q := rfl

@[simp] theorem run_seqLeft (p : Parser α) (q : Parser β) (s : List Char) :
    (p <* q) s = (p s).next fun a => q >>= fun _ => pure a := rfl

@[simp] theorem run_ite (c : Prop) [Decidable c] (p q : Parser α) (s : List Char) :
    (if c then p else q) s = if c then p s else q s := by
  split <;> rfl

@[simp] theorem run_bounded (p : Nat → Parser α) (s : List Char) : bounded p s = p s.length s := rfl

theorem bind_ok (h : p s = .ok a rest) (f : α → Parser β) : (p >>= f) s = f a rest := by
  rw [run_bind, h, Outcome.ok_next]

theorem optional_ok (h : p s = .ok a rest) : p.optional s = .ok (some a) rest := by
  rw [optional, h]

theorem commit_ok (h : p s = .ok a rest) : p.commit s = .ok a rest := by
  rw [commit, h]

theorem constant_ok (h : p s = .ok a rest) (b : β) : constant b p s = .ok b rest := by
  simp only [constant, run_bind, run_discard, h]
  rfl

/-- Whether a parser leaves room for an alternative. -/
def Misses (p : Parser α) (s : List Char) : Prop := ∃ rest, p s = .miss rest

namespace Misses

theorem bind (h : Misses p s) (f : α → Parser β) : Misses (p >>= f) s := by
  obtain ⟨rest, missed⟩ := h
  exact ⟨rest, by rw [run_bind, missed]; rfl⟩

theorem optional (h : Misses p s) : p.optional s = .ok none s := by
  obtain ⟨rest, missed⟩ := h
  rw [Parser.optional, missed]

theorem constant (h : Misses p s) (b : β) : Misses (Parser.constant b p) s := by
  obtain ⟨rest, missed⟩ := h
  exact ⟨rest, by simp only [Parser.constant, run_bind, run_discard, missed]; rfl⟩

theorem orElse (h : Misses p s) (q : Parser α) : p.orElse q s = q s := by
  obtain ⟨rest, missed⟩ := h
  rw [Parser.orElse, missed]

theorem firstOf {last : Parser α} {before : List (Parser α)} (h : ∀ p ∈ before, Misses p s) :
    Parser.firstOf last before s = last s := by
  induction before with
  | nil => rfl
  | cons p before ih =>
    obtain ⟨first, others⟩ := List.forall_mem_cons.mp h
    exact (first.orElse _).trans (ih others)

end Misses

/-- The first of several parsers that does not miss. -/
theorem firstOf_eq {last : Parser α} (before after : List (Parser α))
    (h : ∀ p ∈ before, Misses p s) (read : ¬Misses p s) :
    firstOf last (before ++ p :: after) s = p s := by
  induction before with
  | nil =>
    change p.orElse (firstOf last after) s = _
    unfold orElse
    split
    · rename_i rest missed
      exact absurd ⟨rest, missed⟩ read
    · rfl
  | cons q before ih =>
    obtain ⟨first, others⟩ := List.forall_mem_cons.mp h
    exact (first.orElse _).trans (ih others)

theorem firstOf_ok {last : Parser α} (before after : List (Parser α))
    (h : ∀ p ∈ before, Misses p s) (read : p s = .ok a rest) :
    firstOf last (before ++ p :: after) s = .ok a rest := by
  refine (firstOf_eq before after h ?_).trans read
  rintro ⟨rest', missed⟩
  rw [read] at missed
  cases missed

/-! ## Blanks -/

/-- Blanks, which every parser that takes a symbol or a word leaves out. -/
def Blank (before : List Char) : Prop :=
  ∀ s, skipBlanks false (before ++ s) = skipBlanks false s

theorem blank_nil : Blank [] := fun _ => rfl

theorem blank_space : Blank [' '] := fun s => by
  simp [skipBlanks, isBlank]

/-- Blanks between two symbols. -/
abbrev Gap := { blanks : List Char // Blank blanks }

/-- Whether a character starts something that is read. -/
def visible (c : Char) : Bool := !isBlank c && c != '/'

theorem skipBlanks_visible {c : Char} (h : visible c = true) (s : List Char) :
    skipBlanks false (c :: s) = c :: s := by
  simp only [visible, Bool.and_eq_true, Bool.not_eq_true', bne_iff_ne] at h
  obtain ⟨notBlank, notSlash⟩ := h
  rw [skipBlanks]
  · simp [notBlank]
  · rintro _ rfl
    exact absurd rfl notSlash

/-- The first character that is read. -/
def peek (s : List Char) : Option Char := (skipBlanks false s).head?

theorem peek_visible {c : Char} (h : visible c = true) (s : List Char) : peek (c :: s) = some c := by
  rw [peek, skipBlanks_visible h, List.head?_cons]

theorem peek_blank {before : List Char} (h : Blank before) (s : List Char) :
    peek (before ++ s) = peek s := by
  rw [peek, h, peek]

/-! ## Symbols -/

theorem exactly_append (text rest : List Char) : exactly text (text ++ rest) = .ok () rest := by
  simp [exactly]

theorem exactly_misses {text : List Char} (h : ¬text <+: s) : Misses (exactly text) s :=
  ⟨s, by simp [exactly, h]⟩

theorem symbol_eq (text : String) (s : List Char) :
    symbol text s = exactly text.toList (skipBlanks false s) := rfl

/-- A symbol is read behind blanks and comments. -/
theorem symbol_of_skip {text : String} (h : skipBlanks false s = text.toList ++ rest) :
    symbol text s = .ok () rest := by
  rw [symbol_eq, h, exactly_append]

theorem symbol_misses {text : String} {c : Char} (starts : text.toList.head? = some c)
    (other : peek s ≠ some c) : Misses (symbol text) s := by
  have none : ¬text.toList <+: skipBlanks false s := by
    rintro ⟨t, ht⟩
    rw [peek, ← ht, List.head?_append, starts] at other
    exact other rfl
  exact exactly_misses none

/-! ## What may follow -/

/-- The level of what takes a character for itself behind an operand: an operator, a member or a call;
none is 0. -/
def pull (c : Char) : Nat :=
  match c with
  | '(' => 10
  | '.' | '[' | '\x7b' => 9
  | '*' | '/' | '%' => 6
  | '+' | '-' => 5
  | '<' | '>' | '=' | '!' | 'i' => 4
  | '&' => 3
  | '|' => 2
  | '?' => 1
  | _ => 0

/-- Nothing follows that a text of this level would take in. -/
structure Ends (level : Nat) (rest : List Char) : Prop where
  apart : ∀ c ∈ rest.head?, identPart c = false ∧ c ≠ '"' ∧ c ≠ '\''
  stops : ∀ c ∈ peek rest, pull c < level

theorem Ends.mono {j k : Nat} (h : j ≤ k) (ends : Ends j rest) : Ends k rest :=
  ⟨ends.apart, fun c hc => Nat.lt_of_lt_of_le (ends.stops c hc) h⟩

theorem Ends.peek_ne {k : Nat} {c : Char} (ends : Ends k rest) (h : k ≤ pull c) :
    peek rest ≠ some c := fun same => Nat.lt_irrefl _ (Nat.lt_of_lt_of_le (ends.stops c same) h)

theorem Ends.head_ne {k : Nat} {c d : Char} (ends : Ends k rest) (shown : visible c = true)
    (h : k ≤ pull c) (hd : d ∈ rest.head?) : d ≠ c := by
  rintro rfl
  obtain ⟨more, rfl⟩ := List.head?_eq_some_iff.mp hd
  exact ends.peek_ne h (peek_visible shown more)

theorem Ends.part_ne {k : Nat} {c d : Char} (ends : Ends k rest) (isPart : identPart d = true)
    (hc : c ∈ rest.head?) : c ≠ d := by
  rintro rfl
  rw [(ends.apart c hc).1] at isPart
  cases isPart

theorem ends_nil {k : Nat} : Ends k [] := ⟨nofun, nofun⟩

theorem ends_visible {k : Nat} {c : Char} (shown : visible c = true)
    (apart : identPart c = false ∧ c ≠ '"' ∧ c ≠ '\'') (stops : pull c < k) (s : List Char) :
    Ends k (c :: s) := by
  refine ⟨?_, ?_⟩
  · rintro _ ⟨⟩
    exact apart
  · rw [peek_visible shown]
    rintro _ ⟨⟩
    exact stops

theorem ends_space {k : Nat} {c : Char} (shown : visible c = true) (stops : pull c < k)
    (s : List Char) : Ends k (' ' :: c :: s) := by
  refine ⟨?_, ?_⟩
  · rintro _ ⟨⟩
    decide
  · rw [show ' ' :: c :: s = [' '] ++ c :: s from rfl, peek_blank blank_space, peek_visible shown]
    rintro _ ⟨⟩
    exact stops

theorem ends_blank {k : Nat} {before : List Char} (blank : Blank before) (ends : Ends k rest) :
    Ends k (before ++ rest) := by
  refine ⟨?_, ?_⟩
  · cases before with
    | nil => exact ends.apart
    | cons c more =>
      rintro _ ⟨⟩
      have hidden : visible c = false := by
        by_contra shown
        rw [Bool.not_eq_false] at shown
        have left := blank []
        rw [List.append_nil, skipBlanks_visible shown] at left
        cases left
      simp only [visible, isBlank, Bool.and_eq_false_iff, Bool.not_eq_false', Bool.or_eq_true,
        decide_eq_true_eq, bne_eq_false_iff_eq] at hidden
      rcases hidden with (((rfl | rfl) | rfl) | rfl) | rfl <;> decide
  · rw [peek_blank blank]
    exact ends.stops

/-- Whether a parser takes a text, behind any blanks and up to any such end. -/
def Takes (p : Parser α) (level : Nat) (text : List Char) (a : α) : Prop :=
  ∀ ⦃before rest : List Char⦄, Blank before → Ends level rest →
    p (before ++ (text ++ rest)) = .ok a rest

theorem Takes.mono {j k : Nat} {text : List Char} (h : j ≤ k) (takes : Takes p k text a) :
    Takes p j text a :=
  fun _ _ blank ends => takes blank (ends.mono h)

/-! ## Words -/

/-- The longest run of such characters. -/
theorem takeWhile_run {test : Char → Bool} {text rest : List Char} (inside : ∀ c ∈ text, test c = true)
    (apart : ∀ c ∈ rest.head?, test c = false) :
    (text ++ rest).takeWhile test = text ∧ (text ++ rest).dropWhile test = rest := by
  have stop : rest.takeWhile test = [] ∧ rest.dropWhile test = rest := by
    cases rest with
    | nil => exact ⟨rfl, rfl⟩
    | cons c rest => simp [apart c rfl]
  rw [List.takeWhile_append_of_pos inside, List.dropWhile_append_of_pos inside, stop.1, stop.2]
  exact ⟨List.append_nil text, rfl⟩

section
variable {name : String}

theorem exists_of_isIdent (h : isIdent name = true) : ∃ c more, name.toList = c :: more ∧
    identStart c = true ∧ (∀ d ∈ name.toList, identPart d = true) ∧ name ∉ reserved := by
  unfold isIdent at h
  split at h
  · cases h
  · rename_i c more letters
    simp only [Bool.and_eq_true, List.all_eq_true, Bool.not_eq_true',
      List.contains_eq_mem, decide_eq_false_iff_not] at h
    obtain ⟨⟨starts, parts⟩, free⟩ := h
    refine ⟨c, more, letters, starts, ?_, free⟩
    have first : identPart c = true := by
      simp only [identStart, Bool.or_eq_true] at starts
      simp only [identPart, Bool.or_eq_true, Char.isAlphanum]
      exact starts.imp_right .inl
    rw [letters]
    exact List.forall_mem_cons.mpr ⟨first, parts⟩

/-- A name is read up to a character that cannot go on with it. -/
theorem bareIdent_isIdent (h : isIdent name = true)
    (apart : ∀ c ∈ rest.head?, identPart c = false) :
    bareIdent (name.toList ++ rest) = .ok name rest := by
  obtain ⟨c, more, letters, starts, parts, free⟩ := exists_of_isIdent h
  rw [letters] at parts
  obtain ⟨taken, left⟩ := takeWhile_run (List.forall_mem_cons.mp parts).2 apart
  have whole : String.ofList (c :: more) = name := by rw [← letters, String.ofList_toList]
  simp [bareIdent, letters, taken, left, whole, starts, free]

/-- A name begins with a character that is not left out. -/
theorem visible_of_identPart {c : Char} (h : identPart c = true) : visible c = true := by
  simp only [visible, Bool.and_eq_true, Bool.not_eq_true', bne_iff_ne, isBlank]
  refine ⟨?_, ?_⟩
  · by_contra blank
    simp only [Bool.not_eq_false, Bool.or_eq_true, decide_eq_true_eq] at blank
    rcases blank with ((rfl | rfl) | rfl) | rfl <;> cases h
  · rintro rfl
    cases h

theorem ident_isIdent {before : List Char} (blank : Blank before) (h : isIdent name = true)
    (apart : ∀ c ∈ rest.head?, identPart c = false) :
    ident (before ++ (name.toList ++ rest)) = .ok name rest := by
  have skipped : skipBlanks false (before ++ (name.toList ++ rest)) = name.toList ++ rest := by
    obtain ⟨c, more, letters, -, parts, -⟩ := exists_of_isIdent h
    rw [blank, letters, List.cons_append, skipBlanks_visible]
    exact visible_of_identPart (parts c (letters ▸ List.mem_cons_self))
  simp only [ident, blanks, run_bind, skipped]
  exact bareIdent_isIdent h apart

theorem word_append {text : String} (apart : ∀ c ∈ rest.head?, identPart c = false) :
    word text (text.toList ++ rest) = .ok () rest := by
  have ends : rest.head?.any identPart = false := by
    cases rest with
    | nil => rfl
    | cons c rest => exact apart c rfl
  have drop : (text.toList ++ rest).drop text.length = rest := by
    rw [← String.length_toList, List.drop_left]
  simp [word, drop, ends]

/-- A word is not read from a longer one, nor from another. -/
theorem word_misses {text : String} {name : List Char} (parts : ∀ c ∈ text.toList, identPart c = true)
    (parts' : ∀ c ∈ name, identPart c = true) (other : text.toList ≠ name)
    (apart : ∀ c ∈ rest.head?, identPart c = false) : Misses (word text) (name ++ rest) := by
  refine ⟨name ++ rest, ?_⟩
  unfold word
  split
  · rename_i found
    simp only [Bool.and_eq_true, List.isPrefixOf_iff_prefix, Bool.not_eq_true'] at found
    obtain ⟨⟨behind, same⟩, stop⟩ := found
    rw [← same, ← String.length_toList, List.drop_left] at stop
    have apart' : ∀ c ∈ behind.head?, identPart c = false := by
      intro c hc
      simpa [Option.mem_def.mp hc] using stop
    have first := (takeWhile_run parts apart').1
    rw [same, (takeWhile_run parts' apart).1] at first
    exact absurd first.symm other
  · rfl

theorem word_misses_head {text : String} {c : Char} (starts : text.toList.head? = some c)
    (other : s.head? ≠ some c) : Misses (word text) s := by
  have none : ¬text.toList <+: s := by
    rintro ⟨t, rfl⟩
    rw [List.head?_append, starts] at other
    exact other rfl
  exact ⟨s, by simp [word, none]⟩

end

/-! ## Lists -/

section
variable {item : Parser α} {texts : List (List Char)} {as : List α}

/-- The text behind the first item of a list. -/
def listEnd (texts : List (List Char)) (rest : List Char) : List Char :=
  texts.flatMap (fun t => ',' :: ' ' :: t) ++ rest

theorem listEnd_cons (text : List Char) (texts : List (List Char)) (rest : List Char) :
    listEnd (text :: texts) rest = ',' :: ' ' :: (text ++ listEnd texts rest) := by
  simp [listEnd]

theorem separated_listEnd (text : List Char) (texts : List (List Char)) (rest : List Char) :
    Printed.separated (text :: texts) ++ rest = text ++ listEnd texts rest := by
  induction texts generalizing text with
  | nil => simp [Printed.separated, listEnd]
  | cons text' texts ih =>
    rw [Printed.separated, List.intercalate_cons_cons, List.append_assoc, List.append_assoc,
      ← Printed.separated, ih, listEnd_cons]
    rfl

theorem length_le_listEnd (texts : List (List Char)) (rest : List Char) :
    texts.length ≤ (listEnd texts rest).length := by
  induction texts with
  | nil => simp
  | cons text texts ih =>
    rw [listEnd_cons]
    simp only [List.length_cons, List.length_append]
    omega

theorem ends_listEnd (texts : List (List Char)) (close : Ends 1 rest) : Ends 1 (listEnd texts rest) := by
  cases texts with
  | nil => simpa [listEnd] using close
  | cons text texts =>
    rw [listEnd_cons]
    exact ends_visible (by decide) (by decide) (by decide) _

variable (close : Ends 1 rest) (last : peek rest ≠ some ',')
include close last

theorem itemsUpTo_listEnd (each : List.Forall₂ (Takes item 1) texts as) {n : Nat}
    (enough : texts.length ≤ n) :
    itemsUpTo (symbol ",") item n (listEnd texts rest) = .ok as rest := by
  induction each generalizing n with
  | nil =>
    cases n with
    | zero => simp [itemsUpTo, listEnd]
    | succ n =>
      have none : Misses (symbol "," *> item) rest :=
        (symbol_misses rfl last).bind fun _ => item
      simp [itemsUpTo, listEnd, none.optional]
  | @cons text a texts as first _ ih =>
    cases n with
    | zero => simp at enough
    | succ n =>
      have comma : symbol "," (',' :: ' ' :: (text ++ listEnd texts rest)) =
          .ok () (' ' :: (text ++ listEnd texts rest)) :=
        symbol_of_skip (skipBlanks_visible (by decide) _)
      have read : item (' ' :: (text ++ listEnd texts rest)) = .ok a (listEnd texts rest) :=
        first blank_space (ends_listEnd texts close)
      have both : (symbol "," *> item) (',' :: ' ' :: (text ++ listEnd texts rest)) =
          .ok a (listEnd texts rest) := by
        rw [run_seqRight, comma, Outcome.ok_next, read]
      rw [listEnd_cons]
      simp [itemsUpTo, optional_ok both, ih (n := n) (by simpa using enough)]

/-- A list is read from its items with commas between them, up to what is no further item. -/
theorem items_separated (each : List.Forall₂ (Takes item 1) texts as) (none : Misses item rest) :
    items (symbol ",") item (Printed.separated texts ++ rest) = .ok as rest := by
  cases each with
  | nil => simp [items, Printed.separated, none.optional]
  | @cons text a texts as first others =>
    have read : item (text ++ listEnd texts rest) = .ok a (listEnd texts rest) :=
      first blank_nil (ends_listEnd texts close)
    have behind := itemsUpTo_listEnd close last others (length_le_listEnd texts rest)
    rw [separated_listEnd]
    simp [items, optional_ok read, behind]

end

end

end Parser

end ClusterPolicy.Cel
