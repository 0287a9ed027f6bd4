import ClusterPolicy.Proofs.Cedar.Quoted
import ClusterPolicy.Proofs.Text.Ascii

/-! Scanning what a printer wrote gives back the tokens that it wrote. -/

namespace ClusterPolicy.Cedar

/-! ## Characters -/

theorem identStart_iff {c : Char} : identStart c = true ↔
    c.toNat = 95 ∨ (65 ≤ c.toNat ∧ c.toNat ≤ 90) ∨ (97 ≤ c.toNat ∧ c.toNat ≤ 122) := by
  have line : c = '_' ↔ c.toNat = 95 := by rw [← Char.toNat_inj]; rfl
  simp [identStart, Text.isAlpha_iff, line]

theorem identPart_iff {c : Char} : identPart c = true ↔
    identStart c = true ∨ (48 ≤ c.toNat ∧ c.toNat ≤ 57) := by
  simp [identPart, identStart, Char.isAlphanum, Char.isDigit, UInt32.le_iff_toNat_le, or_assoc]

theorem identStart_of_digit {c : Char} (h : Text.isDigit 10 c = true) : identStart c = false := by
  have := Text.digit_range h
  rw [Bool.eq_false_iff, ne_eq, identStart_iff]
  omega

/-- Neither blank nor the start of a comment. -/
def visible (c : Char) : Bool := !isBlank c && c ≠ '/'

theorem visible_of_ascii {c : Char} (low : 0x20 < c.toNat) (high : c.toNat < 0x80)
    (slash : c.toNat ≠ 47) : visible c = true := by
  have notSlash : c ≠ '/' := by rintro rfl; exact slash rfl
  have notBlank : isBlank c = false := by
    simp [isBlank]
    omega
  simp [visible, notSlash, notBlank]

theorem skipBlanks_visible {c : Char} (h : visible c = true) (rest : List Char) :
    skipBlanks false (c :: rest) = c :: rest := by
  simp only [visible, Bool.and_eq_true, Bool.not_eq_true', decide_eq_true_eq, ne_eq] at h
  simp [skipBlanks, h.1, h.2]

/-! ## Tokens -/

namespace Token

/-- The text of the token is that of no other tokens. -/
def Plain : Token → Prop
  | ident name => isIdent name = true
  | number _ => True
  | string inside => Quotable inside
  | symbol _ => True
  | slot name => isIdent name = true

end Token

/-- Whether a symbol ends where `d` follows it. -/
def Symbol.separate (s : Symbol) (d : Char) : Bool :=
  match s.text with
  | [c] => (ofPair? c d).isNone
  | _ => true

/-- Whether a token ends where `d` follows it. -/
def Token.separate (t : Token) (d : Char) : Bool :=
  match t with
  | ident _ | slot _ => !identPart d
  | number _ => !Text.isDigit 10 d
  | string _ => true
  | symbol s => s.separate d

theorem Symbol.first?_text (s : Symbol) {rest : List Char}
    (sep : ∀ d ∈ rest.head?, s.separate d = true) : first? (s.text ++ rest) = some (s, rest) := by
  cases rest with
  | nil => cases s <;> rfl
  | cons d rest =>
    have ends := sep d rfl
    cases s <;> simp_all [Symbol.separate, text, first?, ofPair?, ofChar?]

theorem isIdent_cons {name : List Char} (h : isIdent name = true) :
    ∃ c more, name = c :: more ∧ identStart c = true ∧ ∀ d ∈ more, identPart d = true := by
  cases name with
  | nil => simp [isIdent] at h
  | cons c more =>
    simp only [isIdent, Bool.and_eq_true, List.all_eq_true] at h
    exact ⟨c, more, rfl, h⟩

theorem takeWhile_ends {p : Char → Bool} {xs rest : List Char} (all : ∀ c ∈ xs, p c = true)
    (ends : ∀ d ∈ rest.head?, (!p d) = true) :
    (xs ++ rest).takeWhile p = xs ∧ (xs ++ rest).dropWhile p = rest := by
  have stop : rest.takeWhile p = [] ∧ rest.dropWhile p = rest := by
    cases rest with
    | nil => exact ⟨rfl, rfl⟩
    | cons d rest =>
      have hd : p d = false := by simpa using ends d rfl
      simp [List.takeWhile, List.dropWhile, hd]
  rw [List.takeWhile_append_of_pos all, List.dropWhile_append_of_pos all, stop.1, stop.2]
  simp

namespace Token

theorem first?_ident {name rest : List Char} (h : isIdent name = true)
    (ends : ∀ d ∈ rest.head?, (!identPart d) = true) :
    first? (name ++ rest) = some (ident name, rest) := by
  obtain ⟨c, more, rfl, start, part⟩ := isIdent_cons h
  have cut := takeWhile_ends part ends
  simp [first?, start, cut.1, cut.2]

theorem first?_number (n : Nat) {rest : List Char}
    (ends : ∀ d ∈ rest.head?, (!Text.isDigit 10 d) = true) :
    first? (Nat.toDigits 10 n ++ rest) = some (number n, rest) := by
  have digits : ∀ c ∈ Nat.toDigits 10 n, Text.isDigit 10 c = true :=
    fun c hc => Text.isDigit_of_mem_toDigits (by decide) (by decide) hc
  have value : Text.natural? 10 (Nat.toDigits 10 n) = _ := Text.natural?_toDigits (by decide) (by decide) n
  cases hd : Nat.toDigits 10 n with
  | nil => simp at hd
  | cons c more =>
    rw [hd] at digits value
    have first := digits c List.mem_cons_self
    have cut := takeWhile_ends (fun d h => digits d (List.mem_cons_of_mem _ h)) ends
    simp [first?, identStart_of_digit first, first, cut.1, cut.2, value]

/-- A plain token is the first of its text, up to where it ends. -/
theorem first?_text {t : Token} (plain : t.Plain) (rest : List Char)
    (sep : ∀ d ∈ rest.head?, t.separate d = true) : first? (t.text ++ rest) = some (t, rest) := by
  cases t with
  | ident name => exact first?_ident plain sep
  | number n => exact first?_number n sep
  | string inside =>
    have read := Quotable.inside plain rest
    simp [text, first?, show identStart '"' = false from rfl, show Text.isDigit 10 '"' = false from rfl,
      read]
  | symbol s =>
    have read := s.first?_text sep
    cases s <;> simpa [text, Symbol.text, first?, identStart, Text.isDigit, Text.digitValue?] using read
  | slot name =>
    obtain ⟨c, more, rfl, start, part⟩ := isIdent_cons plain
    have cut := takeWhile_ends part sep
    simp [text, first?, show identStart '?' = false from rfl, show Text.isDigit 10 '?' = false from rfl,
      start, cut.1, cut.2]

theorem text_visible {t : Token} (plain : t.Plain) :
    ∃ c more, t.text = c :: more ∧ visible c = true := by
  cases t with
  | ident name =>
    obtain ⟨c, more, rfl, start, -⟩ := isIdent_cons plain
    rw [identStart_iff] at start
    exact ⟨c, more, rfl, visible_of_ascii (by omega) (by omega) (by omega)⟩
  | number n =>
    cases hd : Nat.toDigits 10 n with
    | nil => simp at hd
    | cons c more =>
      have mem : c ∈ Nat.toDigits 10 n := by simp [hd]
      have digit := Text.isDigit_of_mem_toDigits (by decide) (by decide) mem
      have := Text.digit_range digit
      exact ⟨c, more, hd, visible_of_ascii (by omega) (by omega) (by omega)⟩
  | string inside => exact ⟨'"', _, rfl, rfl⟩
  | symbol s => cases s <;> exact ⟨_, _, rfl, rfl⟩
  | slot name => exact ⟨'?', _, rfl, rfl⟩

end Token

/-! ## Lexemes -/

def Lexeme.token? : Lexeme → Option Token
  | token t => some t
  | _ => none

/-- What is left of lexemes without the blanks. -/
def tokensOf (lexemes : List Lexeme) : List Token := lexemes.filterMap Lexeme.token?

@[simp] theorem tokensOf_nil : tokensOf [] = [] := rfl

@[simp] theorem tokensOf_append (a b : List Lexeme) : tokensOf (a ++ b) = tokensOf a ++ tokensOf b :=
  List.filterMap_append

@[simp] theorem tokensOf_token (t : Token) (ls : List Lexeme) :
    tokensOf (.token t :: ls) = t :: tokensOf ls := rfl

@[simp] theorem tokensOf_symbol (s : Symbol) (ls : List Lexeme) :
    tokensOf (.symbol s :: ls) = .symbol s :: tokensOf ls := rfl

@[simp] theorem tokensOf_word (s : String) (ls : List Lexeme) :
    tokensOf (.word s :: ls) = .word s :: tokensOf ls := rfl

@[simp] theorem tokensOf_quote (s : String) (ls : List Lexeme) :
    tokensOf (.quote s :: ls) = .quote s :: tokensOf ls := rfl

@[simp] theorem tokensOf_map_token (ts : List Token) : tokensOf (ts.map .token) = ts := by
  induction ts with
  | nil => rfl
  | cons t ts ih => simpa using ih

theorem tokensOf_flatMap {α : Type} (f : α → List Lexeme) (xs : List α) :
    tokensOf (xs.flatMap f) = xs.flatMap fun x => tokensOf (f x) := List.filterMap_flatMap ..

theorem tokensOf_intercalate (sep : List Lexeme) (parts : List (List Lexeme)) :
    tokensOf (sep.intercalate parts) = (tokensOf sep).intercalate (parts.map tokensOf) := by
  induction parts with
  | nil => rfl
  | cons part parts ih =>
    cases parts with
    | nil => simp
    | cons next parts =>
      rw [List.intercalate_cons_cons, List.map_cons, List.map_cons, List.intercalate_cons_cons,
        tokensOf_append, tokensOf_append, ih, List.map_cons]

@[simp] theorem tokensOf_blank (ls : List Lexeme) : tokensOf (.blank :: ls) = tokensOf ls := rfl

@[simp] theorem tokensOf_line (n : Nat) (ls : List Lexeme) : tokensOf (.line n :: ls) = tokensOf ls := rfl

@[simp] theorem textOf_nil : textOf [] = [] := rfl

@[simp] theorem textOf_cons (l : Lexeme) (ls : List Lexeme) : textOf (l :: ls) = l.text ++ textOf ls :=
  List.flatMap_cons

@[simp] theorem textOf_append (a b : List Lexeme) : textOf (a ++ b) = textOf a ++ textOf b :=
  List.flatMap_append

/-- Every token is plain and ends where the next lexeme starts; `next` is what follows the last. -/
def Spaced (next : Option Char) : List Lexeme → Prop
  | [] => True
  | .token t :: rest =>
    t.Plain ∧ (∀ d ∈ (textOf rest).head?.or next, t.separate d = true) ∧ Spaced next rest
  | _ :: rest => Spaced next rest

theorem spaced_append (next : Option Char) (a b : List Lexeme) :
    Spaced next (a ++ b) ↔ Spaced ((textOf b).head?.or next) a ∧ Spaced next b := by
  induction a with
  | nil => simp [Spaced]
  | cons l a ih =>
    cases l with
    | token t =>
      have head : (textOf (a ++ b)).head?.or next = (textOf a).head?.or ((textOf b).head?.or next) := by
        simp [List.head?_append, Option.or_assoc]
      simp only [List.cons_append, Spaced, head, ih, and_assoc]
    | blank => exact ih
    | line n => exact ih

theorem scanUpTo_congr {n : Nat} {s s' : List Char} (h : skipBlanks false s = skipBlanks false s') :
    Token.scanUpTo n s = Token.scanUpTo n s' := by
  cases n <;> simp [Token.scanUpTo, h]

theorem skipBlanks_replicate (n : Nat) (s : List Char) :
    skipBlanks false (List.replicate n ' ' ++ s) = skipBlanks false s := by
  induction n with
  | zero => rfl
  | succ n ih => simpa [List.replicate_succ, skipBlanks, isBlank] using ih

theorem scanUpTo_textOf {ls : List Lexeme} {n : Nat} (spaced : Spaced none ls)
    (enough : (textOf ls).length ≤ n) : Token.scanUpTo n (textOf ls) = some (tokensOf ls) := by
  induction ls generalizing n with
  | nil => cases n <;> rfl
  | cons l ls ih =>
    cases l with
    | token t =>
      obtain ⟨plain, ends, spaced⟩ := spaced
      obtain ⟨c, more, ht, vis⟩ := Token.text_visible plain
      have read := Token.first?_text plain (textOf ls) (by simpa using ends)
      simp only [textOf_cons, Lexeme.text, ht, List.cons_append, List.length_cons,
        List.length_append] at enough read ⊢
      cases n with
      | zero => omega
      | succ n =>
        have next := ih (n := n) spaced (by omega)
        simp [Token.scanUpTo, skipBlanks_visible vis, read, next]
    | blank =>
      have skip : skipBlanks false (textOf (.blank :: ls)) = skipBlanks false (textOf ls) := by
        simp [Lexeme.text, skipBlanks, isBlank]
      rw [scanUpTo_congr skip, tokensOf_blank]
      exact ih spaced (by simp at enough; omega)
    | line k =>
      have skip : skipBlanks false (textOf (.line k :: ls)) = skipBlanks false (textOf ls) := by
        simpa [Lexeme.text, skipBlanks, isBlank] using skipBlanks_replicate k (textOf ls)
      rw [scanUpTo_congr skip, tokensOf_line]
      exact ih spaced (by simp at enough; omega)

/-- Lexemes that are spaced are scanned from their text as their tokens. -/
theorem scan?_textOf {ls : List Lexeme} (spaced : Spaced none ls) :
    Token.scan? (textOf ls) = some (tokensOf ls) := scanUpTo_textOf spaced (Nat.le_refl _)

end ClusterPolicy.Cedar
