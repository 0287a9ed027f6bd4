import ClusterPolicy.Proofs.Cel.Lexing
import ClusterPolicy.Proofs.Number.Long
import ClusterPolicy.Proofs.Text.Ascii
import ClusterPolicy.Proofs.Text.Digits
import Mathlib.Data.List.TakeWhile

namespace ClusterPolicy.Cel

open Literal (decimal quoted escaped hexadecimal)

/-! ## Numbers -/

section
variable {c : Char} {n : Nat} {rest : List Char}

theorem identPart_of_isDigit {radix : Nat} (h : Text.isDigit radix c = true) : identPart c = true := by
  simp only [Text.isDigit, Text.digitValue?, Char.le_def, UInt32.le_iff_toNat_le, Char.toNat_val,
    Option.isSome_filter] at h
  simp only [identPart, Char.isAlphanum, Bool.or_eq_true, Text.isAlpha_iff, Text.isDigit_iff]
  split at h
  · rename_i digit
    exact .inr (.inr digit)
  · split at h
    · rename_i lower
      exact .inr (.inl (.inr lower))
    · split at h
      · rename_i upper
        exact .inr (.inl (.inl upper))
      · cases h

theorem isDigit_of_identStart (h : identStart c = true) : Text.isDigit 10 c = false := by
  by_contra digit
  rw [Bool.not_eq_false] at digit
  have range := Text.digit_range digit
  simp only [identStart, Bool.or_eq_true, decide_eq_true_eq, Text.isAlpha_iff] at h
  rcases h with rfl | letter
  · simp at range
  · omega

theorem natural?_decimal (n : Nat) : Text.natural? 10 (decimal n) = some n :=
  Text.natural?_toDigits (by decide) (by decide) n

section
variable {radix : Nat} {s digits : List Char}

theorem digits?_eq_some (h : digits? radix s = some (digits, rest)) :
    s = digits ++ rest ∧ ∃ n, Text.natural? radix digits = some n := by
  unfold digits? at h
  dsimp only at h
  split at h
  · cases h
  · rename_i nonempty
    cases h
    refine ⟨List.takeWhile_append_dropWhile.symm, ?_⟩
    exact Text.exists_natural? (mt List.isEmpty_iff.mpr nonempty) fun c => List.mem_takeWhile_imp

theorem hexadecimal?_eq_some {inside : List Char} (h : hexadecimal? s = some inside) :
    ∃ x, (x = 'x' ∨ x = 'X') ∧ s = '0' :: x :: inside := by
  unfold hexadecimal? at h
  split at h
  · rename_i x behind
    split at h
    · rename_i isX
      cases h
      exact ⟨x, isX, rfl⟩
    · cases h
  · cases h

theorem fraction_none (none : (fraction s).1 = []) : (fraction s).2 = s := by
  unfold fraction at none ⊢
  split at none
  · rename_i rest
    cases read : digits? 10 rest with
    | none => rfl
    | some found =>
      rw [read] at none
      obtain ⟨-, n, value⟩ := digits?_eq_some read
      exact absurd none (Text.ne_nil_of_natural? value)
  · rfl

theorem integer_eq_some {after : List Char} {value : Literal}
    (h : integer radix digits rest = some (value, after)) : ∃ n, Text.natural? radix digits = some n ∧
      ((∃ v, value = .int v ∧ rest = after ∧ v.toInt = n) ∨
        ∃ c v, value = .uint v ∧ (c = 'u' ∨ c = 'U') ∧ rest = c :: after ∧ v.toNat = n) := by
  unfold integer at h
  obtain ⟨n, isValue, read⟩ := Option.bind_eq_some_iff.mp h
  refine ⟨n, isValue, ?_⟩
  have signed (h : (Number.long? n).map (fun v => (Literal.int v, rest)) = some (value, after)) :
      ∃ v, value = .int v ∧ rest = after ∧ v.toInt = n := by
    obtain ⟨v, inRange, same⟩ := Option.map_eq_some_iff.mp h
    cases same
    exact ⟨v, rfl, rfl, Number.toInt_of_long? inRange⟩
  split at read
  · rename_i c behind
    split at read
    · rename_i isU
      split at read
      · rename_i small
        cases read
        exact .inr ⟨c, _, rfl, isU, rfl, UInt64.toNat_ofNat_of_lt small⟩
      · cases read
    · exact .inl (signed read)
  · exact .inl (signed read)

end

/-- Where a number ends. -/
def Undigited (rest : List Char) : Prop :=
  ∀ c ∈ rest.head?, Text.isDigit 16 c = false ∧ c ∉ ['x', 'X', '.']

theorem undigited_of_ends (ends : Parser.Ends 9 rest) : Undigited rest := by
  intro c hc
  refine ⟨?_, ?_⟩
  · by_contra digit
    rw [Bool.not_eq_false] at digit
    exact absurd (identPart_of_isDigit digit) (by rw [(ends.apart c hc).1]; decide)
  · have notPoint : c ≠ '.' := ends.head_ne (by decide) (by decide) hc
    simp [notPoint, ends.part_ne (d := 'x') rfl hc, ends.part_ne (d := 'X') rfl hc]

section
variable {radix : Nat} {digits : List Char} (value : Text.natural? radix digits = some n)
include value

theorem digits?_append (small : radix ≤ 16) (ends : Undigited rest) :
    digits? radix (digits ++ rest) = some (digits, rest) := by
  have apart : ∀ c ∈ rest.head?, Text.isDigit radix c = false := by
    intro c hc
    by_contra digit
    rw [Bool.not_eq_false] at digit
    have wider := Text.isDigit_mono small digit
    rw [(ends c hc).1] at wider
    cases wider
  obtain ⟨taken, left⟩ := Parser.takeWhile_run (fun c => Text.isDigit_of_natural? value) apart
  rw [digits?, taken, left]
  simp [Text.ne_nil_of_natural? value]

theorem integer_signed (signed : ∀ c ∈ rest.head?, c ≠ 'u' ∧ c ≠ 'U') :
    integer radix digits rest = (Number.long? n).map fun v => (.int v, rest) := by
  cases rest with
  | nil => simp [integer, value]
  | cons c rest => simp [integer, value, signed c rfl]

end

theorem hexadecimal?_digits {digits : List Char} (value : Text.natural? 10 digits = some n)
    (ends : Undigited rest) : hexadecimal? (digits ++ rest) = none := by
  have second : ∀ c ∈ (digits ++ rest).tail.head?, c ≠ 'x' ∧ c ≠ 'X' := by
    intro c hc
    obtain ⟨d, more, rfl⟩ := List.exists_cons_of_ne_nil (Text.ne_nil_of_natural? value)
    cases more with
    | nil =>
      have other := (ends c hc).2
      refine ⟨?_, ?_⟩ <;> rintro rfl <;> exact other (by decide)
    | cons e more =>
      cases hc
      have range := Text.digit_range (Text.isDigit_of_natural? value (c := c) (by simp))
      refine ⟨?_, ?_⟩ <;> rintro rfl <;> simp at range
  unfold hexadecimal?
  split
  · rename_i x behind whole
    rw [whole] at second
    simp [second x rfl]
  · rfl

theorem integer_unsigned (v : UInt64) (rest : List Char) :
    integer 10 (decimal v.toNat) ('u' :: rest) = some (.uint v, rest) := by
  simp [integer, natural?_decimal, v.toNat_lt]

/-- What stands in front of the digits of an integer. -/
inductive Radix
  | decimal
  | hexadecimal (x : Char) (isX : x = 'x' ∨ x = 'X')

namespace Radix

def base : Radix → Nat
  | decimal => 10
  | hexadecimal .. => 16

def mark : Radix → List Char
  | decimal => []
  | hexadecimal x _ => ['0', x]

end Radix

/-- An integer without a sign, by its digits. -/
structure Magnitude where
  radix : Radix
  digits : List Char
  value : Nat
  isValue : Text.natural? radix.base digits = some value

namespace Magnitude

def text (m : Magnitude) : List Char := m.radix.mark ++ m.digits

def ofNat (n : Nat) : Magnitude := ⟨.decimal, decimal n, n, natural?_decimal n⟩

theorem exists_head (m : Magnitude) : ∃ d more, m.text = d :: more ∧ Text.isDigit 10 d = true := by
  obtain ⟨radix, digits, value, isValue⟩ := m
  obtain ⟨d, more, rfl⟩ := List.exists_cons_of_ne_nil (Text.ne_nil_of_natural? isValue)
  cases radix with
  | decimal => exact ⟨d, more, rfl, Text.isDigit_of_natural? isValue List.mem_cons_self⟩
  | hexadecimal x isX => exact ⟨'0', x :: d :: more, rfl, by decide⟩

end Magnitude

namespace Parser

/-- An integer is read up to where its digits end. -/
theorem number_text (m : Magnitude) (ends : Undigited rest) :
    number (m.text ++ rest) = integerLiteral m.radix.base (m.text ++ rest) m.digits rest := by
  obtain ⟨radix, digits, value, isValue⟩ := m
  cases radix with
  | hexadecimal x isX =>
    have marked : hexadecimal? ('0' :: x :: (digits ++ rest)) = some (digits ++ rest) := if_pos isX
    have read : digits? 16 (digits ++ rest) = some (digits, rest) :=
      digits?_append isValue (Nat.le_refl 16) ends
    change number ('0' :: x :: (digits ++ rest)) = integerLiteral 16 _ digits rest
    simp only [number, marked, read]
    rfl
  | decimal =>
    have notHex : hexadecimal? (digits ++ rest) = none := hexadecimal?_digits isValue ends
    have read : digits? 10 (digits ++ rest) = some (digits, rest) :=
      digits?_append isValue (by decide) ends
    have noPoint : fraction rest = ([], rest) := by
      unfold fraction
      split
      · exact absurd (by decide) (ends _ rfl).2
      · rfl
    have noScale : scale? rest = none := by
      cases rest with
      | nil => rfl
      | cons c rest =>
        have notDigit := (ends c rfl).1
        refine if_neg ?_
        rintro (rfl | rfl) <;> cases notDigit
    change number (digits ++ rest) = integerLiteral 10 (digits ++ rest) digits rest
    simp only [number, notHex, read, noPoint, noScale]
    rfl

theorem number_misses {s : List Char} (h : ∀ c ∈ s.head?, Text.isDigit 10 c = false) :
    Misses number s := by
  have notHex : hexadecimal? s = none := by
    unfold hexadecimal?
    split
    · cases h _ rfl
    · rfl
  have noDigits : digits? 10 s = none := by
    cases s with
    | nil => rfl
    | cons c s => simp [digits?, h c rfl]
  exact ⟨s, by simp only [number, notHex, noDigits]⟩

/-- Behind an odd number of minus signs. -/
theorem negatedInteger_text (m : Magnitude) {before : List Char} (blank : Blank before)
    (ends : Undigited rest) (signed : ∀ c ∈ rest.head?, c ≠ 'u' ∧ c ≠ 'U') :
    negatedInteger (before ++ (m.text ++ rest)) =
      match Number.long? (-m.value) with
      | some v => .ok (.int v) rest
      | none => .miss (m.text ++ rest) := by
  have skipped : skipBlanks false (before ++ (m.text ++ rest)) = m.text ++ rest := by
    obtain ⟨d, more, shape, digit⟩ := m.exists_head
    rw [blank, shape, List.cons_append,
      skipBlanks_visible (visible_of_identPart (identPart_of_isDigit digit))]
  have behind : (rest.head?.any fun c => ['.', 'e', 'E', 'u', 'U'].contains c) = false := by
    cases rest with
    | nil => rfl
    | cons c rest =>
      obtain ⟨notDigit, other⟩ := ends c rfl
      have notSuffix := signed c rfl
      have notScale : c ≠ 'e' ∧ c ≠ 'E' := by
        refine ⟨?_, ?_⟩ <;> rintro rfl <;> cases notDigit
      simp only [List.mem_cons, not_or] at other
      simp [notSuffix, notScale, other]
  obtain ⟨radix, digits, value, isValue⟩ := m
  cases radix with
  | hexadecimal x isX =>
    have marked : hexadecimal? ('0' :: x :: (digits ++ rest)) = some (digits ++ rest) := if_pos isX
    have read : digits? 16 (digits ++ rest) = some (digits, rest) :=
      digits?_append isValue (Nat.le_refl 16) ends
    change Text.natural? 16 digits = some value at isValue
    change skipBlanks false (before ++ '0' :: x :: (digits ++ rest)) = '0' :: x :: (digits ++ rest) at skipped
    change negatedInteger (before ++ '0' :: x :: (digits ++ rest)) = _
    simp only [negatedInteger, bind, blanks, skipped, marked, Option.bind, read, isValue,
      Option.getD_some, behind]
    rfl
  | decimal =>
    have notHex : hexadecimal? (digits ++ rest) = none := hexadecimal?_digits isValue ends
    have read : digits? 10 (digits ++ rest) = some (digits, rest) :=
      digits?_append isValue (by decide) ends
    change Text.natural? 10 digits = some value at isValue
    change skipBlanks false (before ++ (digits ++ rest)) = digits ++ rest at skipped
    change negatedInteger (before ++ (digits ++ rest)) = _
    simp only [negatedInteger, bind, blanks, skipped, notHex, Option.bind_none, read, Option.map_some,
      isValue, Option.getD_some, behind]
    rfl

theorem negatedInteger_misses {before : List Char} (blank : Blank before) (shown : visible c = true)
    (notDigit : Text.isDigit 10 c = false) (more : List Char) :
    Misses negatedInteger (before ++ c :: more) := by
  have notHex : hexadecimal? (c :: more) = none := by
    unfold hexadecimal?
    split
    · rename_i whole
      cases whole
      cases notDigit
    · rfl
  refine ⟨c :: more, ?_⟩
  simp only [negatedInteger, bind, blanks, blank _, skipBlanks_visible shown, notHex]
  simp [digits?, notDigit]

end Parser

end

/-! ## Strings -/

/-- Whether a text reads as one part of a string. -/
def ReadsPart (style : StringStyle) (text : List Char) (part : StringPart) : Prop :=
  ∀ rest, stringParts style 0 (text ++ rest) = do
    let (parts, after) ← stringParts style 0 rest
    return (part :: parts, after)

/-- Between double quotes. -/
def doubleQuoted (bytes : Bool) : StringStyle := ⟨false, bytes, '"', false⟩

theorem readsPart_escaped (c : Char) : ReadsPart (doubleQuoted false) (escaped c) (.char c) := by
  intro rest
  unfold escaped
  split
  · rfl
  · rfl
  · rfl
  · rfl
  · rename_i notBackslash notQuote notNewline notReturn
    have plain : c ≠ '\\' ∧ '"' ≠ c ∧ c ≠ '\n' ∧ c ≠ '\r' :=
      ⟨notBackslash, Ne.symm notQuote, notNewline, notReturn⟩
    simp [stringParts, doubleQuoted, StringStyle.closing, plain]

theorem hexCode?_hexadecimal (byte : UInt8) (rest : List Char) :
    hexCode? 2 ((byte.toNat / 16).digitChar :: (byte.toNat % 16).digitChar :: rest) =
      some byte.toNat := by
  have high : byte.toNat / 16 < 16 := by have := byte.toNat_lt; omega
  have low : byte.toNat % 16 < 16 := Nat.mod_lt _ (by decide)
  have notPlus : ∀ d < 16, Nat.digitChar d ≠ '+' := by decide
  have value : byte.toNat / 16 * 16 + byte.toNat % 16 = byte.toNat := by omega
  simp [hexCode?, notPlus _ high, Text.natural?, Text.ofDigits,
    Text.digitValue?_digitChar high (by decide), Text.digitValue?_digitChar low (by decide), value]

theorem readsPart_hexadecimal (byte : UInt8) :
    ReadsPart (doubleQuoted true) (hexadecimal byte) (.code byte.toNat) := by
  intro rest
  simp [hexadecimal, stringParts, doubleQuoted, StringStyle.closing, escape, hexCode?_hexadecimal]
  rfl

/-- A text in quotes is read part by part, up to the closing quote. -/
theorem stringParts_flatMap {α : Type} {style : StringStyle} {text : α → List Char}
    {part : α → StringPart} (each : ∀ a, ReadsPart style (text a) (part a))
    (single : style.closing = ['"']) (as : List α) (rest : List Char) :
    stringParts style 0 (as.flatMap text ++ '"' :: rest) = .ok (as.map part, rest) := by
  induction as with
  | nil => simp [stringParts, single]
  | cons a as ih =>
    rw [List.flatMap_cons, List.append_assoc, each, ih]
    rfl

theorem openString?_double {inside : List Char} (single : ¬['"', '"'] <+: inside) :
    openString? ('"' :: inside) = some (doubleQuoted false, inside) ∧
      openString? ('b' :: '"' :: inside) = some (doubleQuoted true, inside) := by
  match inside, single with
  | [], _ => exact ⟨rfl, rfl⟩
  | [c], _ => exact ⟨rfl, rfl⟩
  | c :: d :: more, single =>
    have notTriple : ¬(c = '"' ∧ d = '"') := by
      rintro ⟨rfl, rfl⟩
      exact single ⟨more, rfl⟩
    constructor <;> simp [openString?, notTriple, doubleQuoted]

/-- Letters and quotes that open no string. -/
theorem openString?_none {name rest : List Char} (parts : ∀ c ∈ name, identPart c = true)
    (apart : ∀ c ∈ rest.head?, identPart c = false ∧ c ≠ '"' ∧ c ≠ '\'') :
    openString? (name ++ rest) = none := by
  have behind : ∀ letters q t, name ++ rest = letters ++ q :: t →
      (∀ c ∈ letters, c = 'r' ∨ c = 'R' ∨ c = 'b' ∨ c = 'B') → ¬(q = '"' ∨ q = '\'') := by
    intro letters q t whole isLetter quote
    have parts' : ∀ c ∈ letters, identPart c = true := by
      intro c mem
      rcases isLetter c mem with rfl | rfl | rfl | rfl <;> rfl
    have notPart : ∀ c ∈ (q :: t).head?, identPart c = false := by
      rintro _ ⟨⟩
      rcases quote with rfl | rfl <;> rfl
    have left := (Parser.takeWhile_run parts fun c hc => (apart c hc).1).2
    rw [whole, (Parser.takeWhile_run parts' notPart).2] at left
    have noQuote := (apart q (left ▸ rfl)).2
    exact quote.elim noQuote.1 noQuote.2
  unfold openString?
  extract_lets letters style
  have isPrefix : letters <+: name ++ rest :=
    (List.takeWhile_prefix _).trans (List.take_prefix 2 (name ++ rest))
  have noQuote : ∀ q t, (name ++ rest).drop letters.length = q :: t → ¬(q = '"' ∨ q = '\'') := by
    intro q t cut
    refine behind letters q t ?_ fun c mem => ?_
    · rw [← cut, List.prefix_iff_eq_append.mp isPrefix]
    · simpa using List.mem_takeWhile_imp mem
  split
  · rename_i cut
    exact if_neg (noQuote _ _ cut)
  · rename_i cut
    exact if_neg (noQuote _ _ cut)
  · rfl

namespace Parser

section
variable {rest : List Char}

theorem stringLiteral_quoted {α : Type} {bytes : Bool} {text : α → List Char} {part : α → StringPart}
    (each : ∀ a, ReadsPart (doubleQuoted bytes) (text a) (part a))
    (starts : ∀ a, ∃ c more, text a = c :: more ∧ c ≠ '"') (as : List α)
    (apart : ∀ c ∈ rest.head?, c ≠ '"') :
    stringLiteral ((if bytes then ['b'] else []) ++ (quoted (as.flatMap text) ++ rest)) =
      .ok (if bytes then .bytes ((as.map part).flatMap StringPart.toBytes)
        else .string (String.ofList ((as.map part).map StringPart.toChar))) rest := by
  have single : ¬['"', '"'] <+: as.flatMap text ++ '"' :: rest := by
    cases as with
    | nil =>
      rintro ⟨t, same⟩
      obtain rfl : '"' :: t = rest := by simpa using same
      exact apart _ rfl rfl
    | cons a as =>
      obtain ⟨c, more, shape, notQuote⟩ := starts a
      rintro ⟨t, same⟩
      rw [List.flatMap_cons, shape] at same
      exact notQuote (List.cons.inj same).1.symm
  have opened := openString?_double single
  have parts := stringParts_flatMap each rfl as rest
  have whole : quoted (as.flatMap text) ++ rest = '"' :: (as.flatMap text ++ '"' :: rest) := by
    simp [quoted]
  cases bytes with
  | false =>
    simp only [stringLiteral, Bool.false_eq_true, ↓reduceIte, List.nil_append, whole, opened.1, parts]
    rfl
  | true =>
    simp only [stringLiteral, ↓reduceIte, List.cons_append, List.nil_append, whole, opened.2, parts]
    rfl

/-! ## Literals -/

/-- The words that are literals. -/
def words : List (Parser Literal) :=
  [constant (.bool true) (word "true"), constant (.bool false) (word "false"),
    constant .null (word "null")]

theorem words_miss {s : List Char} (h : ∀ c ∈ s.head?, c ≠ 't' ∧ c ≠ 'f' ∧ c ≠ 'n') :
    ∀ p ∈ words, Misses p s := by
  simp only [words, List.forall_mem_cons]
  exact ⟨(word_misses_head rfl fun same => (h _ same).1 rfl).constant _,
    (word_misses_head rfl fun same => (h _ same).2.1 rfl).constant _,
    (word_misses_head rfl fun same => (h _ same).2.2 rfl).constant _, nofun⟩

theorem literal_misses {name : List Char} (parts : ∀ c ∈ name, identPart c = true)
    (start : ∀ c ∈ (name ++ rest).head?, Text.isDigit 10 c = false)
    (free : String.ofList name ∉ reserved)
    (apart : ∀ c ∈ rest.head?, identPart c = false ∧ c ≠ '"' ∧ c ≠ '\'') :
    Misses literal (name ++ rest) := by
  have notWord : ∀ text ∈ reserved, text.toList.all identPart = true →
      Misses (word text) (name ++ rest) := by
    intro text keyword parts'
    refine word_misses (List.all_eq_true.mp parts') parts ?_ fun c hc => (apart c hc).1
    rintro rfl
    rw [String.ofList_toList] at free
    exact free keyword
  have others : ∀ p ∈ words ++ [number], Misses p (name ++ rest) := by
    simp only [words, List.cons_append, List.nil_append, List.forall_mem_cons]
    exact ⟨(notWord _ (by decide) (by decide)).constant _, (notWord _ (by decide) (by decide)).constant _,
      (notWord _ (by decide) (by decide)).constant _, number_misses start, nofun⟩
  have string : stringLiteral (name ++ rest) = .miss (name ++ rest) := by
    simp only [stringLiteral, openString?_none parts apart]
  exact ⟨_, (Misses.firstOf others).trans string⟩

theorem literal_eq_number {s : List Char} (digit : ∀ c ∈ s.head?, Text.isDigit 10 c = true)
    (found : ¬Misses number s) : literal s = number s := by
  refine firstOf_eq words [] (words_miss fun c hc => ?_) found
  have range := Text.digit_range (digit c hc)
  refine ⟨?_, ?_, ?_⟩ <;> rintro rfl <;> simp at range

theorem literal_number {s : List Char} {v : Literal} (digit : ∀ c ∈ s.head?, Text.isDigit 10 c = true)
    (read : number s = .ok v rest) : literal s = .ok v rest := by
  refine (literal_eq_number digit ?_).trans read
  rintro ⟨left, missed⟩
  rw [read] at missed
  cases missed

theorem literal_string {s : List Char} {v : Literal} (start : ∃ c ∈ s.head?, c = '"' ∨ c = 'b')
    (read : stringLiteral s = .ok v rest) : literal s = .ok v rest := by
  obtain ⟨c, hc, isStart⟩ := start
  have only : ∀ d ∈ s.head?, d = c := fun d hd => Option.some.inj (hd.symm.trans hc)
  have others : ∀ p ∈ words ++ [number], Misses p s := by
    rw [List.forall_mem_append, List.forall_mem_singleton]
    refine ⟨words_miss fun d hd => ?_, number_misses fun d hd => ?_⟩
    all_goals
      rw [only d hd]
      rcases isStart with rfl | rfl <;> decide
  exact (Misses.firstOf others).trans read

theorem head_decimal (n : Nat) (rest : List Char) :
    ∀ c ∈ (decimal n ++ rest).head?, Text.isDigit 10 c = true := by
  obtain ⟨d, more, shape, digit⟩ := (Magnitude.ofNat n).exists_head
  change ∀ c ∈ ((Magnitude.ofNat n).text ++ rest).head?, _
  rw [shape]
  rintro _ ⟨⟩
  exact digit

theorem exists_escaped (c : Char) : ∃ d more, escaped c = d :: more ∧ d ≠ '"' := by
  unfold escaped
  split
  · exact ⟨_, _, rfl, by decide⟩
  · exact ⟨_, _, rfl, by decide⟩
  · exact ⟨_, _, rfl, by decide⟩
  · exact ⟨_, _, rfl, by decide⟩
  · rename_i notQuote _ _
    exact ⟨_, _, rfl, notQuote⟩

theorem number_int {n : Int64} (positive : ¬n < 0) (ends : Ends 9 rest) :
    number (decimal n.toInt.natAbs ++ rest) = .ok (.int n) rest := by
  have signed : ∀ c ∈ rest.head?, c ≠ 'u' ∧ c ≠ 'U' :=
    fun c hc => ⟨ends.part_ne rfl hc, ends.part_ne rfl hc⟩
  have read := integer_signed (natural?_decimal n.toInt.natAbs) signed
  rw [Number.long?_natAbs (Int64.not_lt.mp positive)] at read
  refine (number_text (.ofNat _) (undigited_of_ends ends)).trans ?_
  change integerLiteral 10 _ (decimal n.toInt.natAbs) rest = _
  rw [integerLiteral, read]
  rfl

theorem number_uint (n : UInt64) (rest : List Char) :
    number (decimal n.toNat ++ 'u' :: rest) = .ok (.uint n) rest := by
  have ends : Undigited ('u' :: rest) := by
    rintro _ ⟨⟩
    decide
  refine (number_text (.ofNat _) ends).trans ?_
  change integerLiteral 10 _ (decimal n.toNat) ('u' :: rest) = _
  rw [integerLiteral, integer_unsigned]

/-- Up to what follows an operand. -/
theorem literal_printed {v : Literal} (notDouble : ∀ x, v ≠ .double x) (unsigned : v.printed.level = 8)
    (ends : Ends 9 rest) : literal (v.printed.chars ++ rest) = .ok v rest := by
  have apart : ∀ c ∈ rest.head?, identPart c = false := fun c hc => (ends.apart c hc).1
  have notQuote : ∀ c ∈ rest.head?, c ≠ '"' := fun c hc => (ends.apart c hc).2.1
  cases v with
  | bool b =>
    cases b with
    | true => exact firstOf_ok [] _ nofun (constant_ok (word_append apart) _)
    | false =>
      refine firstOf_ok [_] _ (List.forall_mem_singleton.mpr ?_) (constant_ok (word_append apart) _)
      exact (word_misses_head (c := 't') rfl (by simp [Literal.printed])).constant _
  | null =>
    refine firstOf_ok [_, _] _ ?_ (constant_ok (word_append apart) _)
    simp only [List.forall_mem_cons]
    exact ⟨(word_misses_head (c := 't') rfl (by simp [Literal.printed])).constant _,
      (word_misses_head (c := 'f') rfl (by simp [Literal.printed])).constant _, nofun⟩
  | int n =>
    have positive : ¬n < 0 := by
      intro negative
      simp [Literal.printed, negative] at unsigned
    simp only [Literal.printed, positive, ↓reduceIte]
    exact literal_number (head_decimal _ _) (number_int positive ends)
  | uint n =>
    simp only [Literal.printed, List.append_assoc, List.cons_append, List.nil_append]
    exact literal_number (head_decimal _ _) (number_uint n rest)
  | double x => exact absurd rfl (notDouble x)
  | string s =>
    have read := stringLiteral_quoted readsPart_escaped exists_escaped s.toList notQuote
    refine literal_string ⟨'"', rfl, .inl rfl⟩ (read.trans ?_)
    simp [Function.comp_def, StringPart.toChar]
  | bytes bs =>
    have read := stringLiteral_quoted readsPart_hexadecimal (fun b => ⟨_, _, rfl, by decide⟩) bs notQuote
    refine literal_string ⟨'b', rfl, .inr rfl⟩ (read.trans ?_)
    simp [StringPart.toBytes, List.flatMap_map]

end

end Parser

/-- A literal without a sign starts with a letter, a digit or a quote. -/
theorem Literal.exists_head {v : Literal} (notDouble : ∀ x, v ≠ .double x)
    (unsigned : v.printed.level = 8) :
    ∃ c more, v.printed.chars = c :: more ∧ (identPart c = true ∨ c = '"') := by
  have digits (n : Nat) (more : List Char) :
      ∃ c behind, decimal n ++ more = c :: behind ∧ (identPart c = true ∨ c = '"') := by
    obtain ⟨d, behind, shape, digit⟩ := (Magnitude.ofNat n).exists_head
    exact ⟨d, behind ++ more, congrArg (· ++ more) shape, .inl (identPart_of_isDigit digit)⟩
  cases v with
  | bool b => cases b <;> exact ⟨_, _, rfl, .inl rfl⟩
  | int n =>
    have positive : ¬n < 0 := by
      intro negative
      simp [printed, negative] at unsigned
    simpa [printed, positive] using digits n.toInt.natAbs []
  | uint n => exact digits n.toNat ['u']
  | double x => exact absurd rfl (notDouble x)
  | string s => exact ⟨_, _, rfl, .inr rfl⟩
  | bytes bs => exact ⟨_, _, rfl, .inl rfl⟩
  | null => exact ⟨_, _, rfl, .inl rfl⟩

end ClusterPolicy.Cel
