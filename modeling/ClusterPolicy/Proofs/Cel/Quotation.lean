import ClusterPolicy.Proofs.Cel.Literal

namespace ClusterPolicy.Cel

/-- So many hexadecimal digits, and their number. A plus sign may stand in the place of the first. -/
def HexDigits (count : Nat) (text : List Char) (n : Nat) : Prop :=
  text.length = count ∧
    (Text.natural? 16 text = some n ∨ ∃ digits, text = '+' :: digits ∧ Text.natural? 16 digits = some n)

/-- Three octal digits that name a byte. -/
def OctalDigits (text : List Char) (n : Nat) : Prop :=
  text.length = 3 ∧ Text.natural? 8 text = some n ∧ n ≤ 255

/-- The characters that one letter or sign stands for behind a backslash. -/
def named : List (Char × Char) :=
  [('\\', '\\'), ('"', '"'), ('\'', '\''), ('\x60', '\x60'), ('?', '?'), ('a', '\x07'), ('b', '\x08'),
    ('f', '\x0c'), ('n', '\n'), ('r', '\r'), ('t', '\t'), ('v', '\x0b')]

/-- What stands behind a backslash. -/
inductive Escapes (bytes : Bool) : List Char → StringPart → Prop
  | named {c d : Char} (mem : (c, d) ∈ named) : Escapes bytes [c] (.char d)
  | hexadecimal {x : Char} {digits : List Char} {n : Nat} (isX : x = 'x' ∨ x = 'X')
      (value : HexDigits 2 digits n) : Escapes bytes (x :: digits) (.code n)
  | octal {digits : List Char} {n : Nat} (value : OctalDigits digits n) : Escapes bytes digits (.code n)
  | unicode {u c : Char} {count n : Nat} {digits : List Char} (isU : (u, count) ∈ [('u', 4), ('U', 8)])
      (isText : bytes = false) (value : HexDigits count digits n) (isScalar : Text.scalar? n = some c) :
      Escapes bytes (u :: digits) (.char c)

/-- The parts of a text up to its first closing quotes outside of an escape, and what follows these. Without
escapes a backslash is a character like any other; between single quotes a line does not end. -/
inductive Quotes (style : StringStyle) : List Char → List StringPart → List Char → Prop
  | closed (rest : List Char) : Quotes style (style.closing ++ rest) [] rest
  | plain {c : Char} {more rest : List Char} {parts : List StringPart}
      (isOpen : ¬style.closing <+: c :: more) (unescaped : style.raw = true ∨ c ≠ '\\')
      (sameLine : style.triple = true ∨ c ≠ '\n' ∧ c ≠ '\r') (behind : Quotes style more parts rest) :
      Quotes style (c :: more) (.char c :: parts) rest
  | escaped {text more rest : List Char} {part : StringPart} {parts : List StringPart}
      (escapes : style.raw = false) (isEscape : Escapes style.bytes text part)
      (behind : Quotes style more parts rest) : Quotes style ('\\' :: (text ++ more)) (part :: parts) rest

/-! ## Escapes -/

section
variable {count n : Nat} {s text rest : List Char} {bytes : Bool} {part : StringPart}

theorem natural?_plus (radix : Nat) (digits : List Char) : Text.natural? radix ('+' :: digits) = none := rfl

theorem hexCode?_append (value : HexDigits count text n) (rest : List Char) :
    hexCode? count (text ++ rest) = some n := by
  obtain ⟨rfl, value⟩ := value
  rw [hexCode?, List.take_left]
  simp only [Nat.lt_irrefl, ↓reduceIte]
  split
  · rename_i digits
    rw [natural?_plus] at value
    obtain ⟨⟨⟩⟩ | ⟨_, ⟨⟩, value⟩ := value
    exact value
  · rename_i notPlus
    obtain value | ⟨digits, rfl, -⟩ := value
    · exact value
    · exact absurd rfl (notPlus digits)

theorem exists_hexDigits (h : hexCode? count s = some n) :
    ∃ text rest, s = text ++ rest ∧ HexDigits count text n := by
  refine ⟨s.take count, s.drop count, (List.take_append_drop count s).symm, ?_⟩
  unfold hexCode? at h
  dsimp only at h
  split at h
  · cases h
  · rename_i enough
    have long : (s.take count).length = count := by
      have := List.length_take_le count s
      omega
    refine ⟨long, ?_⟩
    split at h
    · rename_i digits shape
      exact .inr ⟨digits, shape, h⟩
    · exact .inl h

theorem toNat_of_octal {c : Char} {d : Nat} (h : Text.digitValue? 8 c = some d) :
    c.toNat = 48 + d ∧ d < 8 := by
  simp only [Text.digitValue?, Option.filter_eq_some_iff, decide_eq_true_eq, Char.le_def,
    UInt32.le_iff_toNat_le, Char.toNat_val] at h
  obtain ⟨h, small⟩ := h
  split at h
  · rename_i range
    cases h
    simp at range small
    omega
  · split at h
    · rename_i range
      cases h
      simp at range small
      omega
    · split at h
      · rename_i range
        cases h
        simp at range small
        omega
      · cases h

/-- A number of three octal digits is a byte just if the first of them is at most three. -/
theorem octalDigits_iff {c : Char} : OctalDigits (c :: text) n ↔
    ('0' ≤ c ∧ c ≤ '3') ∧ text.length = 2 ∧ Text.natural? 8 (c :: text) = some n := by
  have bounds (value : Text.natural? 8 (c :: text) = some n) (two : text.length = 2) :
      n ≤ 255 ↔ '0' ≤ c ∧ c ≤ '3' := by
    obtain ⟨d, e, rfl⟩ := List.length_eq_two.mp two
    simp only [Text.natural?, List.isEmpty_cons, Bool.false_eq_true, ↓reduceIte, Text.ofDigits,
      Option.bind_eq_some_iff, Option.some.injEq] at value
    obtain ⟨high, hc, middle, hd, low, he, rfl⟩ := value
    have first := toNat_of_octal hc
    have second := toNat_of_octal hd
    have third := toNat_of_octal he
    simp only [Char.le_def, UInt32.le_iff_toNat_le, Char.toNat_val]
    simp
    omega
  constructor
  · rintro ⟨long, value, isByte⟩
    have two : text.length = 2 := Nat.succ.inj long
    exact ⟨(bounds value two).mp isByte, two, value⟩
  · rintro ⟨first, two, value⟩
    exact ⟨congrArg (· + 1) two, value, (bounds value two).mpr first⟩

theorem escape_append (h : Escapes bytes text part) (rest : List Char) :
    escape bytes (text ++ rest) = .ok (part, text.length) := by
  cases h with
  | named mem =>
    simp only [named, List.mem_cons, Prod.mk.injEq, List.not_mem_nil, or_false] at mem
    rcases mem with ⟨rfl, rfl⟩ | ⟨rfl, rfl⟩ | ⟨rfl, rfl⟩ | ⟨rfl, rfl⟩ | ⟨rfl, rfl⟩ | ⟨rfl, rfl⟩ |
      ⟨rfl, rfl⟩ | ⟨rfl, rfl⟩ | ⟨rfl, rfl⟩ | ⟨rfl, rfl⟩ | ⟨rfl, rfl⟩ | ⟨rfl, rfl⟩ <;> rfl
  | @hexadecimal x digits n isX value =>
    rcases isX with rfl | rfl <;> simp [escape, hexCode?_append value, value.1]
  | octal value =>
    cases text with
    | nil => cases value.1
    | cons c text =>
      obtain ⟨range, two, value⟩ := octalDigits_iff.mp value
      have room : 2 ≤ (text ++ rest).length := by
        rw [List.length_append]
        omega
      rw [List.cons_append]
      unfold escape
      dsimp only
      -- no other escape starts with one of these digits
      split <;> try exact absurd range (by decide)
      rw [if_pos ⟨range.1, range.2, room⟩, ← two, List.take_left, value, List.length_cons, two]
  | unicode isU isText value isScalar =>
    simp only [List.mem_cons, Prod.mk.injEq, List.not_mem_nil, or_false] at isU
    rcases isU with ⟨rfl, rfl⟩ | ⟨rfl, rfl⟩ <;>
      simp [escape, isText, hexCode?_append value, isScalar, value.1]

theorem exists_escapes_unicode {u : Char} {width used : Nat} {more : List Char}
    (isU : (u, width) ∈ [('u', 4), ('U', 8)])
    (h : (if bytes = true then Except.error Problem.escapeSequence
      else match (hexCode? width more).bind Text.scalar? with
        | some value => .ok (StringPart.char value, width + 1)
        | none => .error .unicodeEscape) = .ok (part, used)) :
    ∃ text rest, u :: more = text ++ rest ∧ text.length = used ∧ Escapes bytes text part := by
  split at h
  · cases h
  · rename_i isText
    split at h
    · rename_i value read
      cases h
      obtain ⟨n, number, isScalar⟩ := Option.bind_eq_some_iff.mp read
      obtain ⟨digits, rest, rfl, isNumber⟩ := exists_hexDigits number
      exact ⟨u :: digits, rest, rfl, congrArg (· + 1) isNumber.1,
        .unicode isU (Bool.eq_false_iff.mpr isText) isNumber isScalar⟩
    · cases h

theorem exists_escapes {used : Nat} (h : escape bytes s = .ok (part, used)) :
    ∃ text rest, s = text ++ rest ∧ text.length = used ∧ Escapes bytes text part := by
  unfold escape at h
  split at h
  · cases h
  · rename_i c more
    dsimp only at h
    split at h
    case h_1 | h_2 | h_3 | h_4 | h_5 | h_6 | h_7 | h_8 | h_9 | h_10 | h_11 | h_12 =>
      cases h
      exact ⟨[_], more, rfl, rfl, .named (by decide)⟩
    case h_13 | h_14 =>
      split at h
      · rename_i value read
        cases h
        obtain ⟨digits, rest, rfl, isNumber⟩ := exists_hexDigits read
        exact ⟨_ :: digits, rest, rfl, congrArg (· + 1) isNumber.1, .hexadecimal (by decide) isNumber⟩
      · cases h
    case h_15 | h_16 => exact exists_escapes_unicode (by decide) h
    case h_17 =>
      split at h
      · rename_i range
        split at h
        · rename_i value read
          cases h
          have two : (more.take 2).length = 2 := List.length_take_of_le range.2.2
          refine ⟨c :: more.take 2, more.drop 2, ?_, congrArg (· + 1) two, .octal (octalDigits_iff.mpr ?_)⟩
          · rw [List.cons_append, List.take_append_drop]
          · exact ⟨⟨range.1, range.2.1⟩, two, read⟩
        · cases h
      · cases h

/-- Just the escapes are read, up to where they end. -/
theorem escape_eq_ok_iff {used : Nat} : escape bytes s = .ok (part, used) ↔
    ∃ text rest, s = text ++ rest ∧ text.length = used ∧ Escapes bytes text part := by
  refine ⟨exists_escapes, ?_⟩
  rintro ⟨text, rest, rfl, rfl, isEscape⟩
  exact escape_append isEscape rest

/-- A number that an escape gives is a byte. -/
theorem Escapes.code_lt (h : Escapes bytes text (.code n)) : n < 256 := by
  cases h with
  | hexadecimal isX value =>
    obtain ⟨two, value | ⟨digits, rfl, value⟩⟩ := value
    · have bound := Text.natural?_lt value
      rwa [two] at bound
    · have bound := Text.natural?_lt value
      rw [Nat.succ.inj two] at bound
      omega
  | octal value => exact Nat.lt_succ_of_le value.2.2

end

/-! ## Parts -/

section
variable {style : StringStyle} {s rest : List Char} {parts : List StringPart}

theorem stringParts_drop (style : StringStyle) (skip : Nat) (s : List Char) :
    stringParts style skip s = stringParts style 0 (s.drop skip) := by
  induction s generalizing skip with
  | nil => cases skip <;> rfl
  | cons c s ih =>
    cases skip with
    | zero => rfl
    | succ n => exact ih n

theorem exists_ok_of_bind {ε α β : Type} {x : Except ε α} {f : α → Except ε β} {b : β}
    (h : (x >>= f) = .ok b) : ∃ a, x = .ok a ∧ f a = .ok b := by
  cases x with
  | error e => cases h
  | ok a => exact ⟨a, rfl, h⟩

theorem quotes_of_stringParts (skip : Nat) (h : stringParts style skip s = .ok (parts, rest)) :
    Quotes style (s.drop skip) parts rest := by
  induction s generalizing skip parts with
  | nil => cases h
  | cons c s ih =>
    cases skip with
    | succ n => exact ih n h
    | zero =>
      unfold stringParts at h
      dsimp only at h
      rw [List.drop_zero]
      by_cases closes : style.closing <+: c :: s
      · rw [if_pos (List.isPrefixOf_iff_prefix.mpr closes)] at h
        cases h
        obtain ⟨behind, whole⟩ := closes
        rw [← whole, List.drop_left]
        exact .closed behind
      · rw [if_neg (mt List.isPrefixOf_iff_prefix.mp closes)] at h
        split at h
        · cases h
        · rename_i goesOn
          have sameLine : style.triple = true ∨ c ≠ '\n' ∧ c ≠ '\r' := by
            simpa [Classical.or_iff_not_imp_left] using goesOn
          split at h
          · rename_i isEscape
            simp only [Bool.and_eq_true, decide_eq_true_eq, Bool.not_eq_true'] at isEscape
            obtain ⟨⟨part, used⟩, read, h⟩ := exists_ok_of_bind h
            obtain ⟨⟨behind, after⟩, others, h⟩ := exists_ok_of_bind h
            cases h
            obtain ⟨text, more, rfl, rfl, whole⟩ := escape_eq_ok_iff.mp read
            have inner := ih _ others
            rw [List.drop_left] at inner
            rw [isEscape.1]
            exact .escaped isEscape.2 whole inner
          · rename_i notEscape
            have unescaped : style.raw = true ∨ c ≠ '\\' := by
              by_contra neither
              exact notEscape (by simpa [not_or, and_comm] using neither)
            obtain ⟨⟨behind, after⟩, others, h⟩ := exists_ok_of_bind h
            cases h
            exact .plain closes unescaped sameLine (ih 0 others)

theorem exists_closing (style : StringStyle) : ∃ more, style.closing = style.quote :: more := by
  unfold StringStyle.closing
  split <;> exact ⟨_, rfl⟩

theorem stringParts_of_quotes (notBackslash : style.quote ≠ '\\') (h : Quotes style s parts rest) :
    stringParts style 0 s = .ok (parts, rest) := by
  obtain ⟨more, shape⟩ := exists_closing style
  induction h with
  | closed rest =>
    have closes : style.closing.isPrefixOf (style.quote :: (more ++ rest)) = true := by
      rw [List.isPrefixOf_iff_prefix, shape]
      exact ⟨rest, rfl⟩
    rw [shape, List.cons_append, stringParts, if_pos closes, shape, ← List.cons_append, List.drop_left]
  | @plain c behind rest parts isOpen unescaped sameLine _ ih =>
    have notClosing : style.closing.isPrefixOf (c :: behind) = false := by
      rw [Bool.eq_false_iff, ne_eq, List.isPrefixOf_iff_prefix]
      exact isOpen
    have goesOn : (!style.triple && (decide (c = '\n') || decide (c = '\r'))) = false := by
      rcases sameLine with triple | ⟨notNewline, notReturn⟩
      · simp [triple]
      · simp [notNewline, notReturn]
    have notEscape : (decide (c = '\\') && !style.raw) = false := by
      rcases unescaped with raw | other
      · simp [raw]
      · simp [other]
    rw [stringParts]
    simp only [notClosing, goesOn, notEscape, ih, Bool.false_eq_true, ↓reduceIte]
    rfl
  | @escaped text behind rest part parts escapes isEscape _ ih =>
    have notClosing : style.closing.isPrefixOf ('\\' :: (text ++ behind)) = false := by
      rw [Bool.eq_false_iff, ne_eq, List.isPrefixOf_iff_prefix, shape]
      rintro ⟨t, same⟩
      exact notBackslash (List.cons.inj same).1
    have goesOn : (!style.triple && (decide ('\\' = '\n') || decide ('\\' = '\r'))) = false := by
      rw [Bool.and_eq_false_iff]
      exact .inr (by decide)
    have inner : stringParts style text.length (text ++ behind) = .ok (parts, rest) := by
      rw [stringParts_drop, List.drop_left, ih]
    rw [stringParts]
    simp only [notClosing, goesOn, escapes, escape_append isEscape, Bool.false_eq_true, ↓reduceIte,
      decide_true, Bool.not_false, Bool.and_self, bind, Except.bind, inner]
    rfl

/-- Just the texts with closing quotes and with parts that can be told are read. -/
theorem stringParts_eq_ok_iff (notBackslash : style.quote ≠ '\\') :
    stringParts style 0 s = .ok (parts, rest) ↔ Quotes style s parts rest :=
  ⟨fun h => quotes_of_stringParts 0 h, stringParts_of_quotes notBackslash⟩

/-- A number among the parts is a byte. -/
theorem Quotes.code_lt {n : Nat} (h : Quotes style s parts rest) (mem : .code n ∈ parts) : n < 256 := by
  induction h with
  | closed => cases mem
  | plain _ _ _ _ ih =>
    cases mem with
    | tail _ mem => exact ih mem
  | escaped _ isEscape _ ih =>
    cases mem with
    | head => exact isEscape.code_lt
    | tail _ mem => exact ih mem

theorem Quotes.suffix (h : Quotes style s parts rest) : rest <:+ s := by
  induction h with
  | closed rest => exact ⟨style.closing, rfl⟩
  | @plain c _ _ _ _ _ _ _ ih => exact ih.trans (List.suffix_cons c _)
  | @escaped text _ _ _ _ _ _ _ ih => exact ih.trans ⟨'\\' :: text, rfl⟩

end

/-! ## Literals -/

namespace StringStyle

/-- What the letters in front of the quotes say. -/
def ofLetters (letters : List Char) (quote : Char) (triple : Bool) : StringStyle where
  raw := letters.any fun c => c = 'r' || c = 'R'
  bytes := letters.any fun c => c = 'b' || c = 'B'
  quote := quote
  triple := triple

/-- The value of a text with these parts. -/
def literal (style : StringStyle) (parts : List StringPart) : Literal :=
  if style.bytes then .bytes (parts.flatMap StringPart.toBytes)
  else .string (String.ofList (parts.map StringPart.toChar))

end StringStyle

section
variable {letters body rest : List Char} {quote : Char} {triple : Bool}

/-- Three quotes in a row are taken together. -/
theorem openString?_append (few : letters.length ≤ 2) (areLetters : ∀ c ∈ letters, c ∈ ['r', 'R', 'b', 'B'])
    (isQuote : quote = '"' ∨ quote = '\'') (single : triple = false → ¬[quote, quote] <+: body) :
    openString? (letters ++ ((StringStyle.ofLetters letters quote triple).closing ++ body)) =
      some (.ofLetters letters quote triple, body) := by
  obtain ⟨more, shape⟩ := exists_closing (.ofLetters letters quote triple)
  have read : ((letters ++ ((StringStyle.ofLetters letters quote triple).closing ++ body)).take 2).takeWhile
      (fun c => ['r', 'R', 'b', 'B'].contains c) = letters := by
    rw [List.take_append, List.take_of_length_le few]
    refine (Parser.takeWhile_run (fun c mem => by simpa using areLetters c mem) fun c hc => ?_).1
    rw [List.head?_take, shape] at hc
    split at hc
    · cases hc
    · obtain rfl : quote = c := Option.some.inj hc
      rcases isQuote with rfl | rfl <;> decide
  unfold openString?
  dsimp only
  rw [read, List.drop_left]
  cases triple with
  | true => exact (if_pos isQuote).trans (if_pos ⟨rfl, rfl⟩)
  | false =>
    match body, single rfl with
    | [], _ | [_], _ => exact if_pos isQuote
    | b :: c :: body, notTriple =>
      have other : ¬(b = quote ∧ c = quote) := by
        rintro ⟨rfl, rfl⟩
        exact notTriple ⟨body, rfl⟩
      exact (if_pos isQuote).trans (if_neg other)

/-- A text is a literal just if its parts up to the closing quotes can be told. A number that an escape
gives is a byte, and in a text the character with that code. -/
theorem stringLiteral_eq_ok_iff (few : letters.length ≤ 2)
    (areLetters : ∀ c ∈ letters, c ∈ ['r', 'R', 'b', 'B']) (isQuote : quote = '"' ∨ quote = '\'')
    (single : triple = false → ¬[quote, quote] <+: body) (value : Literal) :
    let style : StringStyle := .ofLetters letters quote triple
    Parser.stringLiteral (letters ++ (style.closing ++ body)) = .ok value rest ↔
      ∃ parts, Quotes style body parts rest ∧ value = style.literal parts ∧
        ∀ n, .code n ∈ parts → n < 256 := by
  intro style
  have notBackslash : style.quote ≠ '\\' := by
    rintro (same : quote = '\\')
    rcases isQuote with rfl | rfl <;> cases same
  have opened : openString? (letters ++ (style.closing ++ body)) = some (style, body) :=
    openString?_append few areLetters isQuote single
  simp only [Parser.stringLiteral, opened]
  constructor
  · intro h
    split at h
    · cases h
    · rename_i parts after read
      cases h
      have quotes := (stringParts_eq_ok_iff notBackslash).mp read
      exact ⟨parts, quotes, rfl, fun n => quotes.code_lt⟩
  · rintro ⟨parts, quotes, rfl, -⟩
    rw [(stringParts_eq_ok_iff notBackslash).mpr quotes]
    rfl

/-- A byte by its hexadecimal digits, one by its octal digits, and a character of two bytes. -/
theorem stringLiteral_eq_ok_iff_bytes :
    let style : StringStyle := .ofLetters ['b'] '\'' false
    let body := "\\xfF\\101é' + 1".toList
    ¬['\'', '\''] <+: body ∧
      Quotes style body [.code 255, .code 65, .char 'é'] " + 1".toList ∧
      Parser.stringLiteral "b'\\xfF\\101é' + 1".toList = .ok (.bytes [255, 65, 195, 169]) " + 1".toList := by
  intro style body
  have single : ¬['\'', '\''] <+: body := by decide
  have quotes : Quotes style body [.code 255, .code 65, .char 'é'] " + 1".toList := by
    refine @Quotes.escaped style ['x', 'f', 'F'] _ _ _ _ rfl (.hexadecimal (.inl rfl) ⟨rfl, .inl rfl⟩) ?_
    refine @Quotes.escaped style ['1', '0', '1'] _ _ _ _ rfl (.octal ⟨rfl, rfl, by decide⟩) ?_
    exact .plain (by decide) (.inr (by decide)) (.inr (by decide)) (.closed _)
  have areLetters : ∀ c ∈ ['b'], c ∈ ['r', 'R', 'b', 'B'] := by simp
  exact ⟨single, quotes, (stringLiteral_eq_ok_iff (by decide) areLetters (.inr rfl) (fun _ => single) _).mpr
    ⟨_, quotes, rfl, fun n => quotes.code_lt⟩⟩

/-- A sign is taken for the first of two hexadecimal digits. -/
theorem stringLiteral_signed_escape :
    Parser.stringLiteral "\"\\x+f\"".toList = .ok (.string "\x0f") [] ∧ Text.natural? 16 ['+', 'f'] = none :=
  ⟨rfl, rfl⟩

end

end ClusterPolicy.Cel
