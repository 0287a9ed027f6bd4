import ClusterPolicy.Cedar.Token.Lexer
import ClusterPolicy.Proofs.Text.Digits

namespace ClusterPolicy.Cedar

/-! ## Escapes -/

theorem scalar?_toNat (c : Char) : Text.scalar? c.toNat = some c := by
  have valid : c.toNat.isValidChar := c.valid
  have same : Char.ofNatAux c.toNat valid = c := Char.ext (UInt32.toNat_inj.mp rfl)
  exact (dif_pos valid).trans (congrArg some same)

/-- A braced code is read up to its brace, whatever digits of it were read before. -/
theorem bracedCode?_digits {digits : List Char} {count value code : Nat} (rest : List Char)
    (hd : ∀ c ∈ digits, Text.isDigit 16 c = true) (hv : Text.ofDigits 16 value digits = some code)
    (some_digit : 0 < count + digits.length) (few : count + digits.length ≤ 6) :
    bracedCode? count value (digits ++ '\x7d' :: rest) = some (code, digits.length + 1) := by
  induction digits generalizing count value with
  | nil =>
    have bounds : ¬(count = 0 ∨ 6 < count) := by simp at some_digit few; omega
    simp only [Text.ofDigits, Option.some.injEq] at hv
    simp [bracedCode?, bounds, hv]
  | cons c digits ih =>
    have digit := hd c List.mem_cons_self
    have notBrace : c ≠ '\x7d' := by rintro rfl; simp [Text.isDigit, Text.digitValue?] at digit
    have notLine : c ≠ '_' := by rintro rfl; simp [Text.isDigit, Text.digitValue?] at digit
    obtain ⟨d, hc⟩ := Option.isSome_iff_exists.mp digit
    simp only [Text.ofDigits, hc, Option.bind_some] at hv
    simp only [List.length_cons] at some_digit few
    have next := @ih (count + 1) _ (fun e he => hd e (List.mem_cons_of_mem _ he)) hv (by omega)
      (by omega)
    simp [bracedCode?, notBrace, notLine, hc, next]

theorem escape?_control {c : Char} (hc : isControl c = true) (rest : List Char) :
    escape? ('u' :: '\x7b' :: (Nat.toDigits 16 c.toNat ++ '\x7d' :: rest)) =
      some (c, (Nat.toDigits 16 c.toNat).length + 3) := by
  have small : c.toNat < 16 ^ 6 := by
    simp only [isControl, Bool.or_eq_true, Bool.and_eq_true, decide_eq_true_eq] at hc
    omega
  have few := (Nat.length_toDigits_le_iff (b := 16) (by decide) (by decide)).mpr small
  have read : bracedCode? 0 0 _ = _ := bracedCode?_digits rest
    (fun d hd => Text.isDigit_of_mem_toDigits (by decide) (by decide) hd)
    (Text.ofDigits_toDigits (by decide) (by decide) c.toNat)
    (by have := Nat.length_toDigits_pos (b := 16) (n := c.toNat); omega) (by omega)
  simp [escape?, read, scalar?_toNat]

section
variable {α : Type} {named : List Char → Option (α × Nat)} {plain : Char → α}

theorem decodeWith_skip (skipped rest : List Char) :
    decodeWith named plain skipped.length (skipped ++ rest) = decodeWith named plain 0 rest := by
  induction skipped with
  | nil => rfl
  | cons c skipped ih => simpa [decodeWith] using ih

theorem decodeWith_named (name : List Char) {a : α} (rest : List Char)
    (h : named (name ++ rest) = some (a, name.length)) :
    decodeWith named plain 0 ('\\' :: (name ++ rest)) =
      (a :: ·) <$> decodeWith named plain 0 rest := by
  simp [decodeWith, h, decodeWith_skip]

theorem decodeWith_plain {c : Char} (rest : List Char) (hb : c ≠ '\\') (hr : c ≠ '\r') :
    decodeWith named plain 0 (c :: rest) = (plain c :: ·) <$> decodeWith named plain 0 rest := by
  simp [decodeWith, hb, hr]

/-- Every character is read back from its escape, by any decoder that knows the names of characters. -/
theorem decodeWith_escape (known : ∀ {s c used}, escape? s = some (c, used) → named s = some (plain c, used))
    (c : Char) (rest : List Char) :
    decodeWith named plain 0 (escape c ++ rest) = (plain c :: ·) <$> decodeWith named plain 0 rest := by
  unfold escape
  split
  all_goals try exact decodeWith_named [_] rest (known rfl)
  rename_i notBackslash _ _ notReturn _ _
  split
  · rename_i control
    have read := known (escape?_control control rest)
    exact decodeWith_named ('u' :: '\x7b' :: (Nat.toDigits 16 c.toNat ++ ['\x7d'])) rest
      (by simpa using read)
  · exact decodeWith_plain rest (fun h => notBackslash h) (fun h => notReturn h)

end

/-- The inside of a quoted text stands for that text. -/
theorem unescape?_escapeAll (s : List Char) : unescape? (escapeAll s) = some (String.ofList s) := by
  have decoded : decodeWith escape? id 0 (escapeAll s) = some s := by
    induction s with
    | nil => rfl
    | cons c s ih =>
      have first : decodeWith escape? id 0 (escape c ++ escapeAll s) =
          (c :: ·) <$> decodeWith escape? id 0 (escapeAll s) :=
        decodeWith_escape (fun known => known) c (escapeAll s)
      rw [ih] at first
      exact first
  simp [unescape?, decoded]

theorem PatternElem.escape?_of_escape? {s : List Char} {c : Char} {used : Nat}
    (h : Cedar.escape? s = some (c, used)) : PatternElem.escape? s = some (ofChar c, used) := by
  unfold PatternElem.escape?
  split
  · simp [Cedar.escape?] at h
  · simp [h]

/-- A wildcard is a bare star, and a star is an escaped one. -/
theorem decodeWith_escaped (e : PatternElem) (rest : List Char) :
    decodeWith PatternElem.escape? PatternElem.ofChar 0 (e.escaped ++ rest) =
      (e :: ·) <$> decodeWith PatternElem.escape? PatternElem.ofChar 0 rest := by
  unfold PatternElem.escaped
  split
  · exact decodeWith_plain rest (by decide) (by decide)
  · exact decodeWith_named ['*'] rest rfl
  · rename_i c notStar
    have plain : PatternElem.ofChar c = .char c := if_neg fun h => notStar h
    rw [decodeWith_escape PatternElem.escape?_of_escape?, plain]

/-- The inside of a quoted pattern stands for its wildcards and characters. -/
theorem unescapePattern?_escaped (elems : List PatternElem) :
    unescapePattern? (elems.flatMap PatternElem.escaped) = some elems := by
  unfold unescapePattern?
  induction elems with
  | nil => rfl
  | cons e elems ih => simp [decodeWith_escaped, ih]

/-! ## What may stand between quotes -/

/-- The end of a string is looked for behind `s` as if `s` were not there. -/
def Quotable (s : List Char) : Prop :=
  ∀ rest, stringInside? false (s ++ rest) =
    (stringInside? false rest).map fun (inside, after) => (s ++ inside, after)

namespace Quotable

theorem nil : Quotable [] := fun rest => by simp

theorem append {s t : List Char} (hs : Quotable s) (ht : Quotable t) : Quotable (s ++ t) := by
  intro rest
  rw [List.append_assoc, hs, ht, Option.map_map]
  simp [Function.comp_def]

theorem char {c : Char} (hq : c ≠ '"') (hb : c ≠ '\\') : Quotable [c] := by
  intro rest
  simp [stringInside?, hq, hb]

theorem escaped {c : Char} (hn : c ≠ '\n') : Quotable ['\\', c] := by
  intro rest
  simp [stringInside?, hn, Function.comp_def]

theorem flatMap {β : Type} {f : β → List Char} (hf : ∀ b, Quotable (f b)) (bs : List β) :
    Quotable (bs.flatMap f) := by
  induction bs with
  | nil => exact nil
  | cons b bs ih => exact (hf b).append ih

theorem digits {radix : Nat} (n : Nat) (h : 1 < radix) (hr : radix ≤ 16) :
    Quotable (Nat.toDigits radix n) := by
  have digit : ∀ c ∈ Nat.toDigits radix n, Text.isDigit radix c = true :=
    fun c hc => Text.isDigit_of_mem_toDigits h hr hc
  generalize Nat.toDigits radix n = ds at digit
  induction ds with
  | nil => exact nil
  | cons c ds ih =>
    have first := digit c List.mem_cons_self
    refine append (s := [c]) (char ?_ ?_) (ih fun d hd => digit d (List.mem_cons_of_mem _ hd))
    · rintro rfl; simp [Text.isDigit, Text.digitValue?] at first
    · rintro rfl; simp [Text.isDigit, Text.digitValue?] at first

theorem escape (c : Char) : Quotable (escape c) := by
  unfold Cedar.escape
  split
  all_goals try exact escaped (by decide)
  rename_i notBackslash notQuote _ _ _ _
  split
  · have start : Quotable ['\\', 'u', '\x7b'] :=
      append (s := ['\\', 'u']) (escaped (by decide)) (char (by decide) (by decide))
    exact (start.append (digits _ (by decide) (by decide))).append (char (by decide) (by decide))
  · exact char (fun h => notQuote h) (fun h => notBackslash h)

theorem escapedElem (e : PatternElem) : Quotable e.escaped := by
  unfold PatternElem.escaped
  split
  · exact char (by decide) (by decide)
  · exact escaped (by decide)
  · exact escape _

theorem inside {s : List Char} (hs : Quotable s) (rest : List Char) :
    stringInside? false (s ++ '"' :: rest) = some (s, rest) := by
  simp [hs ('"' :: rest), stringInside?]

end Quotable

end ClusterPolicy.Cedar
