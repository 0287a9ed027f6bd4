import ClusterPolicy.Json.Reader
import ClusterPolicy.Json.Text
import ClusterPolicy.Proofs.Cedar.Quoted
import Mathlib.Data.List.Basic

namespace ClusterPolicy.Json

namespace Reader

/-! ## Strings -/

theorem stringChars_skip (skipped rest : List Char) :
    stringChars skipped.length (skipped ++ rest) = stringChars 0 rest := by
  induction skipped with
  | nil => rfl
  | cons c skipped ih => simpa [stringChars] using ih

theorem stringChars_named (name : List Char) {rest : List Char} {c : Char}
    (h : escape? (name ++ rest) = some (c, name.length)) :
    stringChars 0 ('\\' :: (name ++ rest)) =
      (stringChars 0 rest).map fun read => (c :: read.1, read.2) := by
  rw [stringChars, if_neg (by decide), if_pos rfl, h]
  simp only [Option.bind_eq_bind, Option.bind_some, stringChars_skip]
  cases stringChars 0 rest <;> rfl

/-- The four digits that a control character is written with. -/
def codeDigits (n : Nat) : List Char :=
  List.replicate (4 - (Nat.toDigits 16 n).length) '0' ++ Nat.toDigits 16 n

theorem unit?_codeDigits {n : Nat} (control : n < 32) (rest : List Char) :
    (codeDigits n).length = 4 ∧ unit? (codeDigits n ++ rest) = some n := by
  have each : ∀ n < 32, (codeDigits n).length = 4 ∧ Text.natural? 16 (codeDigits n) = some n := by
    decide
  obtain ⟨four, value⟩ := each n control
  generalize codeDigits n = digits at four value ⊢
  match digits, four with
  | [a, b, c, d], _ => exact ⟨rfl, value⟩

/-- Every character is read back from what is written of it. -/
theorem stringChars_escape (c : Char) (rest : List Char) :
    stringChars 0 ((escape c).toList ++ rest) =
      (stringChars 0 rest).map fun read => (c :: read.1, read.2) := by
  unfold escape
  split
  all_goals try exact stringChars_named [_] rfl
  rename_i notQuote notBackslash _ _ _ _ _
  dsimp only
  split
  · rename_i control
    have small : c.toNat < 32 := UInt32.lt_iff_toNat_lt.mp control
    obtain ⟨four, value⟩ := unit?_codeDigits small rest
    have read : escape? (('u' :: codeDigits c.toNat) ++ rest) =
        some (c, ('u' :: codeDigits c.toNat).length) := by
      simp [escape?, value, Cedar.scalar?_toNat, four]
    have written : ("\\u" ++ String.ofList (List.replicate (4 - (Nat.toDigits 16 c.toNat).length) '0' ++
        Nat.toDigits 16 c.toNat)).toList = '\\' :: 'u' :: codeDigits c.toNat := by
      simp [codeDigits]
    rw [written]
    exact stringChars_named ('u' :: codeDigits c.toNat) read
  · rename_i plain
    have quote : c ≠ '"' := fun h => notQuote h
    have backslash : c ≠ '\\' := fun h => notBackslash h
    rw [String.toList_singleton]
    simp only [List.singleton_append, stringChars, quote, backslash, plain]
    cases stringChars 0 rest <;> rfl

theorem toList_quoted (s : String) :
    (quoted s).toList = '"' :: (s.toList.flatMap fun c => (escape c).toList) ++ ['"'] := by
  have written : ∀ (chars : List Char) (text : String),
      (chars.foldl (fun text c => text ++ escape c) text).toList =
        text.toList ++ chars.flatMap fun c => (escape c).toList := by
    intro chars
    induction chars with
    | nil => simp
    | cons c chars ih =>
      intro text
      rw [List.foldl_cons, ih, String.toList_append, List.flatMap_cons, List.append_assoc]
  rw [quoted, String.toList_append, written]
  rfl

/-- Every character of a text is read back from its escape. -/
theorem string_quoted (s : String) (rest : List Char) :
    string ((quoted s).toList ++ rest) = some (s, rest) := by
  have chars : ∀ cs : List Char,
      stringChars 0 ((cs.flatMap fun c => (escape c).toList) ++ '"' :: rest) = some (cs, rest) := by
    intro cs
    induction cs with
    | nil => simp [stringChars]
    | cons c cs ih =>
      rw [List.flatMap_cons, List.append_assoc, stringChars_escape, ih]
      rfl
  rw [toList_quoted, List.append_assoc]
  simp [string, chars]

/-! ## Integers -/

/-- Nothing that would continue a number follows. -/
def Stops (rest : List Char) : Prop :=
  ∀ c ∈ rest.head?, Text.isDigit 10 c = false ∧ c ≠ '.' ∧ c ≠ 'e' ∧ c ≠ 'E'

theorem digits_append {ds rest : List Char} (hd : ∀ c ∈ ds, Text.isDigit 10 c = true)
    (stops : Stops rest) : digits (ds ++ rest) = (ds, rest) := by
  have bare : digits rest = ([], rest) := by
    cases rest with
    | nil => rfl
    | cons c rest => simp [digits, (stops c rfl).1]
  rw [digits, Prod.mk.injEq] at bare
  rw [digits, List.takeWhile_append_of_pos hd, List.dropWhile_append_of_pos hd, bare.1, bare.2,
    List.append_nil]

theorem numberPart_of_stops {marks rest : List Char} (other : ∀ c ∈ rest.head?, c ∉ marks)
    (sign : List Char → List Char × List Char) : numberPart marks sign rest = some ([], rest) := by
  cases rest with
  | nil => rfl
  | cons c rest =>
    have absent : c ∉ marks := other c rfl
    simp [numberPart, absent]

theorem toDigits_head {n : Nat} (positive : 0 < n) : (Nat.toDigits 10 n).head? ≠ some '0' := by
  induction n using Nat.strongRecOn with
  | ind n ih =>
    rw [Nat.toDigits_eq_if (by decide)]
    split
    · rename_i small
      have each : ∀ d < 10, 0 < d → Nat.digitChar d ≠ '0' := by decide
      simpa using each n small positive
    · rename_i large
      have high := ih (n / 10) (by omega) (by omega)
      rwa [List.head?_append_of_ne_nil _ (List.ne_nil_of_length_pos Nat.length_toDigits_pos)]

theorem minus_of_isDigit {s : List Char} (h : ∀ c ∈ s.head?, Text.isDigit 10 c = true) :
    minus s = (false, s) := by
  unfold minus
  split
  · exact absurd (h '-' rfl) (by decide)
  · rfl

/-- A number is read up to where its digits end. -/
theorem number_digits (negative : Bool) {n : Nat} {rest : List Char}
    (signed : negative = true → 0 < n) (stops : Stops rest) :
    number ((if negative then ['-'] else []) ++ (Nat.toDigits 10 n ++ rest)) =
      some (.int (if negative then -n else n), rest) := by
  have isDigit : ∀ c ∈ Nat.toDigits 10 n, Text.isDigit 10 c = true :=
    fun c hc => Text.isDigit_of_mem_toDigits (by decide) (by decide) hc
  have nonempty : Nat.toDigits 10 n ≠ [] := List.ne_nil_of_length_pos Nat.length_toDigits_pos
  have value : Text.natural? 10 (Nat.toDigits 10 n) = some n :=
    Text.natural?_toDigits (by decide) (by decide) n
  have sign : minus ((if negative then ['-'] else []) ++ (Nat.toDigits 10 n ++ rest)) =
      (negative, Nat.toDigits 10 n ++ rest) := by
    cases negative with
    | true => rfl
    | false =>
      refine minus_of_isDigit fun c hc => isDigit c (List.mem_of_mem_head? ?_)
      rwa [if_neg nofun, List.nil_append, List.head?_append_of_ne_nil _ nonempty] at hc
  have fraction : numberPart ['.'] (fun s => ([], s)) rest = some ([], rest) :=
    numberPart_of_stops (fun c hc => by simp [(stops c hc).2.1]) _
  have scale : numberPart ['e', 'E'] exponentSign rest = some ([], rest) :=
    numberPart_of_stops (fun c hc => by simp [(stops c hc).2.2]) _
  have leading : (Nat.toDigits 10 n).head? = some '0' → (Nat.toDigits 10 n).length = 1 := by
    intro h
    rw [Nat.eq_zero_of_not_pos fun positive => toDigits_head positive h]
    rfl
  have signedZero : (negative && decide (Nat.toDigits 10 n = ['0'])) = false := by
    rw [Bool.and_eq_false_imp]
    exact fun h => decide_eq_false fun digits => toDigits_head (signed h) (by rw [digits]; rfl)
  unfold number
  simp only [sign, digits_append isDigit stops]
  rw [if_neg (by simp [nonempty]; exact leading), fraction]
  simp only [Option.bind_eq_bind, Option.bind_some, scale]
  rw [if_pos (by rw [signedZero]; rfl), value]
  rfl

theorem toList_negSucc (n : Nat) :
    (toString (Int.negSucc n)).toList = '-' :: Nat.toDigits 10 (n + 1) := by
  change ("-" ++ (n + 1).repr).toList = _
  rw [String.toList_append, Nat.toList_repr]
  rfl

/-- An integer is read back up to where its digits end. -/
theorem number_toString (n : Int) {rest : List Char} (stops : Stops rest) :
    number ((toString n).toList ++ rest) = some (.int n, rest) := by
  cases n with
  | ofNat n =>
    have written : (toString (Int.ofNat n)).toList = Nat.toDigits 10 n := Nat.toList_repr
    rw [written]
    exact number_digits false nofun stops
  | negSucc n =>
    rw [toList_negSucc]
    exact number_digits true (fun _ => Nat.succ_pos n) stops

end Reader

end ClusterPolicy.Json
