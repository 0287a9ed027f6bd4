import ClusterPolicy.Text.Utf8
import Mathlib.Tactic.SplitIfs

/-! How many bytes a text takes, and how the bytes of texts compare. -/

namespace ClusterPolicy.Text

theorem utf8Length_eq (s : List Char) : utf8Length s = (String.ofList s).utf8ByteSize := by
  induction s with
  | nil => rfl
  | cons c s ih =>
    rw [utf8Length, ih, String.ofList_cons, String.utf8ByteSize_append, String.utf8ByteSize_singleton]

theorem utf8Length_append (s t : List Char) :
    utf8Length (s ++ t) = utf8Length s + utf8Length t := by
  induction s with
  | nil => exact (Nat.zero_add _).symm
  | cons c s ih => rw [List.cons_append, utf8Length, ih, utf8Length, Nat.add_assoc]

theorem length_le_utf8Length (s : List Char) : s.length ≤ utf8Length s := by
  induction s with
  | nil => exact Nat.le_refl 0
  | cons c s ih =>
    have one := c.utf8Size_pos
    rw [List.length_cons, utf8Length]
    omega

/-! ## Order -/

/-- Of two numbers the front digits decide, and the last ones if these are the same. -/
theorem div_lt_or_mod_lt {m n : Nat} (less : m < n) (base : Nat) :
    m / base < n / base ∨ m / base = n / base ∧ m % base < n % base := by
  rcases Nat.lt_or_eq_of_le (Nat.div_le_div_right (c := base) (Nat.le_of_lt less)) with front | front
  · exact .inl front
  · have hm := Nat.div_add_mod m base
    have hn := Nat.div_add_mod n base
    rw [front] at hm
    exact .inr ⟨front, by omega⟩

/-- The bytes of two characters decide before either of them ends. -/
theorem utf8_append_lt {c d : Char} (less : c < d) (s t : List UInt8) : utf8 c ++ s < utf8 d ++ t := by
  have codes : c.val.toNat < d.val.toNat := less
  have bound : d.val.toNat < 0x110000 := by
    have valid := d.valid
    unfold UInt32.isValidChar Nat.isValidChar at valid
    omega
  unfold utf8 String.utf8EncodeChar
  generalize c.val.toNat = m at codes
  generalize d.val.toNat = n at codes bound
  have ofTwo := div_lt_or_mod_lt codes 64
  have ofThree := div_lt_or_mod_lt codes 4096
  have ofFour := div_lt_or_mod_lt codes 262144
  dsimp only
  split_ifs
  all_goals
    simp (disch := omega) only [List.cons_append, List.nil_append, List.cons_lt_cons_iff,
      UInt8.lt_iff_toNat_lt, ← UInt8.toNat_inj, UInt8.toNat_ofNat', Nat.mod_eq_of_lt]
    omega

theorem flatMap_utf8_lt {s t : List Char} (less : s < t) : s.flatMap utf8 < t.flatMap utf8 := by
  induction s generalizing t with
  | nil =>
    cases t with
    | nil => exact absurd less (List.lt_irrefl [])
    | cons d t =>
      obtain ⟨b, more, bytes⟩ := List.exists_cons_of_ne_nil (String.utf8EncodeChar_ne_nil (c := d))
      simp [utf8, bytes]
  | cons c s ih =>
    cases t with
    | nil => cases less
    | cons d t =>
      rcases List.cons_lt_cons_iff.mp less with first | ⟨rfl, rest⟩
      · exact utf8_append_lt first _ _
      · exact List.append_left_lt (ih rest)

/-- The order of texts is the order of their bytes. -/
theorem toUTF8_lt {s t : String} (less : s < t) : s.toUTF8.data.toList < t.toUTF8.data.toList := by
  have bytes : ∀ r : String, r.toUTF8.data.toList = r.toList.flatMap utf8 := by
    intro r
    conv => lhs; rw [← String.ofList_toList (s := r)]
    rw [String.toUTF8_eq_toByteArray, String.toByteArray_ofList, List.utf8Encode,
      List.data_toByteArray, List.toList_toArray]
    rfl
  rw [bytes, bytes]
  exact flatMap_utf8_lt (String.lt_iff.mp less)

end ClusterPolicy.Text
