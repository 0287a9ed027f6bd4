import ClusterPolicy.Proofs.Json.Scalar
import Mathlib.Data.List.Forall2

namespace ClusterPolicy.Json

/-! ## Nesting -/

mutual

/-- How deep arrays and objects nest. -/
def depth : Json → Nat
  | array items => depthOfItems items + 1
  | object members => depthOfMembers members + 1
  | _ => 0

def depthOfItems : List Json → Nat
  | [] => 0
  | v :: rest => max v.depth (depthOfItems rest)

def depthOfMembers : List (String × Json) → Nat
  | [] => 0
  | (_, v) :: rest => max v.depth (depthOfMembers rest)

end

theorem depthOfItems_le {items : List Json} {d : Nat} :
    depthOfItems items ≤ d ↔ ∀ v ∈ items, v.depth ≤ d := by
  induction items with
  | nil => simp [depthOfItems]
  | cons v items ih => rw [depthOfItems, Nat.max_le, ih, List.forall_mem_cons]

theorem depthOfMembers_le {members : List (String × Json)} {d : Nat} :
    depthOfMembers members ≤ d ↔ ∀ m ∈ members, m.2.depth ≤ d := by
  induction members with
  | nil => simp [depthOfMembers]
  | cons m members ih => rw [depthOfMembers, Nat.max_le, ih, List.forall_mem_cons]

/-- No number in the value is kept as text. -/
inductive IsExact : Json → Prop
  | null : IsExact null
  | bool (b : Bool) : IsExact (bool b)
  | int (n : Int) : IsExact (int n)
  | string (s : String) : IsExact (string s)
  | array {items : List Json} (each : ∀ v ∈ items, IsExact v) : IsExact (array items)
  | object {members : List (String × Json)} (each : ∀ m ∈ members, IsExact m.2) :
      IsExact (object members)

theorem prettyItems_eq (indent : String) (items : List Json) :
    prettyItems indent items = items.map (pretty indent) := by
  induction items with
  | nil => rfl
  | cons v items ih => rw [prettyItems, ih, List.map_cons]

theorem prettyMembers_eq (indent : String) (members : List (String × Json)) :
    prettyMembers indent members =
      members.map fun m => quoted m.1 ++ ": " ++ pretty indent m.2 := by
  induction members with
  | nil => rfl
  | cons m members ih => rw [prettyMembers, ih, List.map_cons]

namespace Reader

/-! ## Lines -/

/-- A reader gives `result` of a text that stands before anything that ends it. -/
structure Reads {α : Type} (reader : Reader α) (text : List Char) (result : Option α) : Prop where
  starts : ∃ c more, text = c :: more ∧ isBlank c = false ∧ c ≠ ']' ∧ c ≠ '\x7d'
  read : ∀ rest, Stops rest → reader (text ++ rest) = result.map (·, rest)

theorem skipBlanks_append {blanks rest : List Char} (h : ∀ c ∈ blanks, isBlank c = true) :
    skipBlanks (blanks ++ rest) = skipBlanks rest :=
  List.dropWhile_append_of_pos h

theorem Reads.skipBlanks {α : Type} {reader : Reader α} {text : List Char} {result : Option α}
    (h : Reads reader text result) (rest : List Char) :
    Reader.skipBlanks (text ++ rest) = text ++ rest := by
  obtain ⟨c, more, rfl, visible, -⟩ := h.starts
  simp [Reader.skipBlanks, visible]

section
variable {α : Type} {reader : Reader α} {close : Char} {pad indent : List Char}

/-- What follows an item on a line of its own. -/
def furtherLines (pad indent : List Char) (close : Char) (texts : List (List Char))
    (rest : List Char) : List Char :=
  (texts.flatMap fun text => ',' :: '\n' :: (pad ++ text)) ++ '\n' :: (indent ++ close :: rest)

theorem stops_furtherLines (texts : List (List Char)) (rest : List Char) :
    Stops (furtherLines pad indent close texts rest) := by
  have line : Stops ('\n' :: (indent ++ close :: rest)) := by
    rintro c ⟨⟩
    decide
  cases texts with
  | nil => exact line
  | cons text texts =>
    rintro c ⟨⟩
    decide

theorem furtherLines_cons (text : List Char) (texts : List (List Char)) (rest : List Char) :
    furtherLines pad indent close (text :: texts) rest =
      ',' :: '\n' :: (pad ++ (text ++ furtherLines pad indent close texts rest)) := by
  simp [furtherLines]

/-- The bracket is found on its own line. -/
theorem skipBlanks_close (closes : close = ']' ∨ close = '\x7d')
    (indentation : ∀ c ∈ indent, isBlank c = true) (rest : List Char) :
    skipBlanks ('\n' :: (indent ++ close :: rest)) = close :: rest := by
  have visible : isBlank close = false := by rcases closes with rfl | rfl <;> decide
  have blanks : ∀ c ∈ '\n' :: indent, isBlank c = true :=
    List.forall_mem_cons.mpr ⟨by decide, indentation⟩
  rw [← List.cons_append, skipBlanks_append blanks]
  simp [skipBlanks, visible]

theorem Reads.skipLine {text : List Char} {result : Option α} (h : Reads reader text result)
    (padding : ∀ c ∈ pad, isBlank c = true) (rest : List Char) :
    Reader.skipBlanks ('\n' :: (pad ++ (text ++ rest))) = text ++ rest := by
  have blanks : ∀ c ∈ '\n' :: pad, isBlank c = true :=
    List.forall_mem_cons.mpr ⟨by decide, padding⟩
  rw [← List.cons_append, skipBlanks_append blanks, h.skipBlanks]

/-- Items on lines of their own are read one by one, up to the first that cannot be. -/
theorem moreItems_lines (closes : close = ']' ∨ close = '\x7d')
    (padding : ∀ c ∈ pad, isBlank c = true) (indentation : ∀ c ∈ indent, isBlank c = true)
    {texts : List (List Char)} {results : List (Option α)}
    (each : List.Forall₂ (Reads reader) texts results) {n : Nat} (enough : texts.length < n)
    (rest : List Char) : moreItems reader close n (furtherLines pad indent close texts rest) =
      (results.mapM id).map (·, rest) := by
  induction each generalizing n with
  | nil =>
    obtain ⟨n, rfl⟩ := Nat.exists_eq_succ_of_ne_zero (Nat.ne_zero_of_lt enough)
    have line : furtherLines pad indent close [] rest = '\n' :: (indent ++ close :: rest) := rfl
    rw [line, moreItems, skipBlanks_close closes indentation]
    simp
  | @cons text result texts results first each ih =>
    obtain ⟨n, rfl⟩ := Nat.exists_eq_succ_of_ne_zero (Nat.ne_zero_of_lt enough)
    have comma : ',' ≠ close := by rcases closes with rfl | rfl <;> decide
    have bare : ∀ s, skipBlanks (',' :: s) = ',' :: s := fun s => rfl
    have others := ih (Nat.lt_of_succ_lt_succ enough)
    rw [furtherLines_cons, moreItems, bare]
    simp only [comma, ↓reduceIte, first.skipLine padding, first.read _ (stops_furtherLines _ _)]
    cases result with
    | none => rfl
    | some v =>
      simp only [Option.map_some, Option.bind_eq_bind, Option.bind_some, others, List.mapM_cons, id]
      cases results.mapM id <;> rfl

theorem length_le_furtherLines (texts : List (List Char)) (rest : List Char) :
    texts.length ≤ (furtherLines pad indent close texts rest).length := by
  induction texts with
  | nil => exact Nat.zero_le _
  | cons text texts ih =>
    rw [furtherLines_cons]
    simp only [List.length_cons, List.length_append]
    omega

/-- All items of a block, behind its opening bracket. -/
theorem items_lines (closes : close = ']' ∨ close = '\x7d')
    (padding : ∀ c ∈ pad, isBlank c = true) (indentation : ∀ c ∈ indent, isBlank c = true)
    {text : List Char} {result : Option α} (first : Reads reader text result)
    {texts : List (List Char)} {results : List (Option α)}
    (each : List.Forall₂ (Reads reader) texts results) (rest : List Char) :
    items reader close ('\n' :: (pad ++ (text ++ furtherLines pad indent close texts rest))) =
      ((result :: results).mapM id).map (·, rest) := by
  have enough : texts.length ≤ (furtherLines pad indent close texts rest).length :=
    length_le_furtherLines texts rest
  have stops : Stops (furtherLines pad indent close texts rest) := stops_furtherLines texts rest
  have others (n : Nat) (more : texts.length < n) :=
    moreItems_lines closes padding indentation each more rest
  generalize furtherLines pad indent close texts rest = further at enough stops others ⊢
  have read := first.read further stops
  unfold items
  rw [first.skipLine padding]
  obtain ⟨c, more, rfl, -, notBracket, notBrace⟩ := first.starts
  have other : c ≠ close := by
    rcases closes with rfl | rfl
    · exact notBracket
    · exact notBrace
  simp only [List.cons_append, other, ↓reduceIte] at read ⊢
  rw [read]
  cases result with
  | none => rfl
  | some v =>
    simp only [Option.map_some, Option.bind_eq_bind, Option.bind_some, List.mapM_cons, id]
    rw [others _ (by simp only [List.length_cons, List.length_append]; omega)]
    cases results.mapM id <;> rfl

end

/-! ## Values -/

theorem intercalate_cons {α : Type} (sep first : List α) (others : List (List α)) :
    sep.intercalate (first :: others) = first ++ others.flatMap (sep ++ ·) := by
  induction others generalizing first with
  | nil => simp
  | cons next others ih => simp [List.intercalate_cons_cons, ih]

theorem isBlank_deeper {indent : String} (indentation : ∀ c ∈ indent.toList, isBlank c = true) :
    ∀ c ∈ (indent ++ "  ").toList, isBlank c = true := by
  have step : "  ".toList = List.replicate 2 ' ' := rfl
  rw [String.toList_append, step]
  exact List.forall_mem_append.mpr ⟨indentation, fun c mem => List.eq_of_mem_replicate mem ▸ rfl⟩

theorem toList_block {opening closing : String} {opens close : Char} (ho : opening.toList = [opens])
    (hc : closing.toList = [close]) (indent first : String) (others : List String) (rest : List Char) :
    (block opening closing indent (first :: others)).toList ++ rest =
      opens :: '\n' :: ((indent ++ "  ").toList ++ (first.toList ++
        furtherLines (indent ++ "  ").toList indent.toList close (others.map String.toList) rest)) := by
  simp only [block, List.isEmpty_cons, Bool.false_eq_true, ↓reduceIte, String.toList_append,
    String.toList_intercalate, List.map_cons, intercalate_cons, furtherLines, List.map_map,
    List.flatMap_map, ho, hc]
  simp

theorem mapM_ite {α : Type} (p : α → Prop) [DecidablePred p] (items : List α) :
    (items.map fun a => if p a then some a else none).mapM id =
      if ∀ a ∈ items, p a then some items else none := by
  induction items with
  | nil => rfl
  | cons a items ih =>
    rw [List.map_cons, List.mapM_cons, ih]
    by_cases first : p a
    · rw [if_pos first]
      by_cases others : ∀ b ∈ items, p b
      · rw [if_pos others, if_pos (List.forall_mem_cons.mpr ⟨first, others⟩)]
        rfl
      · rw [if_neg others, if_neg fun all => others (List.forall_mem_cons.mp all).2]
        rfl
    · rw [if_neg first, if_neg fun all => first (List.forall_mem_cons.mp all).1]
      rfl

theorem scalar_of_isDigit {c : Char} (h : Text.isDigit 10 c = true) (rest : List Char) :
    scalar (c :: rest) = number (c :: rest) := by
  unfold scalar
  split
  case h_5 => rfl
  all_goals
    rename_i isFirst
    cases isFirst
    exact absurd h (by decide)

theorem value_blank (d : Nat) (s : List Char) : value d (' ' :: s) = value d s := by
  match d with
  | 0 | 1 | d + 2 => rfl

/-- At any depth a text that is not in brackets is read as a scalar. -/
theorem reads_scalar {c : Char} {more : List Char} {v : Json} (visible : isBlank c = false)
    (bare : c ≠ '[' ∧ c ≠ ']' ∧ c ≠ '\x7b' ∧ c ≠ '\x7d')
    (read : ∀ rest, Stops rest → scalar (c :: more ++ rest) = some (v, rest)) (d : Nat) :
    Reads (value (d + 1)) (c :: more) (some v) := by
  refine ⟨⟨c, more, rfl, visible, bare.2.1, bare.2.2.2⟩, fun rest stops => ?_⟩
  have here : skipBlanks (c :: more ++ rest) = c :: more ++ rest := by simp [skipBlanks, visible]
  rw [Option.map_some, ← read rest stops]
  cases d with
  | zero => exact congrArg scalar here
  | succ d =>
    rw [value, valueWith, here]
    split
    · rename_i isFirst
      cases isFirst
      exact absurd rfl bare.2.2.1
    · rename_i isFirst
      cases isFirst
      exact absurd rfl bare.1
    · rfl

theorem reads_int (n : Int) (d : Nat) : Reads (value (d + 1)) (toString n).toList (some (.int n)) := by
  obtain ⟨c, more, text, first⟩ : ∃ c more, (toString n).toList = c :: more ∧
      (c = '-' ∨ Text.isDigit 10 c = true) := by
    cases n with
    | ofNat n =>
      have written : (toString (Int.ofNat n)).toList = Nat.toDigits 10 n := Nat.toList_repr
      obtain ⟨c, more, digits⟩ :=
        List.exists_cons_of_length_pos (Nat.length_toDigits_pos (b := 10) (n := n))
      refine ⟨c, more, written.trans digits, .inr ?_⟩
      exact Text.isDigit_of_mem_toDigits (by decide) (by decide) (digits ▸ List.mem_cons_self)
    | negSucc n => exact ⟨'-', _, toList_negSucc n, .inl rfl⟩
  have visible : isBlank c = false := by
    simp only [isBlank, Bool.or_eq_false_iff, decide_eq_false_iff_not]
    refine ⟨⟨⟨?_, ?_⟩, ?_⟩, ?_⟩ <;> rintro rfl <;> exact absurd first (by decide)
  have bare : c ≠ '[' ∧ c ≠ ']' ∧ c ≠ '\x7b' ∧ c ≠ '\x7d' := by
    refine ⟨?_, ?_, ?_, ?_⟩ <;> rintro rfl <;> exact absurd first (by decide)
  rw [text]
  refine reads_scalar visible bare (fun rest stops => ?_) d
  have read := number_toString n stops
  rw [text] at read
  rcases first with rfl | digit
  · exact read
  · rw [List.cons_append, scalar_of_isDigit digit]
    exact read

theorem reads_quoted (text : String) (d : Nat) :
    Reads (value (d + 1)) (quoted text).toList (some (.string text)) := by
  have read := string_quoted text
  obtain ⟨more, isQuoted⟩ : ∃ more, (quoted text).toList = '"' :: more := ⟨_, toList_quoted text⟩
  rw [isQuoted] at read ⊢
  refine reads_scalar (by decide) (by decide) (fun rest _ => ?_) d
  have chars := read rest
  rw [List.cons_append] at chars ⊢
  rw [scalar, chars]
  rfl

theorem reads_member {d : Nat} (key : String) {text : List Char} {v : Option Json}
    (h : Reads (value d) text v) :
    Reads (member (value d)) ((quoted key).toList ++ (':' :: ' ' :: text)) (v.map (key, ·)) := by
  refine ⟨⟨'"', _, congrArg (· ++ _) (toList_quoted key), by decide⟩, fun rest stops => ?_⟩
  rw [List.append_assoc, member, string_quoted]
  have nested : value d (' ' :: (text ++ rest)) = v.map (·, rest) := by
    rw [value_blank, h.read rest stops]
  have colon : skipBlanks (':' :: ' ' :: (text ++ rest)) = ':' :: ' ' :: (text ++ rest) := rfl
  simp only [Option.bind_eq_bind, Option.bind_some, List.cons_append, colon, nested]
  cases v <;> rfl

section
variable {α β : Type} {reader : Reader α}
  {opening closing indent : String} {opens close : Char}
  (ho : opening.toList = [opens]) (hc : closing.toList = [close])
  (brackets : opens = '[' ∧ close = ']' ∨ opens = '\x7b' ∧ close = '\x7d')
  (indentation : ∀ c ∈ indent.toList, isBlank c = true)
  {text : β → String} {result : β → Option α} {l : List β}
  (each : ∀ b ∈ l, Reads reader (text b).toList (result b))
include ho hc brackets indentation each

/-- A block is its opening bracket and then all of its items. -/
theorem items_block (rest : List Char) :
    ∃ s, (block opening closing indent (l.map text)).toList ++ rest = opens :: s ∧
      items reader close s = ((l.map result).mapM id).map (·, rest) := by
  cases l with
  | nil =>
    have visible : isBlank close = false := by
      rcases brackets with ⟨-, rfl⟩ | ⟨-, rfl⟩ <;> decide
    refine ⟨close :: rest, by simp [block, ho, hc], ?_⟩
    simp [items, skipBlanks, visible]
  | cons first others =>
    obtain ⟨readFirst, readOthers⟩ := List.forall_mem_cons.mp each
    have lines : List.Forall₂ (Reads reader) ((others.map text).map String.toList)
        (others.map result) := by
      rw [List.map_map, List.forall₂_map_left_iff, List.forall₂_map_right_iff]
      exact List.forall₂_same.mpr readOthers
    exact ⟨_, toList_block ho hc indent _ _ rest, items_lines (brackets.imp And.right And.right)
      (isBlank_deeper indentation) indentation readFirst lines rest⟩

theorem starts_block : ∃ c more, (block opening closing indent (l.map text)).toList = c :: more ∧
    isBlank c = false ∧ c ≠ ']' ∧ c ≠ '\x7d' := by
  obtain ⟨s, block, -⟩ := items_block ho hc brackets indentation each []
  rw [List.append_nil] at block
  refine ⟨opens, s, block, ?_⟩
  rcases brackets with ⟨rfl, -⟩ | ⟨rfl, -⟩ <;> decide

/-- A block is read by reading its items, above the limit. -/
theorem reads_block (wrap : List α → Json) (d : Nat)
    (behind : ∀ s, valueWith (value (d + 1)) (opens :: s) =
      (items reader close s).map fun read => (wrap read.1, read.2)) :
    Reads (value (d + 2)) (block opening closing indent (l.map text)).toList
      (((l.map result).mapM id).map wrap) := by
  refine ⟨starts_block ho hc brackets indentation each, fun rest _ => ?_⟩
  obtain ⟨s, block, read⟩ := items_block ho hc brackets indentation each rest
  rw [block, value, behind, read]
  cases (l.map result).mapM id <;> rfl

/-- No brackets stand at the limit. -/
theorem reads_block_limit : Reads (value 1) (block opening closing indent (l.map text)).toList none := by
  refine ⟨starts_block ho hc brackets indentation each, fun rest _ => ?_⟩
  obtain ⟨s, block, -⟩ := items_block ho hc brackets indentation each rest
  rw [block]
  rcases brackets with ⟨rfl, -⟩ | ⟨rfl, -⟩ <;> rfl

end

/-- A value is read back from what is printed of it, if it does not nest too deep. -/
theorem reads_pretty {json : Json} (exact : json.IsExact) {indent : String}
    (indentation : ∀ c ∈ indent.toList, isBlank c = true) (d : Nat) :
    Reads (value (d + 1)) (json.pretty indent).toList (if json.depth ≤ d then some json else none) := by
  induction exact generalizing indent d with
  | null =>
    have text : (null.pretty indent).toList = 'n' :: ['u', 'l', 'l'] := by simp [pretty, compact]
    rw [text]
    exact reads_scalar (by decide) (by decide) (fun _ _ => rfl) d
  | bool b =>
    cases b with
    | false =>
      have text : ((bool false).pretty indent).toList = 'f' :: ['a', 'l', 's', 'e'] := by
        simp [pretty, compact]
      rw [text]
      exact reads_scalar (by decide) (by decide) (fun _ _ => rfl) d
    | true =>
      have text : ((bool true).pretty indent).toList = 't' :: ['r', 'u', 'e'] := by
        simp [pretty, compact]
      rw [text]
      exact reads_scalar (by decide) (by decide) (fun _ _ => rfl) d
  | int n => exact reads_int n d
  | string s => exact reads_quoted s d
  | @array items each ih =>
    have opens : "[".toList = ['['] := rfl
    have closes : "]".toList = [']'] := rfl
    have text : (array items).pretty indent =
        block "[" "]" indent (items.map (pretty (indent ++ "  "))) := by
      rw [pretty, prettyItems_eq]
    have within (d : Nat) : ∀ v ∈ items, Reads (value (d + 1)) (v.pretty (indent ++ "  ")).toList
        (if v.depth ≤ d then some v else none) := fun v mem => ih v mem (isBlank_deeper indentation) d
    rw [text]
    cases d with
    | zero =>
      rw [if_neg (by simp [depth])]
      exact reads_block_limit opens closes (.inl ⟨rfl, rfl⟩) indentation (within 0)
    | succ d =>
      have all := reads_block opens closes (.inl ⟨rfl, rfl⟩) indentation (within d) array d
        (fun s => by rw [Option.map_eq_bind]; rfl)
      have depth : (array items).depth ≤ d + 1 ↔ ∀ v ∈ items, v.depth ≤ d := by
        rw [Json.depth, Nat.add_le_add_iff_right, depthOfItems_le]
      rw [mapM_ite] at all
      simp only [depth]
      rwa [apply_ite (Option.map array)] at all
  | @object members each ih =>
    have opens : "\x7b".toList = ['\x7b'] := rfl
    have closes : "\x7d".toList = ['\x7d'] := rfl
    have text : (object members).pretty indent = block "\x7b" "\x7d" indent
        (members.map fun m => quoted m.1 ++ ": " ++ m.2.pretty (indent ++ "  ")) := by
      rw [pretty, prettyMembers_eq]
    have within (d : Nat) : ∀ m ∈ members, Reads (member (value (d + 1)))
        (quoted m.1 ++ ": " ++ m.2.pretty (indent ++ "  ")).toList
        (if m.2.depth ≤ d then some m else none) := by
      rintro ⟨key, v⟩ mem
      have read := reads_member key (ih _ mem (isBlank_deeper indentation) d)
      rw [apply_ite (Option.map _)] at read
      simpa using read
    rw [text]
    cases d with
    | zero =>
      rw [if_neg (by simp [Json.depth])]
      exact reads_block_limit opens closes (.inr ⟨rfl, rfl⟩) indentation (within 0)
    | succ d =>
      have all := reads_block opens closes (.inr ⟨rfl, rfl⟩) indentation (within d) object d
        (fun s => by rw [Option.map_eq_bind]; rfl)
      have depth : (object members).depth ≤ d + 1 ↔ ∀ m ∈ members, m.2.depth ≤ d := by
        rw [Json.depth, Nat.add_le_add_iff_right, depthOfMembers_le]
      rw [mapM_ite] at all
      simp only [depth]
      rwa [apply_ite (Option.map object)] at all

end Reader

/-- A printed value is read back by any reader whose limit it stays below, and by no other. -/
theorem parse?_pretty {json : Json} (exact : json.IsExact) (limit : Nat) :
    parse? limit (json.pretty "") = if json.depth < limit then some json else none := by
  cases limit with
  | zero => rfl
  | succ d =>
    have blank : ∀ c ∈ "".toList, Reader.isBlank c = true := nofun
    have read := (Reader.reads_pretty exact blank d).read [] nofun
    rw [List.append_nil] at read
    rw [parse?, read]
    simp only [Nat.lt_succ_iff]
    split <;> rfl

end ClusterPolicy.Json
