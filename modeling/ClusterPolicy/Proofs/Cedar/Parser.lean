import ClusterPolicy.Cedar.Grammar
import ClusterPolicy.Proofs.Cedar.Name
import ClusterPolicy.Proofs.Cedar.Quoted
import Mathlib.Data.List.Forall2

namespace ClusterPolicy.Cedar.Parser

section
variable {α β : Type}

@[simp] theorem run_bind (p : Parser α) (f : α → Parser β) (ts : List Token) :
    (p >>= f) ts = (p ts).bind fun r => f r.1 r.2 := rfl

/-- A parser that has read goes on with what it has left. -/
theorem run_next {p : Parser α} {a : α} {ts rest : List Token} (h : p ts = some (a, rest))
    (f : α → Parser β) : (p >>= f) ts = f a rest := by
  simp [h]

/-- What has been read, was read in turn. -/
theorem exists_of_run_bind {p : Parser α} {f : α → Parser β} {ts : List Token} {r : β × List Token}
    (read : (p >>= f) ts = some r) : ∃ a rest, p ts = some (a, rest) ∧ f a rest = some r := by
  obtain ⟨⟨a, rest⟩, first, next⟩ := Option.bind_eq_some_iff.mp read
  exact ⟨a, rest, first, next⟩

@[simp] theorem run_pure (a : α) (ts : List Token) : (pure a : Parser α) ts = some (a, ts) := rfl

@[simp] theorem run_failure (ts : List Token) : (failure : Parser α) ts = none := rfl

@[simp] theorem run_map (f : α → β) (p : Parser α) (ts : List Token) :
    (f <$> p) ts = (p ts).map fun r => (f r.1, r.2) := by
  change (p ts).bind _ = _
  cases p ts <;> rfl

@[simp] theorem run_lift (o : Option α) (ts : List Token) :
    (liftM o : Parser α) ts = o.map fun a => (a, ts) := by
  cases o <;> rfl

@[simp] theorem run_ite (c : Prop) [Decidable c] (p q : Parser α) (ts : List Token) :
    (if c then p else q) ts = if c then p ts else q ts := by
  split <;> rfl

@[simp] theorem run_bounded (p : Nat → Parser α) (ts : List Token) :
    bounded p ts = p ts.length ts := rfl

end

section
variable {t u : Token} {ts rest : List Token}

@[simp] theorem token_cons : token (t :: ts) = some (t, ts) := rfl

@[simp] theorem discard_token : (discard token : Parser Unit) (t :: ts) = some ((), ts) := rfl

@[simp] theorem peek_eq : peek ts = some (ts.head?, ts) := rfl

@[simp] theorem accept_cons : accept t (t :: ts) = some (true, ts) := by
  simp [accept]

theorem accept_other (h : ∀ u ∈ ts.head?, u ≠ t) : accept t ts = some (false, ts) := by
  cases ts with
  | nil => rfl
  | cons u ts => simp [accept, h u rfl]

@[simp] theorem accept_symbol_cons {s : Symbol} (h : u ≠ .symbol s) :
    accept (.symbol s) (u :: ts) = some (false, u :: ts) := accept_other (by simpa using h)

@[simp] theorem word_ne_symbol (w : String) (s : Symbol) : Token.word w ≠ .symbol s := nofun

@[simp] theorem accept_word_cons {v w : String} (h : v ≠ w) :
    accept (.word w) (.word v :: ts) = some (false, .word v :: ts) := by
  apply accept_other
  rintro _ ⟨⟩ same
  exact h (String.toList_inj.mp (Token.ident.inj same))

@[simp] theorem expect_cons : expect t (t :: ts) = some ((), ts) := by
  simp [expect]

@[simp] theorem acceptSymbol_eq (s : Symbol) : acceptSymbol s = accept (.symbol s) := rfl

@[simp] theorem expectSymbol_eq (s : Symbol) : expectSymbol s = expect (.symbol s) := rfl

theorem expectSymbol_cons {s : Symbol} : expectSymbol s (.symbol s :: ts) = some ((), ts) :=
  expect_cons

@[simp] theorem ident_cons (name : List Char) : ident (.ident name :: ts) = some (name, ts) := rfl

@[simp] theorem unescape?_quoted (s : String) : unescape? (escapeAll s.toList) = some s := by
  simp [unescape?_escapeAll]

@[simp] theorem string_quote (s : String) : string (.quote s :: ts) = some (s, ts) := by
  simp [string, Token.quote]

end

/-! ## Names -/

/-- No `::` follows. -/
def NoPath (rest : List Token) : Prop := ∀ t ∈ rest.head?, t ≠ .symbol .path

theorem nameRest_names (more : List (List Char)) {rest : List Token} {n : Nat} (ends : NoPath rest)
    (enough : more.length < n) : nameRest n (Token.behindPath more ++ rest) = some ((more, none), rest) := by
  induction more generalizing n with
  | nil =>
    obtain ⟨n, rfl⟩ := Nat.exists_eq_succ_of_ne_zero (Nat.ne_of_gt enough)
    simp [nameRest, Token.behindPath, accept_other ends]
  | cons s more ih =>
    cases n with
    | zero => simp at enough
    | succ n =>
      have next := ih (n := n) (by simpa using enough)
      simp only [Token.behindPath] at next
      simp [nameRest, Token.behindPath, next]

theorem nameRest_uid (more : List (List Char)) (id : String) (rest : List Token) {n : Nat}
    (enough : more.length < n) :
    nameRest n (Token.behindPath more ++ .symbol .path :: .quote id :: rest) =
      some ((more, some id), rest) := by
  induction more generalizing n with
  | nil =>
    obtain ⟨n, rfl⟩ := Nat.exists_eq_succ_of_ne_zero (Nat.ne_of_gt enough)
    simp [nameRest, Token.behindPath, Token.quote]
  | cons s more ih =>
    cases n with
    | zero => simp at enough
    | succ n =>
      have next := ih (n := n) (by simpa using enough)
      simp only [Token.behindPath] at next
      simp [nameRest, Token.behindPath, next]

theorem length_behindPath (more : List (List Char)) :
    (Token.behindPath more).length = 2 * more.length := by
  simp [Token.behindPath, Nat.mul_comm]

theorem nameOf_segments {name : String} {first : List Char} {more : List (List Char)}
    (h : isName name = true) (hs : segments name.toList = first :: more) (rest : List Token) :
    nameOf (first :: more) rest = some (name, rest) := by
  have valid : (segments name.toList).all isNameSegment = true := h
  simp only [nameOf, ← hs, valid, ↓reduceIte, intercalate_segments, String.ofList_toList, run_pure]

/-- What is read behind the first word of a name. -/
theorem path_name {name : String} {first : List Char} {more : List (List Char)} {rest : List Token}
    (h : isName name = true) (hs : segments name.toList = first :: more) (ends : NoPath rest) :
    path first (Token.behindPath more ++ rest) = some ((name, none), rest) := by
  have read := nameRest_names more (n := (Token.behindPath more ++ rest).length + 1) ends
    (by rw [List.length_append, length_behindPath]; omega)
  simp only [path, run_bind, run_bounded, read, Option.bind_some, nameOf_segments h hs, run_pure]

theorem path_uid {uid : EntityUid} {first : List Char} {more : List (List Char)} {rest : List Token}
    (h : isName uid.type = true) (hs : segments uid.type.toList = first :: more) :
    path first (Token.behindPath more ++ .symbol .path :: .quote uid.id :: rest) =
      some ((uid.type, some uid.id), rest) := by
  have read := nameRest_uid more uid.id rest
    (n := (Token.behindPath more ++ .symbol .path :: .quote uid.id :: rest).length + 1)
    (by rw [List.length_append, length_behindPath]; omega)
  simp only [path, run_bind, run_bounded, read, Option.bind_some, nameOf_segments h hs, run_pure]

/-- A name is read from its tokens, up to what does not go on with `::`. -/
theorem name_ofName {type : String} {rest : List Token} (h : isName type = true)
    (ends : NoPath rest) : name (Token.ofName type ++ rest) = some (type, rest) := by
  obtain ⟨first, more, hs, ht⟩ := Token.ofName_eq type
  simp only [name, ht, List.cons_append, run_bind, ident_cons, Option.bind_some,
    path_name h hs ends, run_pure]

/-- A reference to an entity is read from its tokens. -/
theorem uid_ofUid {u : EntityUid} (h : isName u.type = true) (rest : List Token) :
    uid (Token.ofUid u ++ rest) = some (u, rest) := by
  obtain ⟨first, more, hs, ht⟩ := Token.ofName_eq u.type
  simp only [uid, Token.ofUid, ht, List.cons_append, List.append_assoc, List.nil_append, run_bind,
    ident_cons, Option.bind_some, path_uid h hs, run_pure]

/-! ## Lists -/

section
variable {α : Type} {item : Parser α} {close : Symbol}

/-- Whether an item is read from its tokens, up to the comma or bracket behind it. -/
structure ReadsItem (item : Parser α) (close : Symbol) (ts : List Token) (a : α) : Prop where
  starts : ∃ t more, ts = t :: more ∧ t ≠ .symbol close
  reads : ∀ t rest, t = .symbol .comma ∨ t = .symbol close →
    item (ts ++ t :: rest) = some (a, t :: rest)

/-- The tokens behind the first item of a list, up to the closing symbol. -/
def itemsEnd (close : Symbol) (tss : List (List Token)) (rest : List Token) : List Token :=
  tss.flatMap (fun ts => .symbol .comma :: ts) ++ .symbol close :: rest

theorem itemsEnd_cons (ts : List Token) (tss : List (List Token)) (rest : List Token) :
    itemsEnd close (ts :: tss) rest = .symbol .comma :: (ts ++ itemsEnd close tss rest) := by
  simp [itemsEnd]

theorem length_lt_itemsEnd (close : Symbol) (tss : List (List Token)) (rest : List Token) :
    tss.length < (itemsEnd close tss rest).length := by
  induction tss with
  | nil => simp [itemsEnd]
  | cons ts tss ih =>
    rw [itemsEnd_cons]
    simp only [List.length_cons, List.length_append]
    omega

theorem intercalate_itemsEnd (ts : List Token) (tss : List (List Token)) (rest : List Token) :
    [Token.symbol .comma].intercalate (ts :: tss) ++ .symbol close :: rest =
      ts ++ itemsEnd close tss rest := by
  induction tss generalizing ts with
  | nil => simp [itemsEnd]
  | cons ts' tss ih =>
    rw [List.intercalate_cons_cons, List.append_assoc, List.append_assoc, ih, itemsEnd_cons]
    rfl

theorem ReadsItem.before {ts : List Token} {a : α} (h : ReadsItem item close ts a)
    (tss : List (List Token)) (rest : List Token) :
    item (ts ++ itemsEnd close tss rest) = some (a, itemsEnd close tss rest) := by
  cases tss with
  | nil => exact h.reads _ _ (.inr rfl)
  | cons ts' tss =>
    rw [itemsEnd_cons]
    exact h.reads _ _ (.inl rfl)

theorem moreItems_itemsEnd {tss : List (List Token)} {as : List α} {n : Nat} (rest : List Token)
    (different : close ≠ .comma) (h : List.Forall₂ (ReadsItem item close) tss as)
    (enough : tss.length < n) : moreItems item close n (itemsEnd close tss rest) = some (as, rest) := by
  induction h generalizing n with
  | nil =>
    obtain ⟨n, rfl⟩ := Nat.exists_eq_succ_of_ne_zero (Nat.ne_of_gt enough)
    simp [moreItems, itemsEnd]
  | @cons ts a tss as first _ ih =>
    cases n with
    | zero => simp at enough
    | succ n =>
      have next := ih (n := n) (by simpa using enough)
      have notEnd : Token.symbol .comma ≠ .symbol close := by simpa using different.symm
      simp [moreItems, itemsEnd_cons, notEnd, first.before, next]

/-- A list is read from its items with commas between them. -/
theorem items_intercalate {tss : List (List Token)} {as : List α} (different : close ≠ .comma)
    (h : List.Forall₂ (ReadsItem item close) tss as) (rest : List Token) :
    items item close ([Token.symbol .comma].intercalate tss ++ .symbol close :: rest) =
      some (as, rest) := by
  cases h with
  | nil => simp [items]
  | @cons ts a tss as first others =>
    obtain ⟨t, more, rfl, notEnd⟩ := first.starts
    have read := first.before tss rest
    have behind := moreItems_itemsEnd rest different others
      (length_lt_itemsEnd close tss rest)
    rw [intercalate_itemsEnd]
    simp only [List.cons_append] at read ⊢
    simp [items, notEnd, read, behind]

end

end ClusterPolicy.Cedar.Parser
