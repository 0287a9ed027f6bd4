import ClusterPolicy.SortedMap
import Mathlib.Data.List.Nodup

namespace ClusterPolicy.SortedMap

variable {α β : Type}

theorem lookup_cons_ite (key k : String) (value : α) (entries : List (String × α)) :
    ((k, value) :: entries).lookup key = if key = k then some value else entries.lookup key := by
  by_cases same : key = k
  · simp [same]
  · simp [List.lookup_cons, beq_false_of_ne same, same]

theorem lookup_insertEntry (key k : String) (value : α) (entries : List (String × α)) :
    (insertEntry k value entries).lookup key =
      if key = k then some value else entries.lookup key := by
  induction entries with
  | nil => exact lookup_cons_ite key k value []
  | cons head rest ih =>
    obtain ⟨j, w⟩ := head
    unfold insertEntry
    split
    · exact lookup_cons_ite key k value _
    · split
      · rename_i same
        subst same
        simp only [lookup_cons_ite]
        split <;> rfl
      · rename_i different
        simp only [lookup_cons_ite, ih]
        by_cases own : key = j
        · subst own
          simp [Ne.symm different]
        · simp [own]

/-- An insertion answers for its own key and for no other. -/
theorem find?_insert (m : SortedMap α) (key k : String) (value : α) :
    (m.insert k value).find? key = if key = k then some value else m.find? key :=
  lookup_insertEntry key k value m.entries

@[simp] theorem find?_empty (key : String) : (empty : SortedMap α).find? key = none := rfl

theorem contains_insert (m : SortedMap α) (key k : String) (value : α) :
    (m.insert k value).contains key = (key == k || m.contains key) := by
  by_cases own : key = k <;> simp [contains, find?_insert, own]

theorem find?_insertAll (m : SortedMap α) {entries : List (String × α)}
    (distinct : (entries.map (·.1)).Nodup) (key : String) :
    (m.insertAll entries).find? key = (entries.lookup key).or (m.find? key) := by
  induction entries generalizing m with
  | nil => rfl
  | cons head rest ih =>
    obtain ⟨k, value⟩ := head
    obtain ⟨fresh, distinct⟩ := List.nodup_cons.mp distinct
    have next := ih (m.insert k value) distinct
    simp only [insertAll, List.foldl_cons] at next ⊢
    rw [next, find?_insert, lookup_cons_ite]
    split
    · rename_i own
      subst own
      have absent : rest.lookup key = none := by
        rw [List.lookup_eq_none_iff]
        intro e he
        exact bne_iff_ne.mpr fun same => fresh (List.mem_map.mpr ⟨e, he, same.symm⟩)
      simp [absent]
    · rfl

/-- A map made of entries under distinct keys holds these entries. -/
theorem find?_ofList {entries : List (String × α)} (distinct : (entries.map (·.1)).Nodup)
    (key : String) : (ofList entries).find? key = entries.lookup key := by
  rw [ofList, find?_insertAll empty distinct, find?_empty, Option.or_none]

/-- An entry behind all others. -/
theorem insertEntry_last {key : String} {value : α} {entries : List (String × α)}
    (last : ∀ e ∈ entries, e.1 < key) :
    insertEntry key value entries = entries ++ [(key, value)] := by
  induction entries with
  | nil => rfl
  | cons head rest ih =>
    have before := last head List.mem_cons_self
    have next := ih fun e he => last e (List.mem_cons_of_mem _ he)
    have notBehind : ¬key < head.1 := fun behind => String.lt_irrefl _ (String.lt_trans before behind)
    have different : key ≠ head.1 := by
      rintro rfl
      exact String.lt_irrefl _ before
    simp [insertEntry, notBehind, different, next]

theorem entries_insertAll (m : SortedMap α) {entries : List (String × α)}
    (increasing : (m.entries ++ entries).Pairwise (fun a b => a.1 < b.1)) :
    (m.insertAll entries).entries = m.entries ++ entries := by
  induction entries generalizing m with
  | nil => simp [insertAll]
  | cons head rest ih =>
    have last : ∀ e ∈ m.entries, e.1 < head.1 := by
      intro e he
      exact (List.pairwise_append.mp increasing).2.2 e he head List.mem_cons_self
    have inserted : (m.insert head.1 head.2).entries = m.entries ++ [head] := insertEntry_last last
    have next := ih (m.insert head.1 head.2) (by simpa [inserted] using increasing)
    simp only [insertAll, List.foldl_cons] at next ⊢
    rw [next, inserted, List.append_assoc]
    rfl

/-- It is these entries, if they come in order. -/
theorem entries_ofList {entries : List (String × α)}
    (increasing : entries.Pairwise (fun a b => a.1 < b.1)) : (ofList entries).entries = entries :=
  entries_insertAll empty increasing

theorem nodup_keys {entries : List (String × α)}
    (increasing : entries.Pairwise (fun a b => a.1 < b.1)) : (entries.map (·.1)).Nodup := by
  rw [List.Nodup, List.pairwise_map]
  apply increasing.imp
  intro a b less same
  exact String.lt_irrefl _ (same ▸ less)

theorem lookup_of_mem {entries : List (String × α)} (distinct : (entries.map (·.1)).Nodup)
    {key : String} {value : α} (h : (key, value) ∈ entries) : entries.lookup key = some value := by
  induction entries with
  | nil => cases h
  | cons head rest ih =>
    obtain ⟨fresh, distinct⟩ := List.nodup_cons.mp distinct
    rw [lookup_cons_ite]
    rcases List.mem_cons.mp h with rfl | h
    · simp
    · have different : key ≠ head.1 := by
        intro same
        exact fresh (List.mem_map.mpr ⟨_, h, same⟩)
      rw [if_neg different, ih distinct h]

theorem lookup_eq_some_iff {entries : List (String × α)} (distinct : (entries.map (·.1)).Nodup)
    {key : String} {value : α} : entries.lookup key = some value ↔ (key, value) ∈ entries := by
  refine ⟨fun found => ?_, lookup_of_mem distinct⟩
  obtain ⟨before, behind, split, -⟩ := List.lookup_eq_some_iff.mp found
  rw [split]
  exact List.mem_append_right _ List.mem_cons_self

/-- Leaving out other keys does not matter. -/
theorem lookup_filter (keep : String → Bool) {key : String} (kept : keep key = true)
    (entries : List (String × α)) :
    (entries.filter fun e => keep e.1).lookup key = entries.lookup key := by
  induction entries with
  | nil => rfl
  | cons head rest ih =>
    obtain ⟨k, value⟩ := head
    by_cases own : key = k
    · subst own
      simp [kept]
    · rw [lookup_cons_ite, if_neg own, ← ih, List.filter_cons]
      split
      · rw [lookup_cons_ite, if_neg own]
      · rfl

theorem find?_of_mem {m : SortedMap α} {key : String} {value : α} (h : (key, value) ∈ m.entries) :
    m.find? key = some value :=
  lookup_of_mem (nodup_keys m.increasing) h

theorem mem_of_find? {m : SortedMap α} {key : String} {value : α} (h : m.find? key = some value) :
    (key, value) ∈ m.entries :=
  (lookup_eq_some_iff (nodup_keys m.increasing)).mp h

/-- A map is what it answers. -/
theorem ext_find? {m n : SortedMap α} (same : ∀ key, m.find? key = n.find? key) : m = n := by
  have entries : ∀ e, e ∈ m.entries ↔ e ∈ n.entries := fun (key, value) =>
    ⟨fun h => mem_of_find? (same key ▸ find?_of_mem h), fun h => mem_of_find? (same key ▸ find?_of_mem h)⟩
  have nodup : ∀ k : SortedMap α, k.entries.Nodup := fun k => (nodup_keys k.increasing).of_map
  have perm : m.entries.Perm n.entries := (List.perm_ext_iff_of_nodup (nodup m) (nodup n)).mpr entries
  have equal : m.entries = n.entries :=
    perm.eq_of_pairwise (fun a b _ _ ab ba => absurd (String.lt_trans ab ba) (String.lt_irrefl _))
      m.increasing n.increasing
  cases m
  cases n
  cases equal
  rfl

theorem ofList_entries (m : SortedMap α) : ofList m.entries = m :=
  ext_find? fun key => find?_ofList (nodup_keys m.increasing) key

/-- A map is made of its entries and of nothing else. -/
theorem entries_ofList_perm {entries : List (String × α)} (distinct : (entries.map (·.1)).Nodup) :
    (ofList entries).entries.Perm entries := by
  have distinctKeys := nodup_keys (ofList entries).increasing
  rw [List.perm_ext_iff_of_nodup distinctKeys.of_map distinct.of_map]
  rintro ⟨key, value⟩
  rw [← lookup_eq_some_iff distinctKeys, ← lookup_eq_some_iff distinct, ← find?_ofList distinct]
  rfl

/-- The order of the entries does not matter. -/
theorem ofList_perm {entries others : List (String × α)} (distinct : (entries.map (·.1)).Nodup)
    (perm : entries.Perm others) : ofList entries = ofList others := by
  have distinctOthers : (others.map (·.1)).Nodup := (perm.map _).nodup_iff.mp distinct
  apply ext_find?
  intro key
  rw [find?_ofList distinct, find?_ofList distinctOthers]
  apply Option.ext
  intro value
  rw [lookup_eq_some_iff distinct, lookup_eq_some_iff distinctOthers, perm.mem_iff]

end ClusterPolicy.SortedMap
