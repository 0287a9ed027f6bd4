import ClusterPolicy.PolicyText
import ClusterPolicy.Collection
import ClusterPolicy.Proofs.CompiledPolicy.Reading

namespace ClusterPolicy

namespace Cedar

theorem textOf_intercalate (sep : List Lexeme) (parts : List (List Lexeme)) :
    textOf (sep.intercalate parts) = (textOf sep).intercalate (parts.map textOf) := by
  induction parts with
  | nil => rfl
  | cons part parts ih =>
    cases parts with
    | nil => simp
    | cons next parts =>
      rw [List.intercalate_cons_cons, List.map_cons, List.map_cons, List.intercalate_cons_cons,
        textOf_append, textOf_append, ih, List.map_cons]

/-- Parts that end before anything, on lines of their own. -/
theorem spaced_lines {parts : List (List Lexeme)} (h : ∀ ls ∈ parts, ∀ next, Spaced next ls)
    (next : Option Char) : Spaced next ([Lexeme.line 0, .line 0].intercalate parts) := by
  induction parts with
  | nil => trivial
  | cons ls parts ih =>
    have others := ih fun m hm => h m (List.mem_cons_of_mem _ hm)
    cases parts with
    | nil => simpa using h ls List.mem_cons_self next
    | cons m parts =>
      rw [List.intercalate_cons_cons, List.append_assoc, spaced_append]
      exact ⟨h ls List.mem_cons_self _, others⟩

end Cedar

namespace PolicyCollection

open Cedar

/-- Every policy of the collection can be written. -/
def IsProper (c : PolicyCollection) : Prop := ∀ p ∈ c.policies.values, p.IsProper

def lexemes (c : PolicyCollection) : List Lexeme :=
  [Lexeme.line 0, .line 0].intercalate (c.policies.values.map CompiledPolicy.lexemes)

theorem toList_text (c : PolicyCollection) : c.text.toList = textOf c.lexemes := by
  have parts : c.policies.values.map (String.toList ∘ CompiledPolicy.text) =
      c.policies.values.map (textOf ∘ CompiledPolicy.lexemes) :=
    List.map_congr_left fun p _ => p.toList_text
  rw [text, lexemes, String.toList_intercalate, textOf_intercalate, List.map_map, List.map_map, parts]
  rfl

theorem tokensOf_lexemes (c : PolicyCollection) :
    tokensOf c.lexemes = c.policies.values.flatMap fun p => tokensOf p.lexemes := by
  rw [lexemes, tokensOf_intercalate, List.map_map]
  generalize c.policies.values = policies
  induction policies with
  | nil => rfl
  | cons p policies ih =>
    cases policies with
    | nil => simp
    | cons q policies =>
      rw [List.map_cons, List.map_cons, List.intercalate_cons_cons, ← List.map_cons, ih]
      simp

/-- The text is read as one statement for each policy. -/
theorem parseStatements?_text {c : PolicyCollection} (h : c.IsProper) :
    parseStatements? c.text = some (c.policies.values.map CompiledPolicy.statement) := by
  have spaced : Spaced none c.lexemes := by
    refine spaced_lines ?_ none
    intro ls mem next
    obtain ⟨p, hp, rfl⟩ := List.mem_map.mp mem
    exact CompiledPolicy.spaced_lexemes (h p hp) next
  have read := CompiledPolicy.statements_tokens h (CompiledPolicy.length_le_flatMap c.policies.values)
  rw [← tokensOf_lexemes] at read
  simp [parseStatements?, toList_text, scan?_textOf spaced, read]

/-- What is made of each policy makes the set. -/
theorem toPolicySet_of {c : PolicyCollection} {f : CompiledPolicy → Policy}
    (h : ∀ p ∈ c.policies.values, p.toCedar? = some (f p)) :
    c.toPolicySet = .ok (.ofList (c.policies.values.map fun p => ((f p).id, f p))) := by
  have policies : c.policies.values.mapM toCedar = .ok (c.policies.values.map f) := by
    generalize c.policies.values = policies at h
    induction policies with
    | nil => rfl
    | cons p policies ih =>
      have first := h p List.mem_cons_self
      have others := ih fun q hq => h q (List.mem_cons_of_mem _ hq)
      simp [List.mapM_cons, toCedar, first, others]
      rfl
  rw [toPolicySet, policies]
  change Except.ok _ = _
  rw [List.map_map]
  rfl

/-- The engine has one policy for each policy of a collection of proper ones. -/
theorem toPolicySet_of_isProper {c : PolicyCollection} (h : c.IsProper) :
    c.toPolicySet = .ok (.ofList (c.policies.values.map fun p => (p.id, p.asCedar))) :=
  toPolicySet_of fun p hp => CompiledPolicy.toCedar?_of_isProper (h p hp)

/-- The id that the text gives a policy is the policy's own, wherever it stands. -/
theorem effectiveId_statement (p : CompiledPolicy) (position : Nat) :
    effectiveId p.statement position = p.id := by
  have found : p.statement.annotations.find? CompiledPolicy.idKey = some p.id :=
    (p.find?_annotations _).trans (if_pos rfl)
  simp [effectiveId, found]

theorem effectiveIds_statements (policies : List CompiledPolicy) (start : Nat) :
    ((policies.map CompiledPolicy.statement).zipIdx start).map
      (fun (s, position) => effectiveId s position) = policies.map CompiledPolicy.id := by
  induction policies generalizing start with
  | nil => rfl
  | cons p policies ih =>
    simp [List.zipIdx_cons, effectiveId_statement, ih]

theorem keys_eq_ids (c : PolicyCollection) :
    c.policies.keys = c.policies.values.map CompiledPolicy.id := by
  rw [SortedMap.keys, SortedMap.values, List.map_map]
  exact List.map_congr_left c.keyed

/-- The policies stand in the order of their ids. -/
theorem increasing_ids (c : PolicyCollection) :
    c.policies.values.Pairwise fun p q => p.id < q.id := by
  have ordered : c.policies.keys.Pairwise (· < ·) := List.pairwise_map.mpr c.policies.increasing
  rw [keys_eq_ids] at ordered
  exact List.pairwise_map.mp ordered

theorem nodup_ids (c : PolicyCollection) : (c.policies.values.map CompiledPolicy.id).Nodup := by
  rw [← keys_eq_ids]
  exact SortedMap.nodup_keys c.policies.increasing

/-- The policies of the engine that a collection stands for, under their ids. -/
def asCedar (c : PolicyCollection) : PolicySet :=
  .ofList (c.policies.values.map fun p => (p.id, p.asCedar))

theorem entries_asCedar (c : PolicyCollection) :
    c.asCedar.entries = c.policies.values.map fun p => (p.id, p.asCedar) :=
  SortedMap.entries_ofList (List.pairwise_map.mpr c.increasing_ids)

theorem keys_asCedar (c : PolicyCollection) : c.asCedar.keys = c.policies.keys := by
  rw [SortedMap.keys, entries_asCedar, keys_eq_ids, List.map_map]
  rfl

/-- Each stands under the id of the policy that it stands for. -/
theorem find?_asCedar {c : PolicyCollection} {p : CompiledPolicy} (h : p ∈ c.policies.values) :
    c.asCedar.find? p.id = some p.asCedar := by
  have mem : (p.id, p.asCedar) ∈ c.asCedar.entries := by
    rw [entries_asCedar]
    exact List.mem_map_of_mem h
  exact SortedMap.find?_of_mem mem

/-- A policy of the collection is found under its own id. -/
theorem mem_values_iff {c : PolicyCollection} {p : CompiledPolicy} :
    p ∈ c.policies.values ↔ c.policies.find? p.id = some p := by
  constructor
  · intro mem
    obtain ⟨⟨key, q⟩, entry, rfl⟩ := List.mem_map.mp mem
    rw [← c.keyed _ entry]
    exact SortedMap.find?_of_mem entry
  · intro found
    exact List.mem_map.mpr ⟨_, SortedMap.mem_of_find? found, rfl⟩

theorem contains_of_mem {c : PolicyCollection} {p : CompiledPolicy} (mem : p ∈ c.policies.values) :
    c.policies.contains p.id = true := by
  simp [SortedMap.contains, mem_values_iff.mp mem]

theorem find?_eq_some {c : PolicyCollection} {p : CompiledPolicy} {id : String} :
    c.policies.find? id = some p ↔ p ∈ c.policies.values ∧ p.id = id := by
  constructor
  · intro found
    have own : p.id = id := (c.keyed _ (SortedMap.mem_of_find? found)).symm
    exact ⟨mem_values_iff.mpr (own ▸ found), own⟩
  · rintro ⟨mem, rfl⟩
    exact mem_values_iff.mp mem

/-- To look for an id among the policies is to look it up. -/
theorem find?_values (c : PolicyCollection) (id : String) :
    (c.policies.values.find? fun p => p.id = id) = c.policies.find? id := by
  cases found : c.policies.values.find? fun p => p.id = id with
  | none =>
    symm
    rw [Option.eq_none_iff_forall_ne_some]
    intro p isP
    obtain ⟨mem, own⟩ := find?_eq_some.mp isP
    exact List.find?_eq_none.mp found p mem (decide_eq_true own)
  | some p =>
    have own : p.id = id := by simpa using List.find?_some found
    exact (find?_eq_some.mpr ⟨List.mem_of_find?_eq_some found, own⟩).symm

/-- A collection is its name and what it holds. -/
theorem ext_values {c d : PolicyCollection} (name : c.name = d.name)
    (same : ∀ p, p ∈ c.policies.values ↔ p ∈ d.policies.values) : c = d := by
  have policies : c.policies = d.policies := by
    refine SortedMap.ext_find? fun id => Option.ext fun p => ?_
    rw [find?_eq_some, find?_eq_some, same]
  obtain ⟨cname, cpolicies, _⟩ := c
  obtain ⟨dname, dpolicies, _⟩ := d
  cases name
  cases policies
  rfl

theorem eq_or_mem_of_insert {c d : PolicyCollection} {p q : CompiledPolicy}
    (inserted : c.insert p = .ok d) (mem : q ∈ d.policies.values) : q = p ∨ q ∈ c.policies.values := by
  unfold insert at inserted
  split at inserted
  · cases inserted
  · cases inserted
    rw [mem_values_iff, SortedMap.find?_insert] at mem
    split at mem
    · exact .inl (Option.some.inj mem).symm
    · exact .inr (mem_values_iff.mpr mem)

theorem contains_insert {c d : PolicyCollection} {p : CompiledPolicy} (inserted : c.insert p = .ok d)
    (key : String) : d.policies.contains key = true ↔ key = p.id ∨ c.policies.contains key = true := by
  unfold insert at inserted
  split at inserted
  · cases inserted
  · cases inserted
    simp only [SortedMap.contains, SortedMap.find?_insert]
    by_cases same : key = p.id <;> simp [same]

theorem contains_of_insert_eq_error {c : PolicyCollection} {p : CompiledPolicy} {e : Error}
    (refused : c.insert p = .error e) : c.policies.contains p.id = true := by
  unfold insert at refused
  split at refused
  · assumption
  · cases refused

theorem policies_statements (policies : List CompiledPolicy) :
    (policies.map CompiledPolicy.statement).mapM Parser.Statement.policy? =
      some (policies.map fun p id => { p.asCedar with id := id }) := by
  induction policies with
  | nil => rfl
  | cons p policies ih =>
    rw [List.map_cons, List.mapM_cons, ih]
    rfl

theorem parsePolicySet_of_isProper {c : PolicyCollection} (h : c.IsProper) (source : String) :
    parsePolicySet source c.text =
      .ok (.ofList (c.policies.values.map fun p => (p.id, p.asCedar))) := by
  simp only [parsePolicySet, parseStatements?_text h, policies_statements, effectiveIds_statements,
    c.nodup_ids, ↓reduceIte, List.zip_map', List.map_map]
  rfl

/-- The two forms of a collection agree: the same ids, and under each the same policy, its id among
the annotations in place of any other annotation of that name. -/
theorem parsePolicySet_text {c : PolicyCollection} (h : c.IsProper) (source : String) :
    ∃ set, c.toPolicySet = .ok set ∧ parsePolicySet source c.text = .ok set ∧
      set.keys = c.policies.keys ∧
      ∀ p ∈ c.policies.values, ∃ q, set.find? p.id = some q ∧ q.id = p.id ∧ q.effect = p.effect ∧
        q.principal = p.principal ∧ q.action = p.action ∧ q.resource = p.resource ∧
        CompiledPolicy.clauses? p.condition = some q.clauses ∧
        ∀ key, q.annotations.find? key =
          if key = CompiledPolicy.idKey then some p.id else p.annotations.find? key := by
  refine ⟨c.asCedar, toPolicySet_of_isProper h, parsePolicySet_of_isProper h source,
    keys_asCedar c, fun p hp => ?_⟩
  exact ⟨p.asCedar, find?_asCedar hp, rfl, rfl, rfl, rfl, rfl,
    CompiledPolicy.clauses?_of_isProper (h p hp), p.find?_annotations⟩

theorem parsePolicySet_text_renamed :
    let p : CompiledPolicy :=
      { id := "view \"all\":ClusterRoleBinding:0.0"
        effect := .permit
        principal := .within ⟨"k8s::Group", "a\nb"⟩
        action := .within [⟨"k8s::Action", "get"⟩]
        resource := .ofType "k8s::Resource"
        condition := .not (.has .resource "namespace")
        annotations := SortedMap.empty.insert CompiledPolicy.idKey "another" }
    let c : PolicyCollection := ⟨"bindings", ⟨[(p.id, p)], List.pairwise_singleton _ _⟩, by simp⟩
    c.IsProper ∧ ∃ set, c.toPolicySet = .ok set ∧ parsePolicySet "text" c.text = .ok set ∧
      set.keys = c.policies.keys ∧
      ∀ p ∈ c.policies.values, ∃ q, set.find? p.id = some q ∧ q.id = p.id ∧ q.effect = p.effect ∧
        q.principal = p.principal ∧ q.action = p.action ∧ q.resource = p.resource ∧
        CompiledPolicy.clauses? p.condition = some q.clauses ∧
        ∀ key, q.annotations.find? key =
          if key = CompiledPolicy.idKey then some p.id else p.annotations.find? key := by
  intro p c
  have proper : c.IsProper := by
    intro q hq
    obtain rfl := List.mem_singleton.mp hq
    exact ⟨by decide, by decide, by decide, by decide, .inr (by decide)⟩
  exact ⟨proper, parsePolicySet_text proper "text"⟩

end PolicyCollection

end ClusterPolicy
