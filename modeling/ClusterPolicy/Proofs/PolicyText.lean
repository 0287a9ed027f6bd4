import ClusterPolicy.PolicyText
import ClusterPolicy.Proofs.Cedar.Parser
import ClusterPolicy.Proofs.SortedMap

namespace ClusterPolicy

open Cedar (Policy PolicySet parseStatements?)
open Cedar.Parser (Statement)

/-! ## Statements -/

namespace Cedar.Parser

/-- The statement of a policy, which goes under any id. -/
structure Statement.IsOf (s : Statement) (p : Policy) : Prop where
  annotations : p.annotations = s.annotations
  policy : s.policy? = some fun id => { p with id }

def Statement.IsTemplate (s : Statement) : Prop := s.policy? = none

/-- A statement is that of one policy, whatever id it goes under, unless it is a template. -/
theorem statement_isOf {ts rest : List Token} {s : Statement} (read : statement ts = some (s, rest)) :
    s.IsTemplate ∨ ∃ p, s.IsOf p := by
  unfold statement at read
  obtain ⟨written, _, -, read⟩ := exists_of_run_bind read
  obtain ⟨effect, _, -, read⟩ := exists_of_run_bind read
  obtain ⟨_, _, -, read⟩ := exists_of_run_bind read
  obtain ⟨principal, _, -, read⟩ := exists_of_run_bind read
  obtain ⟨_, _, -, read⟩ := exists_of_run_bind read
  obtain ⟨action, _, -, read⟩ := exists_of_run_bind read
  obtain ⟨_, _, -, read⟩ := exists_of_run_bind read
  obtain ⟨resource, _, -, read⟩ := exists_of_run_bind read
  obtain ⟨_, _, -, read⟩ := exists_of_run_bind read
  obtain ⟨clauses, _, -, made⟩ := exists_of_run_bind read
  simp only [run_ite, run_failure, run_pure, Option.ite_none_right_eq_some, Option.some.injEq,
    Prod.mk.injEq] at made
  obtain ⟨-, rfl, -⟩ := made
  cases principal with
  | slot => exact .inl rfl
  | fixed principal =>
    cases resource with
    | slot => exact .inl rfl
    | fixed resource =>
      exact .inr ⟨⟨"", effect, .ofList written, principal, action, resource, clauses⟩, rfl, rfl⟩

theorem statements_isOf {n : Nat} {ts rest : List Token} {read : List Statement}
    (reads : statements n ts = some (read, rest)) :
    ∀ s ∈ read, s.IsTemplate ∨ ∃ p, s.IsOf p := by
  induction n generalizing ts read rest with
  | zero =>
    simp only [statements, Option.ite_none_right_eq_some, Option.some.injEq, Prod.mk.injEq] at reads
    simp [← reads.2.1]
  | succ n ih =>
    rw [statements, run_bind, peek_eq, Option.bind_some, run_ite] at reads
    split at reads
    · cases reads
      exact List.forall_mem_nil _
    · obtain ⟨s, _, first, reads⟩ := exists_of_run_bind reads
      obtain ⟨more, _, others, made⟩ := exists_of_run_bind reads
      cases made
      exact List.forall_mem_cons.mpr ⟨statement_isOf first, ih others⟩

end Cedar.Parser

theorem isOf_of_parseStatements? {text : String} {statements : List Statement}
    (read : parseStatements? text = some statements) :
    ∀ s ∈ statements, s.IsTemplate ∨ ∃ p, s.IsOf p := by
  simp only [parseStatements?, Option.bind_eq_bind, Option.bind_eq_some_iff, Option.some.injEq] at read
  obtain ⟨tokens, -, ⟨_, rest⟩, reads, rfl⟩ := read
  exact Cedar.Parser.statements_isOf reads

theorem exists_policies {statements : List Statement}
    (each : ∀ s ∈ statements, s.IsTemplate ∨ ∃ p, s.IsOf p) (fixed : ∀ s ∈ statements, ¬s.IsTemplate) :
    ∃ policies, List.Forall₂ Statement.IsOf statements policies := by
  induction statements with
  | nil => exact ⟨[], .nil⟩
  | cons s statements ih =>
    obtain ⟨⟨p, isOf⟩, others⟩ :=
      List.forall_mem_cons.mp fun s mem => (each s mem).resolve_left (fixed s mem)
    obtain ⟨policies, more⟩ := ih (List.forall_mem_cons.mp each).2 (List.forall_mem_cons.mp fixed).2
    exact ⟨p :: policies, .cons isOf more⟩

/-! ## Visiting the parsed policies -/

/-- A policy under its `@id`, or else under the id it has. -/
def Cedar.Policy.renamed (p : Policy) : Policy :=
  { p with id := (p.annotations.find? CompiledPolicy.idKey).getD p.id }

/-- What stands for a policy in a set. -/
def Cedar.Policy.entry (p : Policy) : String × Policy := (p.renamed.id, p.renamed)

/-- Adds a policy under its new id, which must not be taken. -/
def addRenamed (set : PolicySet) (p : Policy) : Option PolicySet :=
  if set.contains p.renamed.id then none else some (set.insert p.renamed.id p.renamed)

def addEach (visited : List Policy) : Option PolicySet := visited.foldlM addRenamed .empty

theorem addRenamed_eq_some_iff {set next : PolicySet} {p : Policy} :
    addRenamed set p = some next ↔
      set.contains p.renamed.id = false ∧ set.insert p.renamed.id p.renamed = next := by
  simp [addRenamed]

theorem foldlM_addRenamed {set result : PolicySet} {visited : List Policy} :
    visited.foldlM addRenamed set = some result ↔
      ((visited.map Policy.entry).map (·.1)).Nodup ∧
        (∀ p ∈ visited, set.contains p.renamed.id = false) ∧
        set.insertAll (visited.map Policy.entry) = result := by
  induction visited generalizing set with
  | nil => simp [SortedMap.insertAll]
  | cons p visited ih =>
    simp only [List.foldlM_cons, bind, Option.bind_eq_some_iff, addRenamed_eq_some_iff, ih, and_assoc,
      exists_and_left, exists_eq_left', List.map_cons, List.nodup_cons, List.mem_map,
      List.forall_mem_cons, SortedMap.contains_insert, Bool.or_eq_false_iff, beq_eq_false_iff_ne]
    constructor
    · rintro ⟨free, distinct, apart, made⟩
      have fresh : ¬∃ e, (∃ q ∈ visited, q.entry = e) ∧ e.1 = p.renamed.id := by
        rintro ⟨_, ⟨q, mem, rfl⟩, same⟩
        exact (apart q mem).1 same
      exact ⟨fresh, distinct, free, fun q mem => (apart q mem).2, made⟩
    · rintro ⟨fresh, distinct, free, others, made⟩
      have apart : ∀ q ∈ visited, q.renamed.id ≠ p.renamed.id ∧ set.contains q.renamed.id = false :=
        fun q mem => ⟨fun same => fresh ⟨_, ⟨q, mem, rfl⟩, same⟩, others q mem⟩
      exact ⟨free, distinct, apart, made⟩

/-- The sets on the way do not show in the result. -/
theorem addEach_eq (visited : List Policy) :
    addEach visited =
      if ((visited.map Policy.entry).map (·.1)).Nodup then some (.ofList (visited.map Policy.entry))
      else none := by
  apply Option.ext
  intro set
  rw [addEach, foldlM_addRenamed]
  simp [SortedMap.contains, SortedMap.ofList]

/-- To rename and add the parsed policies one by one gives the same set in any order. -/
theorem addEach_perm {visited policies : List Policy} (perm : visited.Perm policies) :
    addEach visited = addEach policies := by
  have entries := perm.map Policy.entry
  have ids := (entries.map (·.1)).nodup_iff
  rw [addEach_eq, addEach_eq]
  by_cases distinct : ((visited.map Policy.entry).map (·.1)).Nodup
  · rw [if_pos distinct, if_pos (ids.mp distinct), SortedMap.ofList_perm distinct entries]
  · rw [if_neg distinct, if_neg (mt ids.mpr distinct)]

/-! ## Ids -/

def positionalId (position : Nat) : String := "policy" ++ position.repr

/-- The policies of statements under the ids of their positions. -/
def positional? (statements : List Statement) : Option (List Policy) :=
  statements.zipIdx.mapM fun (s, position) => s.policy?.map fun build => build (positionalId position)

def effectiveIds (statements : List Statement) : List String :=
  statements.zipIdx.map fun (s, position) => effectiveId s position

/-- The policies at the positions from `start` on, under the ids of these. -/
def standing (policies : List Policy) (start : Nat) : List Policy :=
  (policies.zipIdx start).map fun (p, position) => { p with id := positionalId position }

theorem standing_cons (p : Policy) (policies : List Policy) (start : Nat) :
    standing (p :: policies) start =
      { p with id := positionalId start } :: standing policies (start + 1) := rfl

theorem renamed_of_isOf {s : Statement} {p : Policy} (isOf : s.IsOf p) (position : Nat) :
    Policy.renamed { p with id := positionalId position } = { p with id := effectiveId s position } := by
  rw [Policy.renamed, isOf.annotations]
  rfl

section
variable {statements : List Statement} {policies : List Policy}

theorem mapM_policy? (each : List.Forall₂ Statement.IsOf statements policies) :
    statements.mapM Statement.policy? = some (policies.map fun p id => { p with id }) := by
  induction each with
  | nil => rfl
  | cons first _ ih => simp [List.mapM_cons, first.policy, ih]

theorem mapM_policy?_of_template (template : ∃ s ∈ statements, s.IsTemplate) :
    statements.mapM Statement.policy? = none := by
  induction statements with
  | nil => simp at template
  | cons s statements ih =>
    rw [List.mapM_cons]
    rcases (List.exists_mem_cons_iff ..).mp template with here | later
    · rw [here]
      rfl
    · cases s.policy? <;> simp [ih later]

theorem positional?_standing (each : List.Forall₂ Statement.IsOf statements policies) :
    positional? statements = some (standing policies 0) := by
  rw [positional?]
  generalize 0 = start
  induction each generalizing start with
  | nil => rfl
  | cons first _ ih => simp [List.zipIdx_cons, List.mapM_cons, first.policy, ih, standing_cons]

theorem ids_standing (each : List.Forall₂ Statement.IsOf statements policies) :
    ((standing policies 0).map Policy.entry).map (·.1) = effectiveIds statements := by
  rw [List.map_map, effectiveIds]
  generalize 0 = start
  induction each generalizing start with
  | nil => rfl
  | cons first _ ih =>
    simp [List.zipIdx_cons, standing_cons, Policy.entry, renamed_of_isOf first, ih]

/-- The entries that are loaded. -/
theorem entries_standing (each : List.Forall₂ Statement.IsOf statements policies) :
    ((effectiveIds statements).zip (policies.map fun p id => { p with id })).map
      (fun (id, policy) => (id, policy id)) = (standing policies 0).map Policy.entry := by
  rw [effectiveIds]
  generalize 0 = start
  induction each generalizing start with
  | nil => rfl
  | cons first _ ih =>
    simp [List.zipIdx_cons, standing_cons, Policy.entry, renamed_of_isOf first, ih]

theorem mem_standing (each : List.Forall₂ Statement.IsOf statements policies) {s : Statement}
    {position : Nat} (stands : (s, position) ∈ statements.zipIdx) :
    ∃ p, s.IsOf p ∧ { p with id := positionalId position } ∈ standing policies 0 := by
  rw [standing]
  generalize 0 = start at stands ⊢
  induction each generalizing start with
  | nil => simp at stands
  | @cons first p _ _ isOf _ ih =>
    rw [List.zipIdx_cons] at stands
    rcases List.mem_cons.mp stands with here | later
    · obtain ⟨rfl, rfl⟩ := Prod.mk.inj here
      exact ⟨p, isOf, List.mem_cons_self⟩
    · obtain ⟨q, isOf, mem⟩ := ih (start + 1) later
      exact ⟨q, isOf, List.mem_cons_of_mem _ mem⟩

end

/-! ## Loading -/

/-- One policy for each statement, under its effective id and otherwise as it stands in the text. -/
structure Renames (statements : List Statement) (set : PolicySet) : Prop where
  ids : set.keys.Perm (effectiveIds statements)
  policies : ∀ s position, (s, position) ∈ statements.zipIdx →
    ∃ p, s.IsOf p ∧ set.find? (effectiveId s position) = some { p with id := effectiveId s position }

section
variable {text : String} {statements : List Statement} {policies : List Policy}

/-- A text without templates is loaded as its policies are added. -/
theorem parsePolicySet_of_isOf (source : String) (read : parseStatements? text = some statements)
    (each : List.Forall₂ Statement.IsOf statements policies) :
    parsePolicySet source text =
      (addEach (standing policies 0)).elim (.error (.policyParse source)) .ok := by
  have loaded : parsePolicySet source text =
      if (effectiveIds statements).Nodup then
        .ok (.ofList (((effectiveIds statements).zip (policies.map fun p id => { p with id })).map
          fun (id, policy) => (id, policy id)))
      else .error (.policyParse source) := by
    simp only [parsePolicySet, read, mapM_policy? each]
    rfl
  rw [loaded, addEach_eq, ids_standing each, entries_standing each]
  split <;> rfl

theorem read_of_parsePolicySet {source : String} {set : PolicySet}
    (loaded : parsePolicySet source text = .ok set) : parseStatements? text ≠ none := by
  intro refused
  simp only [parsePolicySet, refused] at loaded
  cases loaded

theorem fixed_of_parsePolicySet {source : String} {set : PolicySet}
    (loaded : parsePolicySet source text = .ok set) (read : parseStatements? text = some statements) :
    ∀ s ∈ statements, ¬s.IsTemplate := by
  intro s mem template
  simp only [parsePolicySet, read, mapM_policy?_of_template ⟨s, mem, template⟩] at loaded
  cases loaded

theorem addEach_of_parsePolicySet {source : String} {set : PolicySet}
    (loaded : parsePolicySet source text = .ok set) (read : parseStatements? text = some statements) :
    ∃ policies, List.Forall₂ Statement.IsOf statements policies ∧
      addEach (standing policies 0) = some set := by
  obtain ⟨policies, each⟩ :=
    exists_policies (isOf_of_parseStatements? read) (fixed_of_parsePolicySet loaded read)
  refine ⟨policies, each, ?_⟩
  rw [parsePolicySet_of_isOf source read each] at loaded
  cases added : addEach (standing policies 0) with
  | none =>
    rw [added] at loaded
    cases loaded
  | some result =>
    rw [added] at loaded
    cases loaded
    rfl

theorem renames_of_addEach {set : PolicySet} (each : List.Forall₂ Statement.IsOf statements policies)
    (added : addEach (standing policies 0) = some set) : Renames statements set := by
  rw [addEach_eq, Option.ite_none_right_eq_some] at added
  obtain ⟨distinct, made⟩ := added
  cases made
  constructor
  · rw [← ids_standing each]
    exact (SortedMap.entries_ofList_perm distinct).map _
  · intro s position stands
    obtain ⟨p, isOf, mem⟩ := mem_standing each stands
    have entry := List.mem_map_of_mem (f := Policy.entry) mem
    rw [Policy.entry, renamed_of_isOf isOf] at entry
    exact ⟨p, isOf, by rw [SortedMap.find?_ofList distinct, SortedMap.lookup_of_mem distinct entry]⟩

end

/-- A text is loaded if it can be read, holds no template and its effective ids differ. Then each
statement has its policy, whatever the order in which the parsed policies are visited. -/
theorem parsePolicySet_renames (source text : String) :
    ((∃ set, parsePolicySet source text = .ok set) ↔
      ∃ statements, parseStatements? text = some statements ∧ (∀ s ∈ statements, ¬s.IsTemplate) ∧
        (effectiveIds statements).Nodup) ∧
    ∀ statements, parseStatements? text = some statements →
      (∀ set, parsePolicySet source text = .ok set → Renames statements set) ∧
      ((∀ s ∈ statements, ¬s.IsTemplate) →
        ∃ policies, positional? statements = some policies ∧
          ∀ visited, visited.Perm policies → addEach visited = (parsePolicySet source text).toOption) := by
  constructor
  · constructor
    · rintro ⟨set, loaded⟩
      obtain ⟨statements, read⟩ := Option.ne_none_iff_exists'.mp (read_of_parsePolicySet loaded)
      obtain ⟨policies, each, added⟩ := addEach_of_parsePolicySet loaded read
      rw [addEach_eq, ids_standing each, Option.ite_none_right_eq_some] at added
      exact ⟨statements, read, fixed_of_parsePolicySet loaded read, added.1⟩
    · rintro ⟨statements, read, fixed, distinct⟩
      obtain ⟨policies, each⟩ := exists_policies (isOf_of_parseStatements? read) fixed
      rw [parsePolicySet_of_isOf source read each, addEach_eq, ids_standing each, if_pos distinct]
      exact ⟨_, rfl⟩
  · intro statements read
    constructor
    · intro set loaded
      obtain ⟨policies, each, added⟩ := addEach_of_parsePolicySet loaded read
      exact renames_of_addEach each added
    · intro fixed
      obtain ⟨policies, each⟩ := exists_policies (isOf_of_parseStatements? read) fixed
      refine ⟨standing policies 0, positional?_standing each, fun visited perm => ?_⟩
      rw [addEach_perm perm, parsePolicySet_of_isOf source read each]
      cases addEach (standing policies 0) <;> rfl

/-- Two policies may swap the ids of their positions, but one may not take that of another. -/
theorem parsePolicySet_renames_swapped :
    let crossed := "@id(\"policy1\")permit(principal,action,resource);" ++
      "@id(\"policy0\")forbid(principal,action,resource);"
    let clashing := "@id(\"policy1\")permit(principal,action,resource);" ++
      "forbid(principal,action,resource);"
    (∃ set statements policies, parsePolicySet "text" crossed = .ok set ∧ Renames statements set ∧
      effectiveIds statements = ["policy1", "policy0"] ∧ positional? statements = some policies ∧
      addEach policies = some set ∧ addEach policies.reverse = some set) ∧
    ¬∃ set, parsePolicySet "text" clashing = .ok set := by
  intro crossed clashing
  constructor
  · have holds : ∃ statements ∈ parseStatements? crossed,
        (∀ s ∈ statements, s.policy?.isSome) ∧ effectiveIds statements = ["policy1", "policy0"] := by
      decide +kernel
    obtain ⟨statements, read, written, ids⟩ := holds
    have fixed : ∀ s ∈ statements, ¬s.IsTemplate := fun s mem =>
      Option.isSome_iff_ne_none.mp (written s mem)
    obtain ⟨loads, made⟩ := parsePolicySet_renames "text" crossed
    obtain ⟨set, loaded⟩ := loads.mpr ⟨statements, read, fixed, by rw [ids]; decide⟩
    obtain ⟨renames, visits⟩ := made statements read
    obtain ⟨policies, standing, same⟩ := visits fixed
    rw [loaded] at same
    exact ⟨set, statements, policies, loaded, renames set loaded, ids, standing, same _ (.refl _),
      same _ (List.reverse_perm _)⟩
  · intro loads
    have clash : ∀ statements ∈ parseStatements? clashing, ¬(effectiveIds statements).Nodup := by
      decide +kernel
    obtain ⟨statements, read, -, distinct⟩ := (parsePolicySet_renames "text" clashing).1.mp loads
    exact clash statements read distinct

end ClusterPolicy
