import ClusterPolicy.Command.Authorization
import ClusterPolicy.Command.Conversion
import ClusterPolicy.Proofs.Json.Reader
import ClusterPolicy.Proofs.Rbac.Loading
import ClusterPolicy.Proofs.Store.Publication
import ClusterPolicy.Proofs.Tier.Exchange

/-! What a conversion prints, loaded as a store. -/

namespace ClusterPolicy

/-- The store holds the collection's policies under their ids, and no others. -/
structure Store.Holds (store : Store) (c : PolicyCollection) : Prop where
  keys : store.snapshot.policies.keys = c.policies.keys
  policies : ∀ p ∈ c.policies.values, ∃ q, store.snapshot.policies.find? p.id = some q ∧
    q.id = p.id ∧ q.effect = p.effect ∧ ∀ key, q.annotations.find? key =
      if key = CompiledPolicy.idKey then some p.id else p.annotations.find? key

theorem Store.holds_ofPolicySet (name : String) (c : PolicyCollection) :
    (Store.ofPolicySet name c.asCedar).Holds c where
  keys := c.keys_asCedar
  policies p hp :=
    ⟨p.asCedar, PolicyCollection.find?_asCedar hp, rfl, rfl, p.find?_annotations⟩

namespace Command

theorem loadStore_of_read {files : Files} {path text : String} (holds : files.read path = .ok text) :
    loadStore files path =
      if isJsonFile path then
        match (Json.parse? RequestFile.depthLimit text).bind Cedar.PolicySet.ofJson? with
        | some policies => .ok (.ofPolicySet (storeName path) policies)
        | none => .error (.policy (.policyParse (storeName path)))
      else liftError (Store.ofText (storeName path) text) := by
  rw [loadStore, holds]
  rfl

section
variable {c : PolicyCollection} (h : c.IsProper) {files : Files} {path : String}
include h

/-- A file with the text of a collection makes a store of its policies. -/
theorem loadStore_text (holds : files.read path = .ok c.text) (other : isJsonFile path = false) :
    loadStore files path = .ok (.ofPolicySet (storeName path) c.asCedar) := by
  have parsed : parsePolicySet (storeName path) c.text = .ok c.asCedar :=
    PolicyCollection.parsePolicySet_of_isProper h _
  rw [loadStore_of_read holds, other, Store.ofText_eq, parsed]
  rfl

/-- So does a file with its JSON form, unless that nests as deep as the reader's limit. -/
theorem loadStore_pretty (holds : files.read path = .ok (c.asCedar.toJson.pretty ""))
    (json : isJsonFile path = true) : loadStore files path =
      if c.asCedar.toJson.depth < RequestFile.depthLimit then
        .ok (.ofPolicySet (storeName path) c.asCedar)
      else .error (.policy (.policyParse (storeName path))) := by
  have encodes := PolicyCollection.encodes_asCedar h
  rw [loadStore_of_read holds, if_pos json, Json.parse?_pretty encodes.exact]
  by_cases shallow : c.asCedar.toJson.depth < RequestFile.depthLimit
  · simp only [if_pos shallow, Option.bind_some, encodes.decodes]
  · simp only [if_neg shallow, Option.bind_none]

end

/-- The text of a collection whose policies can be written makes a store. What is printed of its JSON
form makes one that answers in place of the other, unless it nests as deep as the reader's limit. -/
theorem loadStore_render {c : PolicyCollection} (h : c.IsProper) :
    ∃ json, c.toJson = .ok json ∧
      render c .cedar = .ok c.text ∧ render c .json = .ok (json.pretty "") ∧
      ∀ files cedarPath jsonPath,
        files.read cedarPath = .ok c.text → isJsonFile cedarPath = false →
        files.read jsonPath = .ok (json.pretty "") → isJsonFile jsonPath = true →
        ∃ s, loadStore files cedarPath = .ok s ∧ s.Holds c ∧
          (RequestFile.depthLimit ≤ json.depth →
            loadStore files jsonPath = .error (.policy (.policyParse (storeName jsonPath)))) ∧
          (json.depth < RequestFile.depthLimit →
            ∃ t, loadStore files jsonPath = .ok t ∧ t.Holds c ∧
              ∀ front back request entities, (evaluate (front ++ s :: back) request entities).Agrees
                (evaluate (front ++ t :: back) request entities)) := by
  have toJson := PolicyCollection.toJson_of_isProper h
  refine ⟨c.asCedar.toJson, toJson, rfl, by rw [render, toJson]; rfl, ?_⟩
  intro files cedarPath jsonPath holdsText other holdsJson json
  have loaded := loadStore_pretty h holdsJson json
  refine ⟨_, loadStore_text h holdsText other, Store.holds_ofPolicySet _ c, ?_, ?_⟩
  · intro deep
    rw [loaded, if_neg (Nat.not_lt.mpr deep)]
  · intro shallow
    rw [if_pos shallow] at loaded
    have same : (Store.ofPolicySet (storeName cedarPath) c.asCedar).HoldsSame
        (Store.ofPolicySet (storeName jsonPath) c.asCedar) := rfl
    exact ⟨_, loaded, Store.holds_ofPolicySet _ c, fun front back _ _ =>
      evaluate_exchange same front back⟩

/-- Strings, patterns and keys that are written differently in the two forms come out the same. -/
theorem loadStore_render_escaped :
    let p : CompiledPolicy :=
      { id := "view \"all\":ClusterRoleBinding:0.0"
        effect := .forbid
        principal := .within ⟨"k8s::Group", "a\nb\\"⟩
        action := .within [⟨"k8s::Action", "get"⟩, ⟨"k8s::Action", "\u007f"⟩]
        resource := .ofType "k8s::Resource"
        condition := .and (.like (.access .resource "a b") [.wildcard, .literal "*\"\t"])
          (.equal (.neg (.long 1)) (.record [("if", .decimal "1.5"), ("é", .set [])]))
        annotations := SortedMap.empty.insert CompiledPolicy.idKey "another" }
    let c : PolicyCollection := ⟨"bindings", ⟨[(p.id, p)], List.pairwise_singleton _ _⟩, by simp⟩
    let files : Files := fun path =>
      if path = "etc/all.cedar" then some c.text
      else if path = "all.json" then some (c.asCedar.toJson.pretty "") else none
    c.IsProper ∧ ∃ s t, loadStore files "etc/all.cedar" = .ok s ∧ loadStore files "all.json" = .ok t ∧
      s.Holds c ∧ t.Holds c ∧
      ∀ front back request entities, (evaluate (front ++ s :: back) request entities).Agrees
        (evaluate (front ++ t :: back) request entities) := by
  intro p c files
  have proper : c.IsProper := by
    intro q hq
    obtain rfl := List.mem_singleton.mp hq
    exact ⟨by decide, by decide, by decide, by decide, .inr (by decide)⟩
  obtain ⟨json, toJson, -, -, load⟩ := loadStore_render proper
  obtain rfl : c.asCedar.toJson = json :=
    Except.ok.inj ((PolicyCollection.toJson_of_isProper proper).symm.trans toJson)
  obtain ⟨s, loaded, holds, -, shallow⟩ :=
    load files "etc/all.cedar" "all.json" rfl (by decide +kernel) rfl (by decide +kernel)
  obtain ⟨t, loadedJson, holdsJson, agrees⟩ := shallow (by decide +kernel)
  exact ⟨proper, s, t, loaded, loadedJson, holds, holdsJson, agrees⟩

/-- A role with many paths that end in a star is converted to a JSON form that is not loaded. -/
theorem loadStore_globs :
    let urls := (List.range 64).map fun i => "/s" ++ toString i ++ "/*"
    let role : Rbac.Role := ⟨"ClusterRole", "probe", none, [⟨["get"], [], [], [], urls⟩]⟩
    let binding : Rbac.Binding := ⟨"probes", .clusterRoleBinding, ⟨"ClusterRole", "probe"⟩,
      [⟨.group, "devs", none⟩], none⟩
    let c := (Rbac.compileAll .default "rbac" [binding] [role]).collection
    c.IsProper ∧ ∃ json, c.toJson = .ok json ∧
      let files : Files := fun path =>
        if path = "rbac.cedar" then some c.text
        else if path = "rbac.json" then some (json.pretty "") else none
      (∃ s, loadStore files "rbac.cedar" = .ok s ∧ s.Holds c) ∧
        loadStore files "rbac.json" = .error (.policy (.policyParse "rbac")) := by
  intro urls role binding c
  have proper : c.IsProper := Rbac.isProper_compileAll (List.forall_mem_singleton.mpr (.inl rfl))
  have deep : RequestFile.depthLimit ≤ c.asCedar.toJson.depth := by decide +kernel
  refine ⟨proper, _, PolicyCollection.toJson_of_isProper proper, ?_, ?_⟩
  · exact ⟨_, loadStore_text proper rfl (by decide +kernel), Store.holds_ofPolicySet _ c⟩
  · have name : storeName "rbac.json" = "rbac" := by decide +kernel
    rw [loadStore_pretty proper rfl (by decide +kernel), if_neg (Nat.not_lt.mpr deep), name]

end Command

end ClusterPolicy
