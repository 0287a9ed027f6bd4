import ClusterPolicy.Command.Conversion
import ClusterPolicy.Manifest.Reading
import ClusterPolicy.Proofs.Manifest

/-! Manifest files load as the leaves that they hold, however these are arranged. -/

namespace ClusterPolicy.Command

open Manifest (Ails ClusterObject Delivers FlattenAll Flattens Fits Keeps Problem Reads Readers)

/-- The files at the paths hold the leaves in this order, each beside the path of its file. -/
inductive Arranged (readers : Readers) (files : Files) : List String → List (String × Yaml) → Prop
  | nil : Arranged readers files [] []
  | cons {path text : String} {paths : List String} {documents leaves : List Yaml}
      {placed : List (String × Yaml)} (found : files path = some text)
      (delivers : Delivers readers text documents) (flatten : FlattenAll documents leaves)
      (others : Arranged readers files paths placed) :
      Arranged readers files (path :: paths) (leaves.map (path, ·) ++ placed)

variable {readers : Readers}

theorem exists_arranged {files : Files} {paths : List String}
    (each : ∀ path ∈ paths, ∃ text documents, files path = some text ∧ Delivers readers text documents) :
    ∃ placed, Arranged readers files paths placed := by
  induction paths with
  | nil => exact ⟨[], .nil⟩
  | cons path paths ih =>
    obtain ⟨⟨text, documents, found, delivers⟩, others⟩ := List.forall_mem_cons.mp each
    obtain ⟨leaves, flatten⟩ := Manifest.exists_flattenAll documents
    obtain ⟨placed, arranged⟩ := ih others
    exact ⟨_, .cons found delivers flatten arranged⟩

theorem Arranged.single {files : Files} {paths : List String} {placed : List (String × Yaml)}
    (arranged : Arranged readers files paths placed) :
    ∀ leaf ∈ placed.map (·.2), leaf.isNull = false ∧ Manifest.kind? leaf ≠ some "List" := by
  induction arranged with
  | nil => nofun
  | cons _ _ flatten _ ih =>
    rw [List.map_append, List.map_map]
    exact List.forall_mem_append.mpr ⟨by simpa using flatten.single, ih⟩

/-- Leaves in one file that holds nothing else. -/
theorem arranged_stream {files : Files} {path text : String} {leaves : List Yaml}
    (found : files path = some text) (delivers : Delivers readers text leaves)
    (single : ∀ leaf ∈ leaves, leaf.isNull = false ∧ Manifest.kind? leaf ≠ some "List") :
    Arranged readers files [path] (leaves.map (path, ·)) := by
  have arranged := Arranged.cons found delivers (Manifest.flattenAll_self single) .nil
  rwa [List.append_nil] at arranged

/-- Adds the object of a leaf in the file at a path. -/
def place (readers : Readers) (m : Manifests) (leaf : String × Yaml) : Except Error Manifests :=
  match Manifest.read readers leaf.2 with
  | .ok object => .ok (object.elim m m.add)
  | .error problem => .error (.invalidManifest leaf.1 problem)

theorem foldlM_place (m : Manifests) (path : String) (leaves : List Yaml) :
    (leaves.map (path, ·)).foldlM (place readers) m =
      match (leaves.forM (Manifests.addObject readers)).run m with
      | .ok () m => .ok m
      | .error problem _ => .error (.invalidManifest path problem) := by
  induction leaves generalizing m with
  | nil => rfl
  | cons leaf leaves ih =>
    rw [List.map_cons, List.foldlM_cons, place, List.forM_eq_forM, List.forM_cons, Manifests.addObject]
    rcases Manifest.read readers leaf with problem | object
    · rfl
    · exact ih (object.elim m m.add)

theorem loadManifest_eq {files : Files} {path text : String} {documents leaves : List Yaml}
    (found : files path = some text) (delivers : Delivers readers text documents)
    (flatten : FlattenAll documents leaves) (m : Manifests) :
    loadManifest readers files m path = (leaves.map (path, ·)).foldlM (place readers) m := by
  rw [foldlM_place, ← Manifests.addText_of_flattenAll delivers flatten]
  simp only [loadManifest, Files.read, found]
  rfl

theorem foldlM_loadManifest {files : Files} {paths : List String} {placed : List (String × Yaml)}
    (arranged : Arranged readers files paths placed) (m : Manifests) :
    paths.foldlM (loadManifest readers files) m = placed.foldlM (place readers) m := by
  induction arranged generalizing m with
  | nil => rfl
  | cons found delivers flatten _ ih =>
    rw [List.foldlM_cons, List.foldlM_append, loadManifest_eq found delivers flatten]
    exact bind_congr ih

theorem foldlM_place_of_keeps {placed : List (String × Yaml)} {objects : List ClusterObject}
    (keeps : Keeps readers (placed.map (·.2)) objects) (m : Manifests) :
    placed.foldlM (place readers) m = .ok (objects.foldl Manifests.add m) := by
  induction placed generalizing objects m with
  | nil => cases keeps; rfl
  | cons leaf placed ih =>
    rw [List.foldlM_cons, place]
    cases keeps with
    | @kept _ _ object _ _ known taken others =>
      rw [Manifest.read_of_reads known taken]
      exact ih others (m.add object)
    | passed known other others =>
      rw [Manifest.read_of_notMem known other]
      exact ih others m

theorem foldlM_place_of_ails {before after : List (String × Yaml)} {path : String} {leaf : Yaml}
    {problem : Problem} (fits : ∀ l ∈ before, Fits readers l.2) (ails : Ails readers leaf problem)
    (m : Manifests) :
    (before ++ (path, leaf) :: after).foldlM (place readers) m = .error (.invalidManifest path problem) := by
  obtain ⟨objects, keeps⟩ := Manifest.exists_keeps (List.forall_mem_map.mpr fits)
  rw [List.foldlM_append, foldlM_place_of_keeps keeps]
  change List.foldlM (place readers) _ _ = _
  rw [List.foldlM_cons, place, Manifest.read_of_ails ails]
  rfl

/-- What is wrong, wherever it is. -/
def Error.problem? : Error → Option Problem
  | .invalidManifest _ problem => some problem
  | _ => none

theorem mapError_foldlM_place {placed others : List (String × Yaml)}
    (same : others.map (·.2) = placed.map (·.2)) (m : Manifests) :
    (others.foldlM (place readers) m).mapError Error.problem? =
      (placed.foldlM (place readers) m).mapError Error.problem? := by
  induction placed generalizing others m with
  | nil => rw [List.map_nil, List.map_eq_nil_iff] at same; rw [same]
  | cons leaf placed ih =>
    obtain ⟨other, others, rfl, here, later⟩ := List.map_eq_cons_iff.mp same
    rw [List.foldlM_cons, List.foldlM_cons, place, place, here]
    rcases Manifest.read readers leaf.2 with problem | object
    · rfl
    · exact ih later _

theorem exists_first_unfit {placed : List (String × Yaml)} (unfit : ¬∀ leaf ∈ placed, Fits readers leaf.2) :
    ∃ before leaf after, placed = before ++ leaf :: after ∧
      (∀ l ∈ before, Fits readers l.2) ∧ ¬Fits readers leaf.2 := by
  induction placed with
  | nil => exact absurd nofun unfit
  | cons leaf placed ih =>
    by_cases fits : Fits readers leaf.2
    · have later : ¬∀ l ∈ placed, Fits readers l.2 := fun others =>
        unfit (List.forall_mem_cons.mpr ⟨fits, others⟩)
      obtain ⟨before, first, after, rfl, fit, misfit⟩ := ih later
      exact ⟨leaf :: before, first, after, rfl, List.forall_mem_cons.mpr ⟨fits, fit⟩, misfit⟩
    · exact ⟨[], leaf, placed, rfl, nofun, fits⟩

section
variable {files : Files} {paths : List String} {placed : List (String × Yaml)}

theorem loadManifests_eq (arranged : Arranged readers files paths placed) :
    loadManifests readers files paths = placed.foldlM (place readers) .empty :=
  foldlM_loadManifest arranged _

theorem loadManifests_of_keeps (arranged : Arranged readers files paths placed)
    {objects : List ClusterObject} (keeps : Keeps readers (placed.map (·.2)) objects) :
    loadManifests readers files paths = .ok (.ofObjects objects) := by
  rw [loadManifests_eq arranged, foldlM_place_of_keeps keeps]
  exact congrArg _ (Manifests.foldl_add_ofObjects [] objects)

/-- What is wrong with the first leaf that does not fit is what the files fail with. -/
theorem loadManifests_of_unfit (arranged : Arranged readers files paths placed)
    {before after : List (String × Yaml)} {path : String} {leaf : Yaml}
    (split : placed = before ++ (path, leaf) :: after) (fits : ∀ l ∈ before, Fits readers l.2)
    (unfit : ¬Fits readers leaf) :
    ∃ problem, Ails readers leaf problem ∧
      loadManifests readers files paths = .error (.invalidManifest path problem) := by
  obtain ⟨problem, ails⟩ := Manifest.exists_ails unfit
  refine ⟨problem, ails, (loadManifests_eq arranged).trans ?_⟩
  rw [split]
  exact foldlM_place_of_ails fits ails .empty

theorem fits_of_loadManifests (arranged : Arranged readers files paths placed) {m : Manifests}
    (loaded : loadManifests readers files paths = .ok m) : ∀ leaf ∈ placed, Fits readers leaf.2 := by
  by_contra unfit
  obtain ⟨before, ⟨path, leaf⟩, after, split, fits, misfit⟩ := exists_first_unfit unfit
  obtain ⟨problem, -, failed⟩ := loadManifests_of_unfit arranged split fits misfit
  cases loaded.symm.trans failed

/-- The arrangement of leaves shows in nothing but the path of the file that does not load. -/
theorem mapError_loadManifests (arranged : Arranged readers files paths placed) {others : Files}
    {otherPaths : List String} {otherPlaced : List (String × Yaml)}
    (otherwise : Arranged readers others otherPaths otherPlaced)
    (same : otherPlaced.map (·.2) = placed.map (·.2)) :
    (loadManifests readers others otherPaths).mapError Error.problem? =
      (loadManifests readers files paths).mapError Error.problem? := by
  rw [loadManifests_eq arranged, loadManifests_eq otherwise]
  exact mapError_foldlM_place same _

end

/-- Files whose texts can be read hold leaves. They load if all of these fit, whatever lists, documents
and files they stand in, and else fail with what is wrong with the first that does not. -/
theorem loadManifests_arranged (readers : Readers) (files : Files) (paths : List String) :
    ((∀ path ∈ paths, ∃ text documents, files path = some text ∧ Delivers readers text documents) →
      ∃ placed, Arranged readers files paths placed) ∧
    ∀ placed, Arranged readers files paths placed →
      ((∃ m, loadManifests readers files paths = .ok m) ↔ ∀ leaf ∈ placed, Fits readers leaf.2) ∧
      (∀ m, loadManifests readers files paths = .ok m ↔
        ∃ objects, Keeps readers (placed.map (·.2)) objects ∧ m = .ofObjects objects) ∧
      (∀ before path leaf after, placed = before ++ (path, leaf) :: after →
        (∀ l ∈ before, Fits readers l.2) → ¬Fits readers leaf →
          ∃ problem, Ails readers leaf problem ∧
            loadManifests readers files paths = .error (.invalidManifest path problem)) ∧
      (∀ others otherPaths otherPlaced, Arranged readers others otherPaths otherPlaced →
        otherPlaced.map (·.2) = placed.map (·.2) →
          (loadManifests readers others otherPaths).mapError Error.problem? =
            (loadManifests readers files paths).mapError Error.problem?) ∧
      ∀ others path text, others path = some text → Delivers readers text (placed.map (·.2)) →
        (loadManifests readers others [path]).mapError Error.problem? =
          (loadManifests readers files paths).mapError Error.problem? := by
  refine ⟨exists_arranged, fun placed arranged => ?_⟩
  have loads : ∀ m, loadManifests readers files paths = .ok m ↔
      ∃ objects, Keeps readers (placed.map (·.2)) objects ∧ m = .ofObjects objects := by
    intro m
    constructor
    · intro loaded
      have fits := fits_of_loadManifests arranged loaded
      obtain ⟨objects, keeps⟩ := Manifest.exists_keeps (List.forall_mem_map.mpr fits)
      exact ⟨objects, keeps, Except.ok.inj (loaded.symm.trans (loadManifests_of_keeps arranged keeps))⟩
    · rintro ⟨objects, keeps, rfl⟩
      exact loadManifests_of_keeps arranged keeps
  refine ⟨⟨?_, ?_⟩, loads, ?_, ?_, ?_⟩
  · rintro ⟨m, loaded⟩
    exact fits_of_loadManifests arranged loaded
  · intro fits
    obtain ⟨objects, keeps⟩ := Manifest.exists_keeps (List.forall_mem_map.mpr fits)
    exact ⟨_, loadManifests_of_keeps arranged keeps⟩
  · exact fun _ _ _ _ split fits unfit => loadManifests_of_unfit arranged split fits unfit
  · exact fun _ _ _ otherwise same => mapError_loadManifests arranged otherwise same
  · intro others path text found delivers
    refine mapError_loadManifests arranged (arranged_stream found delivers arranged.single) ?_
    rw [List.map_map]
    exact List.map_id _

set_option maxRecDepth 4000 in
/-- Lists in a list hold what a stream does, and of two leaves that do not fit the first one counts. -/
theorem loadManifests_arranged_nested :
    let nested := "kind: List\nitems:\n- null\n- kind: List\n  items:\n  - kind: Role\n    metadata:\n" ++
      "      name: r\n    rules:\n    - verbs: [get]\n  - kind: List\n- kind: A\n- kind: RoleBinding\n" ++
      "  subjects:\n  - kind: User\n    name: u\n  - kind: B"
    let stream := "kind: Role\nmetadata:\n  name: r\nrules:\n- verbs: [get]\n---\nkind: A\n---\n" ++
      "kind: RoleBinding\nsubjects:\n- kind: User\n  name: u\n- kind: B"
    let unfit := "kind: List\n---\nkind: List\nitems:\n- kind: Role\n  rules: 1\n- rules: []"
    let files : Files := fun path =>
      if path = "nested" then some nested else if path = "stream" then some stream else some unfit
    let m : Manifests := {
      roles := [⟨"Role", "r", some "", [⟨["get"], [], [], [], []⟩]⟩]
      bindings := [⟨"", .roleBinding, ⟨"", ""⟩, [⟨.user, "u", none⟩], some ""⟩]
      admissionPolicies := [] }
    loadManifests .standard files ["nested"] = .ok m ∧
    (loadManifests .standard files ["stream"]).mapError Error.problem? = .ok m ∧
    loadManifests .standard files ["nested", "unfit"] = .error (.invalidManifest "unfit"
      (.misfit "Role" "invalid type: integer `1`, expected a sequence")) := by
  intro nested stream unfit files m
  let entry (key text : String) : String × Yaml := (key, .scalar text true)
  let list (items : List Yaml) : Yaml := .mapping [entry "kind" "List", ("items", .sequence items)]
  let role : Yaml := .mapping [entry "kind" "Role", ("metadata", .mapping [entry "name" "r"]),
    ("rules", .sequence [.mapping [("verbs", .sequence [.scalar "get" true])]])]
  let other : Yaml := .mapping [entry "kind" "A"]
  let binding : Yaml := .mapping [entry "kind" "RoleBinding",
    ("subjects", .sequence [.mapping [entry "kind" "User", entry "name" "u"], .mapping [entry "kind" "B"]])]
  let bare : Yaml := .mapping [entry "kind" "List"]
  let misfit : Yaml := .mapping [entry "kind" "Role", entry "rules" "1"]
  let kindless : Yaml := .mapping [("rules", .sequence [])]
  let outer : Yaml := list [.scalar "null" true, list [role, bare], other, binding]
  have ofNested : Delivers .standard nested [outer] :=
    Manifest.delivers_standard (by subst nested; cbv) (by decide +kernel)
  have ofStream : Delivers .standard stream [role, other, binding] :=
    Manifest.delivers_standard (by subst stream; cbv) (by decide +kernel)
  have ofUnfit : Delivers .standard unfit [bare, list [misfit, kindless]] :=
    Manifest.delivers_standard (by subst unfit; cbv) (by decide +kernel)
  have nothing : Flattens bare [] := .list rfl .nil
  have alone (leaf : Yaml) (mem : leaf ∈ [role, other, binding, misfit, kindless]) : Flattens leaf [leaf] := by
    have single : leaf.isNull = false ∧ Manifest.kind? leaf ≠ some "List" := by
      revert leaf
      simp only [List.forall_mem_cons]
      decide +kernel
    exact .leaf single.1 single.2
  have inner : Flattens (list [role, bare]) [role] :=
    .list rfl (.cons (alone role (by simp)) (.cons nothing .nil))
  have fromOuter : Flattens outer [role, other, binding] :=
    .list rfl (.cons (.null rfl) (.cons inner
      (.cons (alone other (by simp)) (.cons (alone binding (by simp)) .nil))))
  have fromUnfit : Flattens (list [misfit, kindless]) [misfit, kindless] :=
    .list rfl (.cons (alone misfit (by simp)) (.cons (alone kindless (by simp)) .nil))
  have keeps : Keeps .standard [role, other, binding]
      [.role ⟨"Role", "r", some "", [⟨["get"], [], [], [], []⟩]⟩,
        .binding ⟨"", .roleBinding, ⟨"", ""⟩, [⟨.user, "u", none⟩], some ""⟩] :=
    .kept rfl .role (.passed rfl (by decide) (.kept rfl .roleBinding .nil))
  have arranged : Arranged .standard files ["nested"]
      [("nested", role), ("nested", other), ("nested", binding)] :=
    .cons (if_pos rfl) ofNested (.cons fromOuter .nil) .nil
  obtain ⟨loads, holds, -, -, streams⟩ := (loadManifests_arranged .standard files ["nested"]).2 _ arranged
  have loaded : loadManifests .standard files ["nested"] = .ok m := (holds m).mpr ⟨_, keeps, rfl⟩
  refine ⟨loaded, ?_, ?_⟩
  · rw [streams files "stream" stream ((if_neg (by decide)).trans (if_pos rfl)) ofStream, loaded]
    rfl
  · have arranged : Arranged .standard files ["nested", "unfit"] [("nested", role), ("nested", other),
        ("nested", binding), ("unfit", misfit), ("unfit", kindless)] :=
      .cons (if_pos rfl) ofNested (.cons fromOuter .nil)
        (.cons ((if_neg (by decide)).trans (if_neg (by decide))) ofUnfit
          (.cons nothing (.cons fromUnfit .nil)) .nil)
    obtain ⟨-, -, fails, -⟩ := (loadManifests_arranged .standard files ["nested", "unfit"]).2 _ arranged
    have ails : Ails .standard misfit
        (.misfit "Role" "invalid type: integer `1`, expected a sequence") :=
      .misfit rfl .role
    obtain ⟨problem, found, failed⟩ := fails _ "unfit" misfit [("unfit", kindless)] rfl
      (loads.mp ⟨m, loaded⟩) ails.not_fits
    cases (Manifest.read_of_ails ails).symm.trans (Manifest.read_of_ails found)
    exact failed

end ClusterPolicy.Command
