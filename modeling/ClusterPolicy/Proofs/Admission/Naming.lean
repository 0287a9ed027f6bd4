import ClusterPolicy.Proofs.Admission.Meaning
import ClusterPolicy.Proofs.Cedar.Name
import ClusterPolicy.Proofs.Cedar.Unnamed

/-! Which resources have a type that can be named. -/

namespace ClusterPolicy.Admission

open Cedar (isName isNameSegment keywords segments)

/-! ## Labels and words -/

/-- A label of a domain: lower case letters, digits, and `-` within. -/
structure IsLabel (label : List Char) : Prop where
  nonempty : label ≠ []
  chars : ∀ c ∈ label, c.isLower = true ∨ c.isDigit = true ∨ c = '-'
  first : label.head? ≠ some '-'
  last : label.getLast? ≠ some '-'

/-- A word of lower case letters and digits, a letter in front. -/
structure IsWord (word : List Char) : Prop where
  first : word.head?.any Char.isLower = true
  chars : ∀ c ∈ word, c.isLower = true ∨ c.isDigit = true

/-- A label that an entity type can have as a part. -/
structure IsUsable (label : List Char) : Prop where
  unbroken : '-' ∉ label
  first : label.head?.any Char.isDigit = false
  unreserved : String.ofList label ∉ keywords

-- The characters are looked at one by one: the instance that is found by itself tries all that are.
instance : DecidablePred IsLabel := fun label =>
  have : Decidable (∀ c ∈ label, c.isLower = true ∨ c.isDigit = true ∨ c = '-') :=
    List.decidableBAll _ label
  decidable_of_iff (label ≠ [] ∧ (∀ c ∈ label, c.isLower = true ∨ c.isDigit = true ∨ c = '-') ∧
      label.head? ≠ some '-' ∧ label.getLast? ≠ some '-')
    ⟨fun ⟨nonempty, chars, first, last⟩ => ⟨nonempty, chars, first, last⟩,
      fun h => ⟨h.nonempty, h.chars, h.first, h.last⟩⟩

instance : DecidablePred IsWord := fun word =>
  have : Decidable (∀ c ∈ word, c.isLower = true ∨ c.isDigit = true) := List.decidableBAll _ word
  decidable_of_iff (word.head?.any Char.isLower = true ∧
      ∀ c ∈ word, c.isLower = true ∨ c.isDigit = true)
    ⟨fun ⟨first, chars⟩ => ⟨first, chars⟩, fun h => ⟨h.first, h.chars⟩⟩

instance : DecidablePred IsUsable := fun label =>
  decidable_of_iff ('-' ∉ label ∧ label.head?.any Char.isDigit = false ∧
      String.ofList label ∉ keywords)
    ⟨fun ⟨unbroken, first, unreserved⟩ => ⟨unbroken, first, unreserved⟩,
      fun h => ⟨h.unbroken, h.first, h.unreserved⟩⟩

theorem IsWord.exists_cons {word : List Char} (h : IsWord word) :
    ∃ c rest, word = c :: rest ∧ c.isLower = true := by
  cases word with
  | nil => cases h.first
  | cons c rest => exact ⟨c, rest, rfl, h.first⟩

theorem identStart_of_isLower {c : Char} (h : c.isLower = true) : Cedar.identStart c = true :=
  Cedar.identStart_iff.mpr (.inr (.inr (Text.isLower_iff.mp h)))

/-- Among the characters of a label, a part of an identifier has all but `-`. -/
theorem identPart_iff {c : Char} (h : c.isLower = true ∨ c.isDigit = true ∨ c = '-') :
    Cedar.identPart c = true ↔ c ≠ '-' := by
  constructor
  · rintro part rfl
    cases part
  · intro other
    rcases h with lower | digit | same
    · exact Cedar.identPart_iff.mpr (.inl (identStart_of_isLower lower))
    · simp [Cedar.identPart, Char.isAlphanum, digit]
    · exact absurd same other

theorem identStart_iff {c : Char} (h : c.isLower = true ∨ c.isDigit = true ∨ c = '-') :
    Cedar.identStart c = true ↔ c.isDigit = false ∧ c ≠ '-' := by
  constructor
  · intro start
    refine ⟨?_, by rintro rfl; cases start⟩
    rw [Bool.eq_false_iff]
    intro digit
    have range := Text.isDigit_iff.mp digit
    simp only [Cedar.identStart, Bool.or_eq_true, decide_eq_true_eq] at start
    rcases start with rfl | alpha
    · revert range
      decide
    · have letter := Text.isAlpha_iff.mp alpha
      omega
  · rintro ⟨notDigit, other⟩
    rcases h with lower | digit | same
    · exact identStart_of_isLower lower
    · simp [notDigit] at digit
    · exact absurd same other

/-- Only hyphens, a digit in front and reserved words keep a label from being part of a type. -/
theorem isNameSegment_iff {label : List Char} (nonempty : label ≠ [])
    (chars : ∀ c ∈ label, c.isLower = true ∨ c.isDigit = true ∨ c = '-') :
    isNameSegment label = true ↔ IsUsable label := by
  obtain ⟨c, rest, rfl⟩ := List.exists_cons_of_ne_nil nonempty
  obtain ⟨start, others⟩ := List.forall_mem_cons.mp chars
  have parts : (∀ d ∈ rest, Cedar.identPart d = true) ↔ '-' ∉ rest := by
    constructor
    · intro all mem
      exact (identPart_iff (others _ mem)).mp (all _ mem) rfl
    · intro unbroken d mem
      refine (identPart_iff (others d mem)).mpr ?_
      rintro rfl
      exact unbroken mem
  have internal : String.ofList (c :: rest) ≠ "__cedar" := by
    intro same
    have head : c = '_' := by
      have texts := congrArg String.toList same
      rw [String.toList_ofList] at texts
      exact (List.cons.inj texts).1
    subst head
    revert start
    decide
  have reserved : ("__cedar" :: keywords).contains (String.ofList (c :: rest)) = false ↔
      String.ofList (c :: rest) ∉ keywords := by
    rw [← Bool.not_eq_true, List.contains_iff_mem, List.mem_cons, not_or, and_iff_right internal]
  simp only [isNameSegment, Cedar.isIdent, Bool.and_eq_true, Bool.not_eq_true', List.all_eq_true,
    identStart_iff start, parts, reserved]
  constructor
  · rintro ⟨⟨⟨notDigit, other⟩, unbroken⟩, unreserved⟩
    exact ⟨by simp [Ne.symm other, unbroken], notDigit, unreserved⟩
  · rintro ⟨unbroken, notDigit, unreserved⟩
    simp only [List.mem_cons, not_or] at unbroken
    exact ⟨⟨⟨notDigit, Ne.symm unbroken.1⟩, unbroken.2⟩, unreserved⟩

theorem isNameSegment_of_isWord {word : List Char} (h : IsWord word) :
    isNameSegment word = true ↔ String.ofList word ∉ keywords := by
  obtain ⟨c, rest, rfl, letter⟩ := h.exists_cons
  rw [isNameSegment_iff (List.cons_ne_nil c rest) fun d mem => (h.chars d mem).imp_right .inl]
  refine ⟨IsUsable.unreserved, fun unreserved => ⟨?_, ?_, unreserved⟩⟩
  · intro mem
    exact absurd (h.chars _ mem) (by decide)
  · -- The letters come behind the digits.
    have lower := Text.isLower_iff.mp letter
    rw [List.head?_cons, Option.any_some, ← Bool.not_eq_true, Text.isDigit_iff]
    omega

/-! ## Parts that break off -/

theorem isRough_of_isLabel {label : List Char} (h : IsLabel label) : Cedar.IsRough label := by
  obtain ⟨c, rest, rfl⟩ := List.exists_cons_of_ne_nil h.nonempty
  have part : ∀ d ∈ c :: rest, Cedar.identPart d = true ∨ d = '-' := fun d mem =>
    (em (d = '-')).symm.imp_left (identPart_iff (h.chars d mem)).mpr
  exact ⟨(part c List.mem_cons_self).resolve_right fun same => h.first (congrArg some same), part⟩

theorem isRough_of_isNameSegment {s : List Char} (h : isNameSegment s = true) : Cedar.IsRough s := by
  simp only [isNameSegment, Bool.and_eq_true] at h
  obtain ⟨c, rest, rfl, start, parts⟩ := Cedar.isIdent_cons h.1
  have first : Cedar.identPart c = true := Cedar.identPart_iff.mpr (.inl start)
  exact ⟨first, List.forall_mem_cons.mpr ⟨.inl first, fun d mem => .inl (parts d mem)⟩⟩

theorem isRough_of_isWord {word : List Char} (h : IsWord word) : Cedar.IsRough word := by
  have part : ∀ c ∈ word, Cedar.identPart c = true := by
    intro c mem
    refine (identPart_iff ((h.chars c mem).imp_right .inl)).mpr ?_
    rintro rfl
    exact absurd (h.chars _ mem) (by decide)
  obtain ⟨c, rest, rfl, -⟩ := h.exists_cons
  exact ⟨part c List.mem_cons_self, fun d mem => .inl (part d mem)⟩

/-! ## Kinds -/

/-- The kind of a resource's type. -/
def kindOf (settings : Settings) (resource : String) : String :=
  (settings.kindOf? resource).getD (Text.capitalize resource)

/-- A lower case letter has one upper case letter. -/
theorem uppercase_of_isLower {c : Char} (h : c.isLower = true) :
    ∃ d, Text.uppercase c = [d] ∧ d.isUpper = true := by
  have table : ∀ n < 26, Text.uppercase (Char.ofNat (97 + n)) = [Char.ofNat (65 + n)] ∧
      (Char.ofNat (65 + n)).isUpper = true := by decide +kernel
  have range := Text.isLower_iff.mp h
  have entry := table (c.toNat - 97) (by omega)
  rw [Nat.add_sub_cancel' range.1, Char.ofNat_toNat] at entry
  exact ⟨_, entry⟩

/-- A kind is no reserved word, since these are in lower case. -/
theorem isNameSegment_capitalize {word : String} (h : IsWord word.toList) :
    isNameSegment (Text.capitalize word).toList = true := by
  obtain ⟨c, rest, isCons, letter⟩ := h.exists_cons
  obtain ⟨-, others⟩ := List.forall_mem_cons.mp (isCons ▸ h.chars)
  obtain ⟨d, isUpper, upper⟩ := uppercase_of_isLower letter
  have capital : (Text.capitalize word).toList = d :: rest := by
    rw [Text.capitalize, isCons]
    simp [isUpper]
  have start : Cedar.identStart d = true := by
    have range := Text.isUpper_iff.mp upper
    exact Cedar.identStart_iff.mpr (.inr (.inl range))
  have parts : ∀ e ∈ rest, Cedar.identPart e = true := by
    intro e mem
    refine (identPart_iff ((others e mem).imp_right .inl)).mpr ?_
    rintro rfl
    exact absurd (others _ mem) (by decide)
  have unreserved : String.ofList (d :: rest) ∉ "__cedar" :: keywords := by
    intro mem
    have lower : ∀ k ∈ "__cedar" :: keywords, k.toList.head?.any Char.isUpper = false := by decide
    have notUpper := lower _ mem
    rw [String.toList_ofList, List.head?_cons, Option.any_some, upper] at notUpper
    cases notUpper
  rw [capital, isNameSegment, Cedar.isIdent, start, List.all_eq_true.mpr parts]
  simpa only [Bool.true_and, Bool.not_eq_true', ← Bool.not_eq_true, List.contains_iff_mem] using unreserved

/-- Whether a kind is given or inferred. -/
theorem isNameSegment_kind {resource : String} (h : IsWord resource.toList) :
    isNameSegment (kindOf .default resource).toList = true := by
  unfold kindOf
  cases found : Settings.default.kindOf? resource with
  | none => exact isNameSegment_capitalize h
  | some kind =>
    have given : ∀ e ∈ Settings.defaultKinds, isNameSegment e.2.toList = true := by
      decide +kernel
    have mem := SortedMap.mem_insertAll (SortedMap.mem_of_find? found)
    exact given _ (mem.resolve_left List.not_mem_nil)

/-! ## Types -/

/-- The labels of an API group; the core group has none. -/
def labels (group : String) : List (List Char) :=
  if group = "" then [] else group.toList.splitOn '.'

/-- The parts of a group's types. -/
def groupParts (group : String) : List (List Char) :=
  if group = "" then ["core".toList] else (labels group).reverse

theorem groupParts_ne_nil (group : String) : groupParts group ≠ [] := by
  unfold groupParts labels
  split
  · exact List.cons_ne_nil _ _
  · exact List.reverse_ne_nil_iff.mpr (List.splitOn_ne_nil _ _)

theorem toList_groupPath (group : String) :
    (groupPath group).toList = [':', ':'].intercalate (groupParts group) := by
  unfold groupPath groupParts labels
  split
  · rfl
  · have texts : ((group.toList.splitOn '.').map String.ofList).reverse.map String.toList =
        (group.toList.splitOn '.').reverse := by
      rw [← List.map_reverse, List.map_map]
      exact (List.map_congr_left fun _ _ => String.toList_ofList).trans (List.map_id _)
    rw [String.toList_intercalate, texts]
    rfl

theorem segments_typeName {group version resource : String} {settings : Settings}
    (plain : ∀ s ∈ groupParts group, ':' ∉ s) (inVersion : ':' ∉ version.toList)
    (inKind : ':' ∉ (kindOf settings resource).toList) :
    segments (typeName settings group version resource).toList =
      groupParts group ++ [version.toList, (kindOf settings resource).toList] := by
  have parts : (typeName settings group version resource).toList =
      [':', ':'].intercalate (groupParts group) ++
        ':' :: ':' :: (version.toList ++ ':' :: ':' :: (kindOf settings resource).toList) := by
    simp [typeName, toList_groupPath, kindOf]
  rw [parts, Cedar.segments_intercalate (groupParts_ne_nil group) plain,
    Cedar.segments_append inVersion, Cedar.segments_of_notMem inKind]

/-- The core group's types are names; another group's are if its labels can be parts. -/
theorem isNameSegment_groupParts {group : String} (h : ∀ label ∈ labels group, IsLabel label) :
    (∀ s ∈ groupParts group, isNameSegment s = true) ↔ ∀ label ∈ labels group, IsUsable label := by
  by_cases core : group = ""
  · have isCore : isNameSegment "core".toList = true := by decide
    simpa [groupParts, labels, core] using isCore
  · simp only [groupParts, core, ↓reduceIte, List.mem_reverse]
    exact forall₂_congr fun label mem => isNameSegment_iff (h label mem).nonempty (h label mem).chars

section
variable {group version resource : String} (hg : ∀ label ∈ labels group, IsLabel label)
  (hv : IsWord version.toList) (hr : IsWord resource.toList)
include hg hv hr

theorem segments_typeName_of_legal : segments (typeName .default group version resource).toList =
    groupParts group ++ [version.toList, (kindOf .default resource).toList] := by
  refine segments_typeName ?_ (fun colon => absurd (hv.chars _ colon) (by decide))
    (Cedar.colon_notMem_of_isNameSegment (isNameSegment_kind hr))
  intro s mem colon
  unfold groupParts at mem
  split at mem
  · obtain rfl := List.mem_singleton.mp mem
    exact absurd colon (by decide)
  · exact absurd ((hg s (List.mem_reverse.mp mem)).chars _ colon) (by decide)

/-- Under the default kinds, the group and the version decide whether a resource has a type that is a
name. -/
theorem isName_typeName : isName (typeName .default group version resource) = true ↔
    (∀ label ∈ labels group, IsUsable label) ∧ version ∉ keywords := by
  rw [isName, segments_typeName_of_legal hg hv hr, List.all_eq_true]
  simp only [List.forall_mem_append, List.forall_mem_cons, isNameSegment_groupParts hg,
    isNameSegment_of_isWord hv, String.ofList_toList]
  exact and_congr_right fun _ => and_iff_left ⟨isNameSegment_kind hr, nofun⟩

/-- Of the characters in the parts of a type, only `-` breaks a part off. -/
theorem isRough_typeName :
    ∀ s ∈ segments (typeName .default group version resource).toList, Cedar.IsRough s := by
  rw [segments_typeName_of_legal hg hv hr]
  simp only [List.forall_mem_append, List.forall_mem_cons]
  refine ⟨fun s mem => ?_, isRough_of_isWord hv, isRough_of_isNameSegment (isNameSegment_kind hr), nofun⟩
  unfold groupParts at mem
  split at mem
  · obtain rfl := List.mem_singleton.mp mem
    exact isRough_of_isNameSegment (by decide)
  · exact isRough_of_isLabel (hg s (List.mem_reverse.mp mem))

end

end ClusterPolicy.Admission
