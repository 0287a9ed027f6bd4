import ClusterPolicy.Proofs.Condition.Pattern
import ClusterPolicy.Proofs.Rbac.Identity

namespace ClusterPolicy.Rbac

open Cedar (Entities Request)
open Condition (both either)
open EntityBuilders (Asker Knows)

/-- An entry of a rule's paths stands for a path. All but a `*` at its end is taken as it is. -/
inductive StandsFor (path : String) : String → Prop
  | anything : StandsFor path "*"
  | itself : StandsFor path path
  | continued {front : String} (starts : front.toList <+: path.toList) : StandsFor path (front ++ "*")

/-- A rule grants a verb on a path. -/
structure Rule.GrantsPath (rule : Rule) (verb path : String) : Prop where
  verb : "*" ∈ rule.verbs ∨ verb ∈ rule.verbs
  url : ∃ url ∈ rule.nonResourceUrls, StandsFor path url

/-! ## The condition of the paths -/

/-- What the condition for an entry with a star at its end answers. -/
def globAnswer (path url : String) : Bool :=
  Cedar.PatternElem.accepts (Pattern.startingWith (String.ofList url.toList.dropLast)).elems path.toList

theorem isGlob_append (front : String) : isGlob (front ++ "*") = true := by
  simp [isGlob]

theorem eq_append_of_isGlob {url : String} (glob : isGlob url = true) :
    url = String.ofList url.toList.dropLast ++ "*" := by
  obtain ⟨front, split⟩ := List.getLast?_eq_some_iff.mp (of_decide_eq_true glob)
  apply String.toList_injective
  simp [split]

theorem globAnswer_iff {path url : String} :
    globAnswer path url = true ↔ url.toList.dropLast <+: path.toList := by
  rw [globAnswer, Pattern.accepts_startingWith, String.toList_ofList]

/-- An entry stands for what its condition asks for. -/
theorem standsFor_iff {path url : String} : StandsFor path url ↔
    if isGlob url then globAnswer path url = true else url = path := by
  split
  · rename_i glob
    rw [globAnswer_iff]
    constructor
    · intro stands
      cases stands with
      | anything => exact List.nil_prefix
      | itself => exact List.dropLast_prefix _
      | continued starts => simpa using starts
    · intro starts
      rw [eq_append_of_isGlob glob]
      exact .continued (by simpa using starts)
  · rename_i plain
    constructor
    · intro stands
      cases stands with
      | anything => exact absurd (isGlob_append "") plain
      | itself => rfl
      | continued => exact absurd (isGlob_append _) plain
    · rintro rfl
      exact .itself

section
variable {request : Request} {graph : Entities} {path : String}
  (found : graph.find? request.resource = some (EntityBuilders.nonResourceUrl path))
include found

theorem decides_glob (url : String) :
    (Condition.like (attr "path") (.startingWith (String.ofList url.toList.dropLast))).Decides
      request graph (globAnswer path url) :=
  (yields_attr found rfl : (attr "path").Yields request graph (.string path)).like _

/-- The two halves of the condition: entries with a star at the end, and others. -/
theorem decides_paths {globs plain : List String} (nonempty : globs ≠ [] ∨ plain ≠ []) :
    (either (.any (globs.map fun url =>
        Condition.like (attr "path") (.startingWith (String.ofList url.toList.dropLast))))
      (equalsAny (attr "path") plain)).Decides request graph
      (globs.any (globAnswer path) || plain.contains path) := by
  have among := decides_equalsAny
    (yields_attr found rfl : (attr "path").Yields request graph (.string path)) plain
  have like : ∀ url : String, (Condition.like (attr "path")
      (.startingWith (String.ofList url.toList.dropLast))).isProper = true := fun _ => rfl
  by_cases noGlob : globs = []
  · subst noGlob
    have somePlain : plain.isEmpty = false := by simpa using nonempty
    simpa [Condition.any, somePlain] using among
  have start := Condition.Decides.any (fun url _ => like url) (fun url _ => decides_glob found url) noGlob
  by_cases noPlain : plain = []
  · subst noPlain
    simpa [equalsAny] using start
  · rw [List.isEmpty_eq_false_iff.mpr noPlain, Bool.false_or] at among
    exact start.either among (Condition.isProper_any noGlob fun url _ => like url)
      (isProper_equalsAny rfl noPlain)

/-- The condition of a rule's paths holds of the paths that its entries stand for. -/
theorem holds_urlsCondition {urls : List String} (nonempty : urls ≠ []) :
    (urlsCondition urls).Holds request graph ↔ ∃ url ∈ urls, StandsFor path url := by
  by_cases wild : "*" ∈ urls
  · have all : urlsCondition urls = .empty := by
      simp [urlsCondition, isWildcard_reduceWildcard.mpr wild]
    rw [all]
    exact iff_of_true Condition.decides_empty ⟨"*", wild, .anything⟩
  have listed : isWildcard (distinct urls) = false := by
    rw [← reduceWildcard_of_notMem wild, ← Bool.not_eq_true, isWildcard_reduceWildcard]
    exact wild
  have some : (distinct urls).filter isGlob ≠ [] ∨ (distinct urls).filter (!isGlob ·) ≠ [] := by
    obtain ⟨url, mem⟩ := List.exists_mem_of_ne_nil urls nonempty
    have mem := mem_distinct.mpr mem
    cases glob : isGlob url with
    | true => exact .inl (List.ne_nil_of_mem (List.mem_filter.mpr ⟨mem, glob⟩))
    | false => exact .inr (List.ne_nil_of_mem (List.mem_filter.mpr ⟨mem, by simp [glob]⟩))
  simp only [urlsCondition, reduceWildcard_of_notMem wild, listed, Bool.false_eq_true, ↓reduceIte]
  rw [(decides_paths found some).holds_iff, Bool.or_eq_true, List.any_eq_true, List.contains_iff_mem]
  simp only [List.mem_filter, mem_distinct, standsFor_iff]
  constructor
  · rintro (⟨url, ⟨mem, glob⟩, answered⟩ | ⟨mem, plain⟩)
    · exact ⟨url, mem, by rwa [if_pos glob]⟩
    · exact ⟨path, mem, by rw [if_neg (by simpa using plain)]⟩
  · rintro ⟨url, mem, stands⟩
    split at stands
    · rename_i glob
      exact .inl ⟨url, ⟨mem, glob⟩, stands⟩
    · rename_i plain
      subst stands
      exact .inr ⟨mem, by simpa using plain⟩

end

/-! ## The permits of a rule -/

section
variable {settings : Settings} {origin : Origin} {principals : Principals} {rule : Rule}
  {p : CompiledPolicy} {request : Request} {graph : Entities}
  (emits : Emits settings origin principals rule p) (applies : p.Applies request graph)
include emits applies

/-- A rule with paths is about paths alone. -/
theorem type_of_applies_urls (listed : rule.nonResourceUrls ≠ []) :
    request.resource.type = EntityType.nonResourceUrl := by
  cases emits with
  | urls => exact beq_iff_eq.mp applies.resource
  | impersonation complete => exact absurd complete.noUrls listed
  | resources complete => exact absurd complete.noUrls listed

/-- A rule without paths is not about a path, unless one acts as someone else. -/
theorem acts_of_applies_path (unlisted : rule.nonResourceUrls = [])
    (type : request.resource.type = EntityType.nonResourceUrl) :
    request.action = EntityBuilders.action impersonateVerb := by
  cases emits with
  | urls _ listed => exact absurd unlisted listed
  | impersonation => exact beq_iff_eq.mp applies.action
  | resources =>
    exact absurd ((beq_iff_eq.mp applies.resource).symm.trans type)
      (by decide : EntityType.resource ≠ EntityType.nonResourceUrl)

end

section
variable {settings : Settings} {request : Request} {graph : Entities} {asker : Asker}
  {path verb : String}

/-- A verb other than impersonation is granted on a path by the permit for paths alone. -/
theorem applies_iff_grantsPath
    (knows : Knows graph asker (EntityBuilders.nonResourceUrl path) verb)
    (asks : request.principal = asker.entity.uid)
    (acts : request.action = EntityBuilders.action verb)
    (about : request.resource = (EntityBuilders.nonResourceUrl path).uid)
    (other : verb ≠ impersonateVerb) (subject : Subject) (rule : Rule) (origin : Origin) :
    (∃ principals p, Principals.of subject = .ok principals ∧
      Emits settings origin principals rule p ∧ p.Applies request graph) ↔
      subject.Matches asker ∧ rule.GrantsPath verb path := by
  have found : graph.find? request.resource = some (EntityBuilders.nonResourceUrl path) :=
    about ▸ knows.target
  have type : request.resource.type = EntityType.nonResourceUrl := about ▸ rfl
  rw [← principals_hold_iff knows.asker asks]
  constructor
  · rintro ⟨principals, p, stands, emits, applies⟩
    have listed : rule.nonResourceUrls ≠ [] := by
      intro unlisted
      have acted := acts.symm.trans (acts_of_applies_path emits applies unlisted type)
      exact other (congrArg Cedar.EntityUid.id acted)
    obtain ⟨principal, action, -, condition⟩ := applies
    cases emits with
    | urls =>
      obtain ⟨among, asked⟩ := Condition.holds_both.mp condition
      exact ⟨⟨principals, stands, principal, among⟩,
        (actionScope_holds_iff knows rule.verbs).mp (acts ▸ action),
        (holds_urlsCondition found listed).mp asked⟩
    | impersonation complete => exact absurd complete.noUrls listed
    | resources complete => exact absurd complete.noUrls listed
  · rintro ⟨⟨principals, stands, principal, among⟩, granted, url⟩
    have listed : rule.nonResourceUrls ≠ [] := by
      obtain ⟨url, mem, -⟩ := url
      exact List.ne_nil_of_mem mem
    have verbs : rule.verbs ≠ [] := granted.elim List.ne_nil_of_mem List.ne_nil_of_mem
    refine ⟨principals, _, stands, .urls verbs listed, principal, ?_, beq_iff_eq.mpr type, ?_⟩
    · rw [acts]
      exact (actionScope_holds_iff knows rule.verbs).mpr granted
    · exact Condition.holds_both.mpr ⟨among, (holds_urlsCondition found listed).mpr url⟩

end

/-- What a request about a path needs can be known, a binding's permits can be loaded into a store, and
then the store allows what a rule with paths grants to a subject, and nothing else. Of such a rule no
permit applies to anything but paths, and of another rule none applies to a path, unless one acts as
someone else. The kind of the role is the key of an annotation, which is written without quotes. -/
theorem allow_iff_grantsPath (settings : Settings) (binding : Binding) (role : Role)
    (ns : Option String) (asker : Asker) (path : String) {verb : String}
    (other : verb ≠ impersonateVerb) :
    (∃ graph, Entities.ofList? (asker.entities ++ [EntityBuilders.nonResourceUrl path]) = some graph ∧
      Knows graph asker (EntityBuilders.nonResourceUrl path) verb) ∧
    (Cedar.isIdent role.kind.toList = true →
      (∃ store, Store.ofCollection (compile settings binding role ns).collection = .ok store) ∧
      ∀ store graph context,
        Store.ofCollection (compile settings binding role ns).collection = .ok store →
        Knows graph asker (EntityBuilders.nonResourceUrl path) verb →
        ((evaluate [store] ⟨asker.entity.uid, EntityBuilders.action verb,
            (EntityBuilders.nonResourceUrl path).uid, context⟩ graph).verdict = .allow ↔
          ∃ subject ∈ binding.subjects, ∃ rule ∈ role.rules,
            subject.Matches asker ∧ rule.GrantsPath verb path)) ∧
    ∀ rule origin principals p, Emits settings origin principals rule p →
      ∀ request graph, p.Applies request graph →
        (rule.nonResourceUrls ≠ [] → request.resource.type = EntityType.nonResourceUrl) ∧
        (rule.nonResourceUrls = [] → request.resource.type = EntityType.nonResourceUrl →
          request.action = EntityBuilders.action impersonateVerb) := by
  refine ⟨?_, fun kind => ⟨Store.ofCollection_of_isProper (isProper_compile kind), ?_⟩, ?_⟩
  · exact EntityBuilders.exists_graph asker verb
      (by decide : EntityBuilders.isTarget EntityType.nonResourceUrl = true)
      (EntityBuilders.agrees_texts (List.nodup_singleton _)) rfl
  · intro store graph context loaded knows
    exact allow_iff_of_emits kind loaded fun subject rule origin _ =>
      applies_iff_grantsPath knows rfl rfl rfl other subject rule origin
  · intro rule origin principals p emits request graph applies
    exact ⟨type_of_applies_urls emits applies, acts_of_applies_path emits applies⟩

/-- A star within an entry is a star, and so are the characters that a text has to escape. -/
theorem allow_starred_path :
    let binding : Binding := ⟨"probes", .clusterRoleBinding, ⟨"ClusterRole", "probe"⟩,
      [⟨.group, "devs", none⟩], none⟩
    let rule : Rule := ⟨["get"], [], [], [], ["/healthz", "/a*\"\\é/*"]⟩
    let role : Role := ⟨"ClusterRole", "probe", none, [rule]⟩
    let asker : Asker := .user "alice" ["devs"]
    let url := EntityBuilders.nonResourceUrl "/a*\"\\é/b"
    "get" ≠ impersonateVerb ∧ ∃ store graph,
      Store.ofCollection (compile .default binding role none).collection = .ok store ∧
      Entities.ofList? (asker.entities ++ [url]) = some graph ∧
      (evaluate [store] ⟨asker.entity.uid, EntityBuilders.action "get", url.uid, []⟩ graph).verdict =
        .allow := by
  intro binding rule role asker url
  have other : "get" ≠ impersonateVerb := by decide
  obtain ⟨⟨graph, made, knows⟩, means, -⟩ :=
    allow_iff_grantsPath .default binding role none asker "/a*\"\\é/b" other
  obtain ⟨⟨store, loaded⟩, meaning⟩ := means (by decide)
  have stands : StandsFor "/a*\"\\é/b" ("/a*\"\\é/" ++ "*") := .continued (by decide)
  have grants : rule.GrantsPath "get" "/a*\"\\é/b" := ⟨.inr (by decide), _, by decide, stands⟩
  have allowed := (meaning store graph [] loaded knows).mpr
    ⟨_, List.mem_singleton.mpr rfl, rule, List.mem_singleton.mpr rfl, .group (by decide), grants⟩
  exact ⟨other, store, graph, loaded, made, allowed⟩

end ClusterPolicy.Rbac
