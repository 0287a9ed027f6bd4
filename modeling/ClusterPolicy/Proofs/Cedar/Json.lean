import ClusterPolicy.Cedar.Policy.Json
import ClusterPolicy.Proofs.CompiledPolicy.Statement
import ClusterPolicy.Proofs.Json.Reader
import ClusterPolicy.Proofs.Number.Long

namespace ClusterPolicy

namespace Cedar

open Json (IsExact)

theorem mapM_eq_some {α β : Type} {f : α → Option β} {g : α → β} {l : List α}
    (each : ∀ a ∈ l, f a = some (g a)) : l.mapM f = some (l.map g) := by
  induction l with
  | nil => rfl
  | cons a l ih =>
    obtain ⟨first, others⟩ := List.forall_mem_cons.mp each
    rw [List.mapM_cons, first, ih others]
    rfl

theorem mapM_eq_self {α : Type} {f : α → Option α} {l : List α} (each : ∀ a ∈ l, f a = some a) :
    l.mapM f = some l := by
  have mapped : l.mapM f = some (l.map id) := mapM_eq_some each
  rwa [List.map_id] at mapped

theorem forall_right {α β : Type} {R : α → β → Prop} {P : β → Prop} {l : List α} {u : List β}
    (h : List.Forall₂ R l u) (each : ∀ a b, R a b → P b) : ∀ b ∈ u, P b :=
  ((List.forall₂_and_left (R := fun _ _ => True) _ _).mp
    (h.flip.imp fun b a r => ⟨each a b r, trivial⟩)).1

/-! ## Expressions -/

theorem isExact_fields {k k' : String} {v v' : Json} (h : v.IsExact) (h' : v'.IsExact) :
    (Json.object [(k, v), (k', v')]).IsExact := by
  refine .object ?_
  simp only [List.forall_mem_cons]
  exact ⟨h, h', nofun⟩

theorem isExact_member {k : String} {v : Json} (h : v.IsExact) : (Json.object [(k, v)]).IsExact :=
  .object (List.forall_mem_singleton.mpr h)

theorem EntityUid.isExact_toJson (uid : EntityUid) : uid.toJson.IsExact :=
  isExact_fields (.string _) (.string _)

theorem EntityUid.ofJson?_toJson {uid : EntityUid} (h : isName uid.type = true) :
    ofJson? uid.toJson = some uid := by
  simp [ofJson?, toJson, Json.get?, Json.member?, h]

theorem PatternElem.isExact_toJson (e : PatternElem) : e.toJson.IsExact := by
  cases e with
  | char c => exact isExact_member (.string _)
  | wildcard => exact .string _

theorem PatternElem.ofJson?_toJson (e : PatternElem) : ofJson? e.toJson = some [e] := by
  cases e with
  | char c => simp [toJson, ofJson?]
  | wildcard => rfl

theorem Operator.ofKey?_key (op : Operator) : ofKey? op.key = some op := by
  cases op <;> decide

theorem Var.ofName?_name (v : Var) : ofName? v.name = some v := by
  cases v <;> decide

namespace Expr

-- Every lemma below opens these.
attribute [simp] toJson pair ofJson? ofValue? membersOfJson ofOperands?

/-- The expression is read back from its JSON form. -/
structure Encodes (e : Expr) : Prop where
  exact : e.toJson.IsExact
  decodes : ofJson? e.toJson = some e

theorem encodes_bool (b : Bool) : (bool b).Encodes :=
  ⟨isExact_member (.bool b), by simp⟩

theorem encodes_long (n : Int64) : (long n).Encodes :=
  ⟨isExact_member (.int _), by simp [Number.long?_toInt]⟩

theorem encodes_string (text : String) : (string text).Encodes :=
  ⟨isExact_member (.string _), by simp⟩

theorem encodes_entity {uid : EntityUid} (h : isName uid.type = true) : (entity uid).Encodes :=
  ⟨isExact_member (isExact_member uid.isExact_toJson),
    by simp [Json.member?, EntityUid.ofJson?_toJson h]⟩

theorem encodes_var (v : Var) : (var v).Encodes :=
  ⟨isExact_member (.string _), by simp [v.ofName?_name]⟩

theorem itemsToJson_eq (items : List Expr) : itemsToJson items = items.map toJson := by
  induction items with
  | nil => rfl
  | cons e items ih => rw [itemsToJson, ih, List.map_cons]

theorem fieldsToJson_eq (fields : List (String × Expr)) :
    fieldsToJson fields = fields.map fun f => (f.1, f.2.toJson) := by
  induction fields with
  | nil => rfl
  | cons f fields ih => rw [fieldsToJson, ih, List.map_cons]

theorem itemsOfJson_eq (items : List Json) : itemsOfJson items = items.map ofJson? := by
  induction items with
  | nil => rfl
  | cons json items ih => rw [itemsOfJson, ih, List.map_cons]

theorem membersOfJson_eq (members : List (String × Json)) :
    membersOfJson members = members.map fun m => (m.1, ofJson? m.2) := by
  induction members with
  | nil => rfl
  | cons m members ih => rw [membersOfJson, ih, List.map_cons]

theorem encodes_set {items : List Expr} (each : ∀ e ∈ items, e.Encodes) : (set items).Encodes := by
  refine ⟨?_, ?_⟩
  · rw [toJson, itemsToJson_eq]
    exact isExact_member (.array (List.forall_mem_map.mpr fun e mem => (each e mem).exact))
  · have read : items.mapM (ofJson? ∘ toJson) = some items :=
      mapM_eq_self fun e mem => (each e mem).decodes
    simp [itemsToJson_eq, itemsOfJson_eq, read]

theorem encodes_record {fields : List (String × Expr)} (distinct : (fields.map (·.1)).Nodup)
    (each : ∀ f ∈ fields, f.2.Encodes) : (record fields).Encodes := by
  refine ⟨?_, ?_⟩
  · rw [toJson, fieldsToJson_eq]
    exact isExact_member (.object (List.forall_mem_map.mpr fun f mem => (each f mem).exact))
  · have keys : ((fieldsToJson fields).map (·.1)).Nodup := by
      rwa [fieldsToJson_eq, List.map_map]
    have read : (membersOfJson (fieldsToJson fields)).mapM (fun m => (m.1, ·) <$> m.2) =
        some fields := by
      rw [fieldsToJson_eq, membersOfJson_eq, List.map_map, List.mapM_map]
      exact mapM_eq_self fun f mem => by simp [(each f mem).decodes]
    rw [toJson, ofJson?, recordOf?, if_pos keys, read]
    rfl

theorem encodes_decimal (text : String) : (decimal (string text)).Encodes :=
  ⟨isExact_member (.array (List.forall_mem_singleton.mpr (encodes_string text).exact)),
    by simp⟩

section
variable {a b c : Expr} (ha : a.Encodes) (hb : b.Encodes) (hc : c.Encodes)
include ha

theorem Encodes.not : (not a).Encodes :=
  ⟨isExact_member (isExact_member ha.exact),
    by simp [ha.decodes]⟩

theorem Encodes.neg : (neg a).Encodes :=
  ⟨isExact_member (isExact_member ha.exact),
    by simp [ha.decodes]⟩

theorem Encodes.has (attr : String) : (has a attr).Encodes :=
  ⟨isExact_member (isExact_fields ha.exact (.string _)),
    by simp [List.lookup_cons, ha.decodes, Json.string?]⟩

theorem Encodes.access (attr : String) : (access a attr).Encodes :=
  ⟨isExact_member (isExact_fields ha.exact (.string _)),
    by simp [List.lookup_cons, ha.decodes, Json.string?]⟩

theorem Encodes.is {type : String} (name : isName type = true) : (is a type).Encodes :=
  ⟨isExact_member (isExact_fields ha.exact (.string _)),
    by simp [List.lookup_cons, ha.decodes, Json.string?, name]⟩

theorem Encodes.like (pattern : List PatternElem) : (like a pattern).Encodes := by
  refine ⟨isExact_member (isExact_fields ha.exact
    (.array (List.forall_mem_map.mpr fun e _ => e.isExact_toJson))), ?_⟩
  have read : (pattern.map PatternElem.toJson).mapM PatternElem.ofJson? = some (pattern.map ([·])) := by
    rw [List.mapM_map]
    exact mapM_eq_some fun e _ => e.ofJson?_toJson
  have elems : (pattern.map ([·])).flatten = pattern := by
    rw [← List.flatMap_def, List.flatMap_singleton']
  simp [List.lookup_cons, ha.decodes, Json.array?, read, elems]

include hb

theorem Encodes.and : (and a b).Encodes :=
  ⟨isExact_member (isExact_fields ha.exact hb.exact),
    by simp [List.lookup_cons, ha.decodes, hb.decodes]⟩

theorem Encodes.or : (or a b).Encodes :=
  ⟨isExact_member (isExact_fields ha.exact hb.exact),
    by simp [List.lookup_cons, ha.decodes, hb.decodes]⟩

theorem Encodes.binary (op : Operator) : (binary op a b).Encodes := by
  refine ⟨isExact_member (isExact_fields ha.exact hb.exact), ?_⟩
  have known := op.ofKey?_key
  cases op <;>
    simp_all [Operator.key, List.lookup_cons, ha.decodes, hb.decodes]

include hc

theorem Encodes.ite : (ite a b c).Encodes := by
  refine ⟨isExact_member (.object ?_), ?_⟩
  · simp only [List.forall_mem_cons]
    exact ⟨ha.exact, hb.exact, hc.exact, nofun⟩
  · simp [List.lookup_cons, ha.decodes, hb.decodes, hc.decodes]

end

/-- What a condition stands for is read back from its JSON form. -/
theorem encodes_of_toExpr? {c : Condition} {e : Expr} (h : c.toExpr? = some e) : e.Encodes := by
  apply Condition.toExpr?_induction (motive := fun _ e => e.Encodes) <;> intros
  case h => exact h
  case empty => exact encodes_bool true
  case var v => exact encodes_var v
  case bool b => exact encodes_bool b
  case long n => exact encodes_long n
  case string s => exact encodes_string s
  case decimal text => exact encodes_decimal text
  case entity uid name => exact encodes_entity name
  case and ha hb => exact ha.and hb
  case or ha hb => exact ha.or hb
  case not ha => exact ha.not
  case negLong n _ => exact encodes_long (-n)
  case neg _ ha => exact ha.neg
  case binary ha hb => exact ha.binary hb _
  case like pattern ha => exact ha.like pattern.elems
  case has attr ha => exact ha.has attr
  case access attr ha => exact ha.access attr
  case is name ha => exact ha.is name
  case ite hc ha hb => exact hc.ite ha hb
  case set h => exact encodes_set (forall_right h fun _ _ encodes => encodes)
  case record fields es distinct h =>
    have keys : fields.map (·.1) = es.map (·.1) := by
      rw [← List.forall₂_eq_eq_eq, List.forall₂_map_left_iff, List.forall₂_map_right_iff]
      exact h.imp fun _ _ => And.left
    exact encodes_record (keys ▸ distinct) (forall_right h fun _ _ both => both.2)

end Expr

/-! ## Scopes -/

open CompiledPolicy (actionIsValid isActionType scopeIsValid)

theorem Scope.isExact_toJson (scope : Scope) : scope.toJson.IsExact := by
  cases scope with
  | any => exact isExact_member (.string _)
  | equal uid | within uid => exact isExact_fields (.string _) uid.isExact_toJson
  | ofType type => exact isExact_fields (.string _) (.string _)

theorem Scope.ofJson?_toJson {scope : Scope} (h : scopeIsValid scope = true) :
    ofJson? scope.toJson = some scope := by
  cases scope with
  | any => rfl
  | equal uid | within uid =>
    have read : EntityUid.ofJson? uid.toJson = some uid := EntityUid.ofJson?_toJson h
    simp [toJson, ofJson?, Json.get?, Json.member?, Json.string?, read]
  | ofType type =>
    have name : isName type = true := h
    simp [toJson, ofJson?, Json.get?, Json.member?, Json.string?, name]

theorem actionOfJson?_toJson {uid : EntityUid} (h : isActionType uid.type = true) :
    actionOfJson? uid.toJson = some uid := by
  obtain ⟨name, last⟩ := Bool.and_eq_true_iff.mp h
  simp [actionOfJson?, EntityUid.ofJson?_toJson name, of_decide_eq_true last]

theorem ActionScope.isExact_toJson (scope : ActionScope) : scope.toJson.IsExact := by
  unfold toJson
  split
  · exact isExact_member (.string _)
  · exact isExact_fields (.string _) (EntityUid.isExact_toJson _)
  · exact isExact_fields (.string _) (EntityUid.isExact_toJson _)
  · exact isExact_fields (.string _)
      (.array (List.forall_mem_map.mpr fun uid _ => uid.isExact_toJson))

theorem ActionScope.ofJson?_toJson {scope : ActionScope} (h : actionIsValid scope = true) :
    ofJson? scope.toJson = some scope := by
  unfold toJson
  split
  · rfl
  · rename_i uid
    simp [ofJson?, Json.get?, Json.member?, Json.string?, actionOfJson?_toJson h]
  · rename_i uid
    have valid : isActionType uid.type = true := by simpa [actionIsValid] using h
    simp [ofJson?, Json.get?, Json.member?, Json.string?, actionOfJson?_toJson valid]
  · rename_i uids _
    have read : (uids.map EntityUid.toJson).mapM actionOfJson? = some uids := by
      rw [List.mapM_map]
      exact mapM_eq_self fun uid mem => actionOfJson?_toJson (List.all_eq_true.mp h uid mem)
    simp [ofJson?, Json.get?, Json.member?, Json.string?, Json.array?, read]

/-! ## Policies -/

theorem Clause.isExact_toJson {clause : Clause} (h : clause.body.Encodes) : clause.toJson.IsExact :=
  isExact_fields (.string _) h.exact

theorem Clause.ofJson?_toJson {clause : Clause} (h : clause.body.Encodes) :
    ofJson? clause.toJson = some clause := by
  obtain ⟨negated, body⟩ := clause
  cases negated <;> simp [ofJson?, toJson, Json.get?, Json.member?, Json.string?, h.decodes]

theorem effectOfName?_name (e : Effect) : effectOfName? e.name = some e := by
  cases e <;> rfl

/-- The members that a map is written as. -/
theorem distinctMembers?_entries {α : Type} (m : SortedMap α) (write : α → Json) :
    (Json.object (m.entries.map fun (key, value) => (key, write value))).distinctMembers? =
      some (m.entries.map fun (key, value) => (key, write value)) := by
  have keys : (m.entries.map fun (key, value) => (key, write value)).map (·.1) = m.keys := by
    rw [List.map_map]
    rfl
  have distinct : m.keys.Nodup := SortedMap.nodup_keys m.increasing
  exact if_pos (keys ▸ distinct)

theorem annotationsOfJson?_entries {annotations : SortedMap String}
    (keys : ∀ e ∈ annotations.entries, isIdent e.1.toList = true) :
    annotationsOfJson? (.object (annotations.entries.map fun (key, value) => (key, .string value))) =
      some annotations := by
  rw [annotationsOfJson?, distinctMembers?_entries annotations, Option.bind_eq_bind, Option.bind_some,
    List.mapM_map, mapM_eq_self]
  · exact congrArg some annotations.ofList_entries
  · intro e mem
    simp [keys e mem, Json.string?]

namespace Policy

/-- The policy is read back from its JSON form, under its id. -/
structure Encodes (p : Policy) : Prop where
  exact : p.toJson.IsExact
  decodes : ofJson? p.id p.toJson = some p

theorem encodes {p : Policy} (principal : scopeIsValid p.principal = true)
    (action : actionIsValid p.action = true) (resource : scopeIsValid p.resource = true)
    (keys : ∀ e ∈ p.annotations.entries, isIdent e.1.toList = true)
    (bodies : ∀ clause ∈ p.clauses, clause.body.Encodes) : p.Encodes := by
  refine ⟨?_, ?_⟩
  · refine .object ?_
    simp only [List.forall_mem_cons]
    exact ⟨.string _, p.principal.isExact_toJson, p.action.isExact_toJson, p.resource.isExact_toJson,
      .array (List.forall_mem_map.mpr fun clause mem => Clause.isExact_toJson (bodies clause mem)),
      .object (List.forall_mem_map.mpr fun _ _ => .string _), nofun⟩
  · have members : membersAmong?
        ["effect", "principal", "action", "resource", "conditions", "annotations"] p.toJson =
      some [("effect", .string p.effect.name), ("principal", p.principal.toJson),
        ("action", p.action.toJson), ("resource", p.resource.toJson),
        ("conditions", .array (p.clauses.map Clause.toJson)),
        ("annotations",
          .object (p.annotations.entries.map fun (key, value) => (key, .string value)))] := rfl
    have clauses : (p.clauses.map Clause.toJson).mapM Clause.ofJson? = some p.clauses := by
      rw [List.mapM_map]
      exact mapM_eq_self fun clause mem => Clause.ofJson?_toJson (bodies clause mem)
    simp only [ofJson?, members, List.lookup_cons, String.reduceBEq, Option.bind_eq_bind, Option.bind_some,
      Option.getD_some, Json.string?, Json.array?, effectOfName?_name, annotationsOfJson?_entries keys,
      Scope.ofJson?_toJson principal, ActionScope.ofJson?_toJson action, Scope.ofJson?_toJson resource,
      clauses]
    rfl

end Policy

end Cedar

/-! ## Compiled policies -/

/-- Every policy that can be written is read back from its JSON form. -/
theorem CompiledPolicy.encodes_asCedar {p : CompiledPolicy} (h : p.IsProper) : p.asCedar.Encodes := by
  refine Cedar.Policy.encodes h.principal h.action h.resource ?_ ?_
  · intro e mem
    rcases SortedMap.mem_insertAll mem with none | written
    · cases none
    · exact writtenAnnotations_ident h.head e written
  · intro clause mem
    have clauses := clauses?_of_isProper h
    rcases conditionLexemes_of_clauses? clauses with ⟨-, none⟩ | ⟨e, stands, one, -⟩
    · simp [none] at mem
    · obtain rfl : clause = ⟨false, e⟩ := by simpa [one] using mem
      exact Cedar.Expr.encodes_of_toExpr? stands

/-! ## Sets of policies -/

namespace Cedar.PolicySet

/-- Every policy of the set stands under its id and is read back from its JSON form. -/
def Encodes (set : PolicySet) : Prop := ∀ e ∈ set.entries, e.1 = e.2.id ∧ e.2.Encodes

theorem Encodes.exact {set : PolicySet} (h : set.Encodes) : set.toJson.IsExact := by
  refine .object ?_
  simp only [List.forall_mem_cons]
  exact ⟨.object (List.forall_mem_map.mpr fun e mem => (h e mem).2.exact), .object nofun, .array nofun,
    nofun⟩

/-- So is a set of such policies, each under its id. -/
theorem Encodes.decodes {set : PolicySet} (h : set.Encodes) : ofJson? set.toJson = some set := by
  have members : membersAmong? ["staticPolicies", "templates", "templateLinks"] set.toJson =
      some [("staticPolicies", .object (set.entries.map fun e => (e.1, e.2.toJson))),
        ("templates", .object []), ("templateLinks", .array [])] := rfl
  have read : set.entries.mapM ((fun e => (Policy.ofJson? e.1 e.2).map (e.1, ·)) ∘
      fun e => (e.1, e.2.toJson)) = some set.entries := by
    refine mapM_eq_self fun e mem => ?_
    obtain ⟨key, encodes⟩ := h e mem
    simp [key, encodes.decodes, Prod.ext_iff]
  have statics := distinctMembers?_entries set Policy.toJson
  simp [ofJson?, members, List.lookup_cons, statics, read, SortedMap.ofList_entries]

end Cedar.PolicySet

end ClusterPolicy
