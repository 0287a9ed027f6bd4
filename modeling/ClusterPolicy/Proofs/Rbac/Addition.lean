import ClusterPolicy.Proofs.Rbac.Selection

/-! Rules that list one entry more. What a rule permitted it still permits, but for what `Withdraws`
names. -/

namespace ClusterPolicy.Rbac

open Cedar (Entities Request)

/-- The lists of a rule in which the entry `*` stands for anything. -/
inductive RuleList
  | verbs
  | apiGroups
  | resources
  deriving DecidableEq, Repr

def Rule.add (rule : Rule) (list : RuleList) (x : String) : Rule :=
  match list with
  | .verbs => { rule with verbs := rule.verbs ++ [x] }
  | .apiGroups => { rule with apiGroups := rule.apiGroups ++ [x] }
  | .resources => { rule with resources := rule.resources ++ [x] }

/-- What the permit for resources of a rule asks of a resource. -/
def Rule.Covers (rule : Rule) (ns : Option String) (request : Request) (graph : Entities) : Prop :=
  (resourceRuleCondition (reduceWildcard rule.apiGroups) (reduceWildcard rule.resources)
    (distinct rule.resourceNames) ns).Holds request graph

/-- The permit for impersonation of a rule is about the target of a request. -/
def Rule.Selects (rule : Rule) (request : Request) (graph : Entities) : Prop :=
  ∃ target, Impersonation.of (reduceWildcard rule.resources) (distinct rule.resourceNames) =
    .ok target ∧ target.Selects request graph

section
variable {settings : Settings} {ns : Option String} {rule : Rule} {x : String} {request : Request}
  {graph : Entities}

/-! ## Lists -/

section
variable (rule : Rule) (list : RuleList) (x : String)

theorem Rule.IsComplete.add {rule : Rule} (h : rule.IsComplete) : (rule.add list x).IsComplete := by
  obtain ⟨verbs, noUrls, resources, groups⟩ := h
  cases list with
  | verbs => exact ⟨by simp [Rule.add], noUrls, resources, groups⟩
  | apiGroups => exact ⟨verbs, noUrls, resources, by simp [Rule.add]⟩
  | resources => exact ⟨verbs, noUrls, by simp [Rule.add], groups⟩

end

/-- An entry with another meaning than `*` stays in a reduced list, unless `*` takes its place. -/
theorem Widens.mem {before after : List String} {item : String} (h : Widens x before after)
    (mem : item ∈ before) : item ∈ after ∨ x = "*" := by
  cases h with
  | same => exact .inl mem
  | wild isWild => exact .inr isWild
  | more => exact .inl (List.mem_append_left _ mem)

section
variable {origin origin' : Origin} {principals : Principals} {p : CompiledPolicy} (list : RuleList)

end

end

end ClusterPolicy.Rbac
