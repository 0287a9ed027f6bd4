import ClusterPolicy.Proofs.Collection.Loading
import ClusterPolicy.Proofs.Rbac.Compilation

namespace ClusterPolicy

theorem PolicyCollection.IsProper.insert {c d : PolicyCollection} {p : CompiledPolicy} (h : c.IsProper)
    (proper : p.IsProper) (inserted : c.insert p = .ok d) : d.IsProper := by
  intro q mem
  rcases eq_or_mem_of_insert inserted mem with rfl | mem
  · exact proper
  · exact h q mem

namespace Rbac

/-- What absorbs policies that can be written holds no others. -/
theorem isProper_absorb {c other : Compilation} (h : c.collection.IsProper)
    (proper : other.collection.IsProper) : (c.absorb other).collection.IsProper := by
  -- The policies come one by one, and one whose id is taken leaves the collection as it is.
  unfold Compilation.absorb
  refine List.foldlRecOn (motive := fun c : Compilation => c.collection.IsProper) _ _ h ?_
  intro c h p mem
  split
  · rename_i inserted
    exact h.insert (proper p mem) inserted
  · exact h

/-- The two kinds of roles that there are. -/
def Role.IsStandard (role : Role) : Prop := role.kind = "ClusterRole" ∨ role.kind = "Role"

theorem Role.IsStandard.isIdent_kind {role : Role} (h : role.IsStandard) :
    Cedar.isIdent role.kind.toList = true := by
  rcases h with kind | kind <;> rw [kind] <;> decide

/-- Several bindings yield policies that can be written, as each of them does. -/
theorem isProper_compileAll {settings : Settings} {name : String} {bindings : List Binding}
    {roles : List Role} (standard : ∀ role ∈ roles, role.IsStandard) :
    (compileAll settings name bindings roles).collection.IsProper := by
  unfold compileAll
  refine List.foldlRecOn (motive := fun c : Compilation => c.collection.IsProper) _ _ nofun ?_
  intro c h binding _
  split
  · rename_i role found
    have kind := (standard role (List.mem_of_find?_eq_some found)).isIdent_kind
    exact isProper_absorb h (isProper_compile kind)
  · -- A missing role is reported once for each subject.
    exact List.foldlRecOn (motive := fun c : Compilation => c.collection.IsProper) _ _ h
      fun _ h _ _ => h

/-- All that a binding to a role yields is taken by the engine, whatever the names, verbs, groups,
resources and paths are; and so is all that several bindings yield. -/
theorem isTaken_compile (settings : Settings) :
    (∀ binding role ns, role.IsStandard →
      ∃ set, (compile settings binding role ns).collection.IsTaken set) ∧
    ∀ name bindings roles, (∀ role ∈ roles, role.IsStandard) →
      ∃ set, (compileAll settings name bindings roles).collection.IsTaken set := by
  constructor
  · intro binding role ns standard
    exact PolicyCollection.exists_isTaken (isProper_compile standard.isIdent_kind)
  · intro name bindings roles standard
    exact PolicyCollection.exists_isTaken (isProper_compileAll standard)

/-- Also where names, verbs, groups, parts and paths hold quotation marks, backslashes and stars. -/
theorem isTaken_compile_quoted :
    let binding : Binding := ⟨"a\"b\\", .clusterRoleBinding, ⟨"ClusterRole", "\n"⟩,
      [⟨.user, "al\"ice*", none⟩], none⟩
    let rules : List Rule := [⟨["get"], ["a\"pps"], ["*/sta\\tus"], ["*\""], []⟩,
      ⟨["\\"], [], [], [], ["/a\"b/*"]⟩]
    let role : Role := ⟨"ClusterRole", "\n", none, rules⟩
    let ids := ["a\"b\\:ClusterRoleBinding/nonresource:0.1", "a\"b\\:ClusterRoleBinding:0.0"]
    (∃ set, (compile .default binding role none).collection.IsTaken set ∧ set.keys = ids) ∧
      ∃ set, (compileAll .default "all" [binding] [role]).collection.IsTaken set ∧
        set.keys = ids := by
  intro binding rules role ids
  obtain ⟨one, several⟩ := isTaken_compile .default
  constructor
  · obtain ⟨set, taken⟩ := one binding role none (.inl rfl)
    have keys : (compile .default binding role none).collection.policies.keys = ids := by
      decide +kernel
    exact ⟨set, taken, taken.keys.trans keys⟩
  · obtain ⟨set, taken⟩ := several "all" [binding] [role] (List.forall_mem_singleton.mpr (.inl rfl))
    have keys : (compileAll .default "all" [binding] [role]).collection.policies.keys = ids := by
      decide +kernel
    exact ⟨set, taken, taken.keys.trans keys⟩

end Rbac

end ClusterPolicy
