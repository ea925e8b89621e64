import NodeLifecycle.Proofs.Lifecycle.CallOrder
import NodeLifecycle.Proofs.Lifecycle.TrackedProducers

/-!
# Passes with work

A pass has work if it makes a call or brings a helper.  Entering the tree has work if a member is
filled or is a hook, being ready if a member is a hook.  Leaving the tree also has work for the
resources of the other two passes and for what is replaced on demand.
-/

namespace NodeLifecycle

theorem LifecycleModel.hasWork_iff {model : LifecycleModel} :
    model.hasWork = true ↔
      (∃ call, call ∈ model.calls) ∨ ∃ helper, helper ∈ model.helpers := by
  rw [hasWork, Bool.or_eq_true, Bool.not_eq_true', Bool.not_eq_true',
    List.isEmpty_eq_false_iff_exists_mem, List.isEmpty_eq_false_iff_exists_mem]

namespace TypeDecl

variable {decl : TypeDecl} {framework : Framework} {table : SymbolTable} {pass : Pass}

theorem exists_mem_sceneInjections_iff :
    (∃ injection, injection ∈ decl.sceneInjections framework) ↔
      ∃ member ∈ decl.members, framework.isFilled member = true := by
  have same_length := congrArg List.length (decl.map_member_sceneInjections framework)
  rw [List.length_map, List.length_map] at same_length
  rw [← List.length_pos_iff_exists_mem, same_length, List.length_pos_iff_exists_mem]
  simp only [List.mem_filter]

theorem exists_hookCall?_iff (table : SymbolTable) :
    (∃ call, ∃ member ∈ decl.members, framework.hookCall? table pass member = some call) ↔
      ∃ member ∈ decl.members, framework.isHookOf pass member = true := by
  simp only [Framework.hookCall?_eq_ite, Option.ite_none_right_eq_some]
  constructor
  · rintro ⟨call, member, declared, hook, -⟩
    exact ⟨member, declared, hook⟩
  · rintro ⟨member, declared, hook⟩
    exact ⟨_, member, declared, hook, rfl⟩

/-- A class has resources if a producer is a hook of one of the first two passes or is replaced on
demand. -/
theorem entries_disposalPlan_ne_nil_iff :
    (decl.disposalPlan framework table).entries ≠ [] ↔
      ∃ member ∈ decl.members, framework.produces table member = true ∧
        (framework.carries member.attributes .autoDispose = true ∨
          framework.carries member.attributes .onEnterTree = true ∨
            framework.carries member.attributes .onReady = true) := by
  have tracked_iff (member : Member) :
      (framework.tracks table .enterTree member = true ∨
          framework.tracks table .ready member = true) ↔
        framework.produces table member = true ∧
          (framework.carries member.attributes .autoDispose = true ∨
            framework.carries member.attributes .onEnterTree = true ∨
              framework.carries member.attributes .onReady = true) := by
    simp only [Framework.tracks, Pass.allowsResources, Pass.marker, Bool.and_true,
      Bool.and_eq_true, Bool.or_eq_true, ← and_or_left]
    rw [← or_or_distrib_left]
  simp only [← tracked_iff]
  constructor
  · intro some_entry
    obtain ⟨entry, listed⟩ := List.exists_mem_of_ne_nil _ some_entry
    obtain ⟨first, found, -⟩ := exists_firstTracked?_of_mem_entries listed
    rw [firstTracked?, Option.or_eq_some_iff] at found
    obtain enter | ⟨-, ready⟩ := found
    · have tracked := List.find?_some enter
      rw [Bool.and_eq_true] at tracked
      exact ⟨first, List.mem_of_find?_eq_some enter, Or.inl tracked.1⟩
    · have tracked := List.find?_some ready
      rw [Bool.and_eq_true] at tracked
      exact ⟨first, List.mem_of_find?_eq_some ready, Or.inr tracked.1⟩
  · rintro ⟨member, declared, tracked⟩
    obtain ⟨entry, listed, -⟩ := exists_entry_of_tracks declared tracked
    exact List.ne_nil_of_mem listed

theorem exists_mem_disposalHelpers_iff {plan : DisposalPlan} :
    (∃ helper, helper ∈ disposalHelpers plan) ↔ plan.entries ≠ [] := by
  simp only [mem_disposalHelpers]
  constructor
  · rintro ⟨helper, ⟨some_entry, -⟩ | ⟨entry, listed, -⟩⟩
    · exact some_entry
    · exact List.ne_nil_of_mem listed
  · intro some_entry
    exact ⟨_, Or.inl ⟨some_entry, rfl⟩⟩

theorem hasWork_enterTree_iff :
    (decl.lifecycleModel framework table .enterTree).hasWork = true ↔
      ∃ member ∈ decl.members,
        framework.isFilled member = true ∨ framework.isHookOf .enterTree member = true := by
  have called : (∃ call, call ∈ (decl.lifecycleModel framework table .enterTree).calls) ↔
      (∃ member ∈ decl.members, framework.isHookOf .enterTree member = true) ∨
        ∃ injection, injection ∈ decl.sceneInjections framework := by
    rw [← exists_hookCall?_iff table]
    simp [mem_calls_lifecycleModel, exists_or]
  have helped : (∃ helper, helper ∈ (decl.lifecycleModel framework table .enterTree).helpers) ↔
      ∃ injection, injection ∈ decl.sceneInjections framework := by
    simp [mem_helpers_lifecycleModel]
  rw [LifecycleModel.hasWork_iff, called, helped, or_assoc, or_self,
    exists_mem_sceneInjections_iff, or_comm]
  simp only [and_or_left, exists_or]

theorem hasWork_ready_iff :
    (decl.lifecycleModel framework table .ready).hasWork = true ↔
      ∃ member ∈ decl.members, framework.isHookOf .ready member = true := by
  rw [LifecycleModel.hasWork_iff, ← exists_hookCall?_iff table]
  simp [mem_calls_lifecycleModel, mem_helpers_lifecycleModel]

theorem hasWork_exitTree_iff :
    (decl.lifecycleModel framework table .exitTree).hasWork = true ↔
      (∃ member ∈ decl.members, framework.isHookOf .exitTree member = true) ∨
        (decl.disposalPlan framework table).entries ≠ [] := by
  have called : (∃ call, call ∈ (decl.lifecycleModel framework table .exitTree).calls) ↔
      (∃ member ∈ decl.members, framework.isHookOf .exitTree member = true) ∨
        (decl.disposalPlan framework table).entries ≠ [] := by
    rw [← exists_hookCall?_iff table]
    simp [mem_calls_lifecycleModel, exists_or]
  have helped : (∃ helper, helper ∈ (decl.lifecycleModel framework table .exitTree).helpers) ↔
      (decl.disposalPlan framework table).entries ≠ [] := by
    rw [← exists_mem_disposalHelpers_iff]
    simp [mem_helpers_lifecycleModel]
  rw [LifecycleModel.hasWork_iff, called, helped, or_assoc, or_self]

end TypeDecl
end NodeLifecycle
