import NodeLifecycle.Proofs.Lifecycle.HookCalls

/-!
# What the passes call and declare

The calls and the helpers of each pass, kind by kind.  Only entering the tree fills members, and
only leaving it releases resources and declares what belongs to them.
-/

namespace NodeLifecycle
namespace TypeDecl

variable {decl : TypeDecl} {framework : Framework} {table : SymbolTable} {pass : Pass}
  {plan : DisposalPlan} {method : String}

/-! ## Calls -/

/-- A pass calls its hooks; entering the tree also fills members, and leaving it also releases the
resources if there are any. -/
theorem mem_calls_lifecycleModel {call : HookCall} :
    call ∈ (decl.lifecycleModel framework table pass).calls ↔
      (∃ member ∈ decl.members, framework.hookCall? table pass member = some call) ∨
        (pass = .enterTree ∧
          ∃ injection ∈ decl.sceneInjections framework, .initFromScene injection.member = call) ∨
        (pass = .exitTree ∧ (decl.disposalPlan framework table).entries ≠ [] ∧
          .disposeAll = call) := by
  rw [← mem_hookCalls]
  cases pass with
  | enterTree =>
      simp only [lifecycleModel, enterTreeModel, LifecycleModel.calls_ofParts, List.mem_append,
        List.mem_map, true_and, reduceCtorEq, false_and, or_false]
      exact or_comm
  | ready => simp [lifecycleModel, readyModel]
  | exitTree =>
      simp only [lifecycleModel, exitTreeModel, LifecycleModel.calls_ofParts, List.mem_append,
        DisposalPlan.isEmpty, List.isEmpty_iff, reduceCtorEq, false_and, true_and, false_or]
      by_cases untracked : (decl.disposalPlan framework table).entries = []
      · simp [untracked]
      · simp [untracked, eq_comm]

theorem initFromScene_mem_calls_iff {member : String} :
    .initFromScene member ∈ (decl.lifecycleModel framework table pass).calls ↔
      pass = .enterTree ∧
        ∃ injection ∈ decl.sceneInjections framework, injection.member = member := by
  simp [mem_calls_lifecycleModel, Framework.hookCall?_ne_initFromScene]

theorem acquire_mem_calls_iff :
    .acquire method ∈ (decl.lifecycleModel framework table pass).calls ↔
      ∃ member ∈ decl.members, framework.callsProducer table pass member = true ∧
        framework.isUpdatable table member = false ∧ member.name = method := by
  simp [mem_calls_lifecycleModel, Framework.hookCall?_eq_some_acquire_iff]

theorem update_mem_calls_iff :
    .update method ∈ (decl.lifecycleModel framework table pass).calls ↔
      ∃ member ∈ decl.members, framework.carries member.attributes pass.marker = true ∧
        framework.isUpdatable table member = true ∧ member.name = method := by
  simp [mem_calls_lifecycleModel, Framework.hookCall?_eq_some_update_iff]

theorem disposeAll_mem_calls_iff :
    .disposeAll ∈ (decl.lifecycleModel framework table pass).calls ↔
      pass = .exitTree ∧ (decl.disposalPlan framework table).entries ≠ [] := by
  simp [mem_calls_lifecycleModel, Framework.hookCall?_ne_disposeAll]

theorem filterMap_producer?_calls (decl : TypeDecl) (framework : Framework) (table : SymbolTable)
    (pass : Pass) :
    (decl.lifecycleModel framework table pass).calls.filterMap HookCall.producer? =
      (decl.hookCalls framework table pass).filterMap HookCall.producer? := by
  cases pass with
  | enterTree =>
      have silent : ((decl.sceneInjections framework).map fun injection =>
          HookCall.initFromScene injection.member).filterMap HookCall.producer? = [] := by
        simp [List.filterMap_map, HookCall.producer?]
      rw [lifecycleModel, enterTreeModel, LifecycleModel.calls_ofParts, List.filterMap_append,
        silent, List.nil_append]
  | ready => rfl
  | exitTree =>
      rw [lifecycleModel, exitTreeModel, LifecycleModel.calls_ofParts, List.filterMap_append]
      split <;> simp [HookCall.producer?]

/-! ## Helpers -/

/-- The members that belong to one resource. -/
def entryHelpers (entry : DisposalEntry) : List Helper :=
  if entry.isAuto then [.slot entry, .updater entry, .reset entry] else [.slot entry, .reset entry]

theorem mem_entryHelpers {entry : DisposalEntry} {helper : Helper} :
    helper ∈ entryHelpers entry ↔
      .slot entry = helper ∨ (entry.isAuto = true ∧ .updater entry = helper) ∨
        .reset entry = helper := by
  rw [entryHelpers]
  cases entry.isAuto <;> simp [eq_comm]

theorem disposalHelpers_eq (plan : DisposalPlan) :
    disposalHelpers plan =
      if plan.entries = [] then []
      else .disposeAll plan.resets :: plan.entries.flatMap entryHelpers := by
  simp only [disposalHelpers, DisposalPlan.isEmpty, List.isEmpty_iff]
  rfl

theorem mem_disposalHelpers {helper : Helper} :
    helper ∈ disposalHelpers plan ↔
      (plan.entries ≠ [] ∧ .disposeAll plan.resets = helper) ∨
        ∃ entry ∈ plan.entries, .slot entry = helper ∨
          (entry.isAuto = true ∧ .updater entry = helper) ∨ .reset entry = helper := by
  rw [disposalHelpers_eq]
  split
  · next untracked => simp [untracked]
  · next tracked =>
      rw [List.mem_cons, List.mem_flatMap, and_iff_right tracked, eq_comm]
      simp only [mem_entryHelpers]

/-- Entering the tree brings the methods that fill members, leaving it those that support the
plan. -/
theorem mem_helpers_lifecycleModel {helper : Helper} :
    helper ∈ (decl.lifecycleModel framework table pass).helpers ↔
      (pass = .enterTree ∧ ∃ injection ∈ decl.sceneInjections framework,
        .sceneInit injection = helper) ∨
        (pass = .exitTree ∧ helper ∈ disposalHelpers (decl.disposalPlan framework table)) := by
  cases pass <;> simp [lifecycleModel, enterTreeModel, readyModel, exitTreeModel]

theorem sceneInit_mem_helpers_iff {injection : SceneInjection} :
    .sceneInit injection ∈ (decl.lifecycleModel framework table pass).helpers ↔
      pass = .enterTree ∧ injection ∈ decl.sceneInjections framework := by
  simp [mem_helpers_lifecycleModel, mem_disposalHelpers]

section Entries

variable {entry : DisposalEntry}

theorem slot_mem_helpers_iff :
    .slot entry ∈ (decl.lifecycleModel framework table pass).helpers ↔
      pass = .exitTree ∧ entry ∈ (decl.disposalPlan framework table).entries := by
  simp [mem_helpers_lifecycleModel, mem_disposalHelpers]

theorem updater_mem_helpers_iff :
    .updater entry ∈ (decl.lifecycleModel framework table pass).helpers ↔
      pass = .exitTree ∧ entry ∈ (decl.disposalPlan framework table).entries ∧
        entry.isAuto = true := by
  simp [mem_helpers_lifecycleModel, mem_disposalHelpers]

theorem reset_mem_helpers_iff :
    .reset entry ∈ (decl.lifecycleModel framework table pass).helpers ↔
      pass = .exitTree ∧ entry ∈ (decl.disposalPlan framework table).entries := by
  simp [mem_helpers_lifecycleModel, mem_disposalHelpers]

end Entries

theorem disposeAll_mem_helpers_iff {resets : List String} :
    .disposeAll resets ∈ (decl.lifecycleModel framework table pass).helpers ↔
      pass = .exitTree ∧ (decl.disposalPlan framework table).entries ≠ [] ∧
        (decl.disposalPlan framework table).resets = resets := by
  simp [mem_helpers_lifecycleModel, mem_disposalHelpers]

end TypeDecl

/-- The calls of the method that releases everything. -/
def Helper.resets? : Helper → Option (List String)
  | disposeAll resets => some resets
  | _ => none

/-- The lists of release calls that leaving the tree can make. -/
def ClassAnalysis.releaseLists (analysis : ClassAnalysis) : List (List String) :=
  analysis.exitTree.helpers.filterMap Helper.resets?

theorem TypeDecl.releaseLists_analyze (decl : TypeDecl) (framework : Framework)
    (table : SymbolTable) (marshalling : Bool) :
    (decl.analyze framework table marshalling).releaseLists =
      if (decl.disposalPlan framework table).isEmpty then []
      else [(decl.disposalPlan framework table).resets] := by
  have silent (entry : DisposalEntry) : (entryHelpers entry).filterMap Helper.resets? = [] := by
    rw [entryHelpers]
    split <;> rfl
  change (disposalHelpers (decl.disposalPlan framework table)).filterMap Helper.resets? = _
  rw [disposalHelpers_eq, DisposalPlan.isEmpty]
  simp only [List.isEmpty_iff]
  split
  · rfl
  · rw [List.filterMap_cons, List.filterMap_flatMap,
      List.flatMap_eq_nil_iff.mpr fun entry _ => silent entry]
    rfl

end NodeLifecycle
