import NodeLifecycle.Proofs.Execution.SlotMachine
import NodeLifecycle.Proofs.Lifecycle.TrackedProducers

/-!
# Runs of a node

A node runs its overrides, and resources that are replaced on demand are replaced from outside, in
any order and any number of times.  Whatever happens, no resource is disposed twice, and a node that
leaves the tree holds nothing afterwards.
-/

namespace NodeLifecycle

/-- An entry of a plan that is replaced on demand. -/
structure Updater (plan : DisposalPlan) where
  /-- The entry. -/
  entry : DisposalEntry
  /-- The plan has the entry. -/
  listed : entry ∈ plan.entries
  /-- The entry is replaced on demand. -/
  auto : entry.isAuto = true

/-- What can happen to a node with the given plan. -/
inductive Event (plan : DisposalPlan) where
  /-- The engine calls an override. -/
  | override (pass : Pass)
  /-- Somebody calls the method that replaces a resource. -/
  | replace (updater : Updater plan)

namespace ClassAnalysis

/-- The slot that a release call empties. -/
def releasedSlot? (analysis : ClassAnalysis) (reset : String) : Option String :=
  analysis.exitTree.helpers.findSome? fun helper =>
    match helper with
    | .reset entry => if entry.resetName = reset then some entry.method else none
    | _ => none

/-- The slots that are emptied when all resources are released, in order. -/
def releasedSlots (analysis : ClassAnalysis) : List String :=
  analysis.releaseLists.flatten.filterMap analysis.releasedSlot?

/-- The calls that an event makes. -/
def eventCalls (analysis : ClassAnalysis) : Event analysis.disposal → List HookCall
  | .override pass => (analysis.model pass).calls
  | .replace updater => [.update updater.entry.method]

def callsOf (analysis : ClassAnalysis) (events : List (Event analysis.disposal)) : List HookCall :=
  events.flatMap analysis.eventCalls

/-- What a node with empty slots holds after a sequence of events. -/
def stateAfter (analysis : ClassAnalysis) (events : List (Event analysis.disposal)) : SlotState :=
  .run analysis.releasedSlots (analysis.callsOf events) .initial

end ClassAnalysis

namespace TypeDecl

variable {decl : TypeDecl} {framework : Framework} {table : SymbolTable} {marshalling : Bool}

/-! ## Released slots -/

/-- A release call empties the slot of its entry: no other entry is released by the same call. -/
theorem releasedSlot?_resetName {entry : DisposalEntry}
    (listed : entry ∈ (decl.disposalPlan framework table).entries) :
    (decl.analyze framework table marshalling).releasedSlot? entry.resetName =
      some entry.method := by
  have helper : .reset entry ∈ (decl.analyze framework table marshalling).exitTree.helpers :=
    reset_mem_helpers_iff.mpr ⟨rfl, listed⟩
  cases found : (decl.analyze framework table marshalling).releasedSlot? entry.resetName with
  | none =>
      have missed := List.findSome?_eq_none_iff.mp found _ helper
      simp at missed
  | some slot =>
      obtain ⟨other, -, other_eq⟩ := List.exists_of_findSome?_eq_some found
      cases other with
      | reset owner =>
          simp only [Option.ite_none_right_eq_some, Option.some_inj] at other_eq
          rw [← other_eq.2, GeneratedName.reset_injective other_eq.1]
      | _ => cases other_eq

/-- All slots with an entry are released, the one that was acquired last before the others. -/
theorem releasedSlots_analyze (decl : TypeDecl) (framework : Framework) (table : SymbolTable)
    (marshalling : Bool) :
    (decl.analyze framework table marshalling).releasedSlots =
      ((decl.disposalPlan framework table).acquisitionOrder.map DisposalEntry.method).reverse := by
  have visited := decl.acquisitionOrder_disposalPlan_perm framework table
  rw [ClassAnalysis.releasedSlots, releaseLists_analyze, DisposalPlan.isEmpty]
  split
  · rename_i untracked
    rw [List.isEmpty_iff] at untracked
    rw [untracked, List.perm_nil] at visited
    rw [visited]
    rfl
  · rw [List.flatten_singleton, DisposalPlan.resets,
      DisposalPlan.disposalOrder_eq_reverse, List.filterMap_map, ← List.map_reverse,
      ← List.filterMap_eq_map]
    apply List.filterMap_congr
    intro entry released
    exact releasedSlot?_resetName (visited.mem_iff.mp (List.mem_reverse.mp released))

theorem mem_releasedSlots_iff {method : String} :
    method ∈ (decl.analyze framework table marshalling).releasedSlots ↔
      ∃ entry ∈ (decl.disposalPlan framework table).entries, entry.method = method := by
  rw [releasedSlots_analyze, List.mem_reverse,
    ((decl.acquisitionOrder_disposalPlan_perm framework table).map DisposalEntry.method).mem_iff,
    List.mem_map]

/-- Whatever happens, only slots that leaving the tree releases are filled. -/
theorem mem_releasedSlots_of_mem_callsOf
    {events : List (Event (decl.analyze framework table marshalling).disposal)} {call : HookCall}
    (listed : call ∈ (decl.analyze framework table marshalling).callsOf events) {method : String}
    (produced : call.producer? = some method) :
    method ∈ (decl.analyze framework table marshalling).releasedSlots := by
  obtain ⟨event, -, made⟩ := List.mem_flatMap.mp listed
  cases event with
  | override pass =>
      rw [ClassAnalysis.eventCalls, model_analyze] at made
      exact mem_releasedSlots_iff.mpr (exists_entry_of_mem_calls made produced)
  | replace updater =>
      rw [ClassAnalysis.eventCalls, List.mem_singleton] at made
      rw [made] at produced
      exact mem_releasedSlots_iff.mpr ⟨updater.entry, updater.listed, Option.some.inj produced⟩

/-! ## Leaving the tree -/

theorem exists_calls_exitTree (decl : TypeDecl) (framework : Framework) (table : SymbolTable)
    (marshalling : Bool) :
    (decl.analyze framework table marshalling).releasedSlots = [] ∨
      ∃ hooks, ((decl.analyze framework table marshalling).model .exitTree).calls =
        hooks ++ [.disposeAll] := by
  rw [releasedSlots_analyze, model_analyze, lifecycleModel, exitTreeModel,
    LifecycleModel.calls_ofParts, DisposalPlan.isEmpty]
  cases untracked : (decl.disposalPlan framework table).entries.isEmpty with
  | true =>
      have visited := decl.acquisitionOrder_disposalPlan_perm framework table
      rw [List.isEmpty_iff.mp untracked, List.perm_nil] at visited
      exact Or.inl (by rw [visited]; rfl)
  | false => exact Or.inr ⟨_, rfl⟩

/-- A node that leaves the tree holds nothing afterwards. -/
theorem held_stateAfter_exitTree
    (events : List (Event (decl.analyze framework table marshalling).disposal)) (method : String) :
    ((decl.analyze framework table marshalling).stateAfter
      (events ++ [.override .exitTree])).held method = none := by
  rw [ClassAnalysis.stateAfter]
  have covered {call : HookCall} (listed : call ∈ (decl.analyze framework table marshalling).callsOf
      (events ++ [.override .exitTree])) {method : String}
      (produced : call.producer? = some method) :
      method ∈ (decl.analyze framework table marshalling).releasedSlots :=
    mem_releasedSlots_of_mem_callsOf listed produced
  obtain unreleased | ⟨hooks, calls_eq⟩ := exists_calls_exitTree decl framework table marshalling
  · refine SlotState.held_run_eq_none rfl fun call listed produced => ?_
    have filled := covered listed produced
    rw [unreleased] at filled
    cases filled
  · have split : (decl.analyze framework table marshalling).callsOf
        (events ++ [.override .exitTree]) =
          ((decl.analyze framework table marshalling).callsOf events ++ hooks) ++
            [.disposeAll] := by
      rw [ClassAnalysis.callsOf, List.flatMap_append, List.flatMap_singleton,
        ClassAnalysis.eventCalls, calls_eq, List.append_assoc]
      rfl
    rw [split] at covered ⊢
    rw [SlotState.run_concat]
    exact SlotState.held_exec_disposeAll
      (fun call listed _ produced => covered (List.mem_append_left _ listed) produced) method

/-- Over any sequence of events no resource is disposed twice, and whenever the node leaves the tree
all slots are empty afterwards. -/
theorem disposed_once_and_emptied (decl : TypeDecl) (framework : Framework) (table : SymbolTable)
    (marshalling : Bool)
    (events : List (Event (decl.analyze framework table marshalling).disposal)) :
    ((decl.analyze framework table marshalling).stateAfter events).disposed.Nodup ∧
      ∀ method, ((decl.analyze framework table marshalling).stateAfter
        (events ++ [.override .exitTree])).held method = none :=
  ⟨(SlotState.valid_initial.run _ _).nodup_disposed, held_stateAfter_exitTree events⟩

end TypeDecl
end NodeLifecycle
