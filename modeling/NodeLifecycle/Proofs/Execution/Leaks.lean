import NodeLifecycle.Proofs.Execution.NodeRun
import NodeLifecycle.Proofs.Framework.Resolution

/-!
# Leaks

A node enters the tree, gets ready, has resources replaced, and leaves the tree.  The overrides
acquire a resource without looking into its slot, so a producer that is called again before the node
leaves the tree leaks, unless its later call replaces the resource.  This is the only way to leak,
and it does not depend on the replacements in between.
-/

namespace NodeLifecycle

/-- One life in the tree, with the given replacements between getting ready and leaving. -/
def ClassAnalysis.life (analysis : ClassAnalysis) (updaters : List (Updater analysis.disposal)) :
    List (Event analysis.disposal) :=
  [.override .enterTree, .override .ready] ++ updaters.map .replace ++ [.override .exitTree]

namespace TypeDecl

variable {decl : TypeDecl} {framework : Framework} {table : SymbolTable} {marshalling : Bool}

/-- The producers that entering the tree and then being ready call, with repetitions. -/
def calledMembers (decl : TypeDecl) (framework : Framework) (table : SymbolTable) : List Member :=
  decl.members.filter (framework.callsProducer table .enterTree) ++
    decl.members.filter (framework.callsProducer table .ready)

/-- A producer is called a second time only to be replaced on demand.  Overloads count as the same
producer. -/
def CallsEachOnce (decl : TypeDecl) (framework : Framework) (table : SymbolTable) : Prop :=
  (decl.calledMembers framework table).Pairwise fun earlier later =>
    earlier.name = later.name → framework.carries later.attributes .autoDispose = true

/-- One call overwrites what another one stored exactly if both are for producers of one name and
the later one is not replaced on demand. -/
theorem overwrites_iff {earlierPass laterPass : Pass} {earlier later : Member} :
    (∀ call, framework.hookCall? table earlierPass earlier = some call →
      ∀ other, framework.hookCall? table laterPass later = some other →
        ∀ method, call.producer? = some method → other ≠ .acquire method) ↔
      (framework.callsProducer table earlierPass earlier = true →
        framework.callsProducer table laterPass later = true →
          earlier.name = later.name → framework.carries later.attributes .autoDispose = true) := by
  have created := Framework.bind_producer?_hookCall? framework table earlierPass earlier
  constructor
  · intro apart called again same
    by_contra unmarked
    have fixed : framework.isUpdatable table later = false := by
      rw [Framework.isUpdatable, Bool.and_eq_false_iff]
      exact Or.inr (Bool.eq_false_iff.mpr unmarked)
    rw [if_pos called, Option.bind_eq_some_iff] at created
    obtain ⟨call, asked, produced⟩ := created
    have acquired := Framework.hookCall?_eq_some_acquire_iff.mpr ⟨again, fixed, same.symm⟩
    exact apart call asked _ acquired earlier.name produced rfl
  · intro agreed call asked other again method produced acquired
    rw [acquired] at again
    obtain ⟨called, fixed, same⟩ := Framework.hookCall?_eq_some_acquire_iff.mp again
    rw [asked, Option.bind_some, produced] at created
    split at created
    · rename_i first
      have marked := agreed first called ((Option.some.inj created).symm.trans same.symm)
      have produced := Framework.produces_of_tracks (Framework.callsProducer_iff.mp called).2
      rw [Framework.isUpdatable_iff.mpr ⟨produced, marked⟩] at fixed
      cases fixed
    · cases created

/-- The calls of the first two overrides overwrite nothing exactly if each producer is called
once. -/
theorem pairwise_calls_iff (decl : TypeDecl) (framework : Framework) (table : SymbolTable) :
    ((decl.lifecycleModel framework table .enterTree).calls ++
        (decl.lifecycleModel framework table .ready).calls).Pairwise
      (fun earlier later => ∀ method, earlier.producer? = some method → later ≠ .acquire method) ↔
      decl.CallsEachOnce framework table := by
  -- both sides speak of the members of one list, each with the pass that may call it
  let steps : List (Pass × Member) :=
    decl.members.map (Prod.mk .enterTree) ++ decl.members.map (Prod.mk .ready)
  have calls_eq : (decl.lifecycleModel framework table .enterTree).calls ++
      (decl.lifecycleModel framework table .ready).calls =
        (decl.sceneInjections framework).map (fun injection => .initFromScene injection.member) ++
          steps.filterMap fun step => framework.hookCall? table step.1 step.2 := by
    simp only [lifecycleModel, enterTreeModel, readyModel, LifecycleModel.calls_ofParts,
      hookCalls_eq_filterMap, steps, List.filterMap_append, List.filterMap_map, List.append_assoc]
    rfl
  have members_eq : decl.calledMembers framework table =
      (steps.filter fun step => framework.callsProducer table step.1 step.2).map Prod.snd := by
    simp only [calledMembers, steps, List.filter_append, List.filter_map, List.map_append,
      List.map_map]
    congr 1 <;> exact (List.map_id _).symm
  rw [calls_eq, CallsEachOnce, members_eq, List.pairwise_append, List.pairwise_map,
    List.pairwise_map, List.pairwise_filterMap, List.pairwise_filter]
  have silent : (decl.sceneInjections framework).Pairwise fun earlier later => ∀ method,
      (HookCall.initFromScene earlier.member).producer? = some method →
        HookCall.initFromScene later.member ≠ .acquire method :=
    List.pairwise_of_forall fun _ _ _ produced => by cases produced
  rw [and_iff_right silent, and_iff_left]
  · constructor <;> intro ordered <;> refine ordered.imp ?_ <;> intro earlier later
    · exact overwrites_iff.mp
    · exact overwrites_iff.mpr
  · intro filled listed
    obtain ⟨injection, -, rfl⟩ := List.mem_map.mp listed
    intro _ _ _ produced
    cases produced

/-- In a life in the tree, acquisitions find empty slots exactly if each producer is called once,
and then, and only then, all resources are disposed in the end. -/
theorem neverOverwrites_life_iff (decl : TypeDecl) (framework : Framework) (table : SymbolTable)
    (marshalling : Bool)
    (updaters : List (Updater (decl.analyze framework table marshalling).disposal)) :
    let analysis := decl.analyze framework table marshalling
    let calls := analysis.callsOf (analysis.life updaters)
    (NeverOverwrites analysis.releasedSlots calls ↔ decl.CallsEachOnce framework table) ∧
      (ReleasesEverything analysis.releasedSlots calls ↔ decl.CallsEachOnce framework table) := by
  intro analysis calls
  have calls_eq : calls = (decl.lifecycleModel framework table .enterTree).calls ++
      (decl.lifecycleModel framework table .ready).calls ++
        (updaters.map (fun updater => .update updater.entry.method) ++
          (decl.lifecycleModel framework table .exitTree).calls) := by
    simp only [calls, analysis, ClassAnalysis.callsOf, ClassAnalysis.life, ClassAnalysis.eventCalls,
      model_analyze, List.cons_append, List.nil_append, List.append_nil, List.append_assoc,
      List.flatMap_nil, List.flatMap_cons, List.flatMap_append, List.flatMap_map]
    rw [List.map_eq_flatMap]
  have harmless (method : String) :
      .acquire method ∉ updaters.map (fun updater => HookCall.update updater.entry.method) ++
        (decl.lifecycleModel framework table .exitTree).calls := by
    rw [List.mem_append, not_or]
    exact ⟨by simp, acquire_not_mem_calls_exitTree method⟩
  have unreleased : .disposeAll ∉ (decl.lifecycleModel framework table .enterTree).calls ++
      (decl.lifecycleModel framework table .ready).calls := by
    rw [List.mem_append, disposeAll_mem_calls_iff, disposeAll_mem_calls_iff]
    simp
  have kept : NeverOverwrites analysis.releasedSlots calls ↔
      decl.CallsEachOnce framework table := by
    rw [calls_eq, neverOverwrites_append_iff harmless, neverOverwrites_iff_pairwise unreleased,
      pairwise_calls_iff]
  have emptied (method : String) :
      (SlotState.run analysis.releasedSlots calls .initial).held method = none := by
    change (analysis.stateAfter (analysis.life updaters)).held method = none
    exact held_stateAfter_exitTree _ method
  exact ⟨kept, (releasesEverything_iff emptied).trans kept⟩

/-- One producer that is a hook of two passes. -/
def calledTwice : TypeDecl :=
  .player [.make [.onEnterTree, .onReady] []]

/-- The class with the producer that is called twice leaks a resource, although nobody replaces
one. -/
theorem overwrites_calledTwice :
    ∃ framework, Framework.resolve (.ofEngineTypes .standard) .standard = .ok framework ∧
      let analysis := calledTwice.analyze framework (.ofEngineTypes .standard) true
      ¬NeverOverwrites analysis.releasedSlots (analysis.callsOf (analysis.life [])) ∧
        ¬ReleasesEverything analysis.releasedSlots (analysis.callsOf (analysis.life [])) := by
  refine ⟨.ofNames .standard, Framework.resolve_ofEngineTypes_standard, ?_⟩
  intro analysis
  have calls_eq : analysis.callsOf (analysis.life []) =
      [.acquire "Make", .acquire "Make", .disposeAll] := by decide +kernel
  have overwrites :
      ¬NeverOverwrites analysis.releasedSlots (analysis.callsOf (analysis.life [])) := by
    intro never
    have empty := never [.acquire "Make"] "Make" [.disposeAll] calls_eq
    have filled := SlotState.held_store .initial "Make" "Make"
    rw [if_pos rfl] at filled
    cases filled.symm.trans empty
  refine ⟨overwrites, mt (releasesEverything_iff fun method => ?_).mp overwrites⟩
  exact held_stateAfter_exitTree [.override .enterTree, .override .ready] method

end TypeDecl
end NodeLifecycle
