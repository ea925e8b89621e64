import NodeLifecycle.Proofs.Framework.Resolution
import NodeLifecycle.Proofs.Lifecycle.TrackedProducers

/-!
# References between generated members

Overrides and helpers refer to helpers by name.  All of these references resolve but one kind: the
calls are decided overload by overload, and the method that replaces a resource is generated only if
the first tracked overload asks for it.  A class is free of dangling names exactly if no hook asks
for a replacement that the first tracked overload of its name does not ask for.
-/

namespace NodeLifecycle

/-- The names that no choice of markers can leave without a helper. -/
structure FixedReferencesResolve (analysis : ClassAnalysis) : Prop where
  /-- A member that is filled from the scene has a method that fills it. -/
  sceneInit : ∀ pass member, .initFromScene member ∈ (analysis.model pass).calls →
    ∃ injection, .sceneInit injection ∈ (analysis.model .enterTree).helpers ∧
      injection.member = member
  /-- An acquired resource has a field. -/
  slot : ∀ pass method, .acquire method ∈ (analysis.model pass).calls →
    ∃ entry, .slot entry ∈ (analysis.model .exitTree).helpers ∧ entry.method = method
  /-- Where all resources are released, there is the method that releases them. -/
  disposeAll : ∀ pass, .disposeAll ∈ (analysis.model pass).calls →
    ∃ resets, .disposeAll resets ∈ (analysis.model .exitTree).helpers
  /-- The method that releases all resources calls existing ones. -/
  reset : ∀ pass resets, .disposeAll resets ∈ (analysis.model pass).helpers →
    ∀ name ∈ resets, ∃ entry, .reset entry ∈ (analysis.model .exitTree).helpers ∧
      entry.resetName = name
  /-- A method that replaces a resource calls an existing one to release the old resource. -/
  updaterReset : ∀ pass entry, .updater entry ∈ (analysis.model pass).helpers →
    ∃ released, .reset released ∈ (analysis.model .exitTree).helpers ∧
      released.resetName = entry.resetName

/-- All names that overrides and helpers refer to are those of generated helpers. -/
structure ReferencesResolve (analysis : ClassAnalysis) : Prop
    extends FixedReferencesResolve analysis where
  /-- A resource that is replaced has a method that replaces it. -/
  updater : ∀ pass method, .update method ∈ (analysis.model pass).calls →
    ∃ entry, .updater entry ∈ (analysis.model .exitTree).helpers ∧ entry.method = method

namespace TypeDecl

variable {decl : TypeDecl} {framework : Framework} {table : SymbolTable}

/-- No hook of any pass is replaced on demand unless the first tracked overload of its name is. -/
def OverloadsAgree (decl : TypeDecl) (framework : Framework) (table : SymbolTable) : Prop :=
  ∀ pass : Pass, ∀ member ∈ decl.members,
    framework.carries member.attributes pass.marker = true →
    framework.isUpdatable table member = true →
    ∀ first, decl.firstTracked? framework table member.name = some first →
      framework.carries first.attributes .autoDispose = true

/-- The references that do not depend on the markers of overloads always resolve. -/
theorem fixedReferencesResolve (decl : TypeDecl) (framework : Framework) (table : SymbolTable)
    (marshalling : Bool) :
    FixedReferencesResolve (decl.analyze framework table marshalling) where
  sceneInit pass member called := by
    rw [model_analyze] at called ⊢
    obtain ⟨-, injection, listed, same⟩ := initFromScene_mem_calls_iff.mp called
    exact ⟨injection, sceneInit_mem_helpers_iff.mpr ⟨rfl, listed⟩, same⟩
  slot pass method called := by
    rw [model_analyze] at called ⊢
    obtain ⟨entry, listed, same⟩ := exists_entry_of_mem_calls called rfl
    exact ⟨entry, slot_mem_helpers_iff.mpr ⟨rfl, listed⟩, same⟩
  disposeAll pass called := by
    rw [model_analyze] at called ⊢
    have tracked := (disposeAll_mem_calls_iff.mp called).2
    exact ⟨_, disposeAll_mem_helpers_iff.mpr ⟨rfl, tracked, rfl⟩⟩
  reset pass resets helper name listed := by
    rw [model_analyze] at helper ⊢
    obtain ⟨-, -, rfl⟩ := disposeAll_mem_helpers_iff.mp helper
    obtain ⟨entry, released, rfl⟩ := List.mem_map.mp listed
    have visited := decl.disposalOrder_disposalPlan_perm framework table
    have entry_mem := visited.mem_iff.mp released
    exact ⟨entry, reset_mem_helpers_iff.mpr ⟨rfl, entry_mem⟩, rfl⟩
  updaterReset pass entry helper := by
    rw [model_analyze] at helper ⊢
    have listed := (updater_mem_helpers_iff.mp helper).2.1
    exact ⟨entry, reset_mem_helpers_iff.mpr ⟨rfl, listed⟩, rfl⟩

/-- The replacing method of a name exists exactly if its deciding member asks for it. -/
theorem exists_updater_iff {member : Member} (declared : member ∈ decl.members)
    (updatable : framework.isUpdatable table member = true) :
    (∃ entry, .updater entry ∈ (decl.lifecycleModel framework table .exitTree).helpers ∧
        entry.method = member.name) ↔
      ∀ first, decl.firstTracked? framework table member.name = some first →
        framework.carries first.attributes .autoDispose = true := by
  constructor
  · rintro ⟨entry, helper, same⟩ first found
    obtain ⟨-, listed, auto⟩ := updater_mem_helpers_iff.mp helper
    obtain ⟨deciding, deciding_eq, auto_eq⟩ := exists_firstTracked?_of_mem_entries listed
    rw [same, found] at deciding_eq
    cases deciding_eq
    rw [← isUpdatable_of_firstTracked? found, ← auto_eq, auto]
  · intro agreed
    obtain ⟨entry, listed, same⟩ := exists_entry_of_isUpdatable declared updatable
    obtain ⟨first, found, auto_eq⟩ := exists_firstTracked?_of_mem_entries listed
    have marked := agreed first (same ▸ found)
    rw [← isUpdatable_of_firstTracked? found, ← auto_eq] at marked
    exact ⟨entry, updater_mem_helpers_iff.mpr ⟨rfl, listed, marked⟩, same⟩

/-- A class is free of dangling names exactly if its overloads agree on being replaced. -/
theorem referencesResolve_analyze_iff (decl : TypeDecl) (framework : Framework)
    (table : SymbolTable) (marshalling : Bool) :
    ReferencesResolve (decl.analyze framework table marshalling) ↔
      decl.OverloadsAgree framework table := by
  constructor
  · intro resolves pass member declared hooked updatable
    have called := update_mem_calls_iff.mpr ⟨member, declared, hooked, updatable, rfl⟩
    rw [← model_analyze decl framework table marshalling] at called
    have resolved := resolves.updater pass member.name called
    rw [model_analyze] at resolved
    exact (exists_updater_iff declared updatable).mp resolved
  · intro agree
    refine ⟨fixedReferencesResolve decl framework table marshalling, ?_⟩
    intro pass method called
    rw [model_analyze] at called ⊢
    obtain ⟨member, declared, hooked, updatable, rfl⟩ := update_mem_calls_iff.mp called
    exact (exists_updater_iff declared updatable).mpr
      (agree pass member declared hooked updatable)

/-- Two overloads that are hooks of different passes; only the later one asks to be replaced on
demand. -/
def lateUpdate : TypeDecl :=
  .player
    [.make [.onEnterTree] [],
      .make [.onReady, .autoDispose] [⟨"count", .builtin .int32 false, .byValue⟩]]

/-- The ready override of the class with the late update calls a method that does not exist. -/
theorem not_referencesResolve_lateUpdate :
    ∃ framework, Framework.resolve (.ofEngineTypes .standard) .standard = .ok framework ∧
      ¬ReferencesResolve (lateUpdate.analyze framework (.ofEngineTypes .standard) true) := by
  refine ⟨.ofNames .standard, Framework.resolve_ofEngineTypes_standard, fun resolves => ?_⟩
  have called : .update "Make" ∈ ((lateUpdate.analyze (.ofNames .standard)
      (.ofEngineTypes .standard) true).model .ready).calls := by decide +kernel
  obtain ⟨entry, helper, same⟩ := resolves.updater .ready "Make" called
  have updatable : Framework.isUpdatable (.ofNames .standard) (.ofEngineTypes .standard)
      (.make [.onReady, .autoDispose] [⟨"count", .builtin .int32 false, .byValue⟩]) = true := by
    decide +kernel
  have deciding : lateUpdate.firstTracked? (.ofNames .standard) (.ofEngineTypes .standard) "Make" =
      some (.make [.onEnterTree] []) := by decide +kernel
  have marked := (exists_updater_iff (by simp [lateUpdate, player]) updatable).mp
    ⟨entry, helper, same⟩ _ deciding
  revert marked
  decide +kernel

end TypeDecl
end NodeLifecycle
