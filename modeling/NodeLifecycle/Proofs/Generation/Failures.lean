import NodeLifecycle.Proofs.Generation.Outcome

/-!
# Runs that fail

A run can end in three ways.  If a required name is not registered, the first such name is
reported, whether or not the host has given up the run.  Otherwise a run that was given up stops at
its first class, if there is one, and every other run has an output.  A table that starts from the
types of a framework never lacks one of its names.
-/

namespace NodeLifecycle
namespace GenerationConfig

/-- All names without which nothing can be generated are registered. -/
def IsResolved (config : GenerationConfig) (table : SymbolTable) : Prop :=
  ∀ name ∈ config.names.required, name ∈ table.names

/-- There is a class to process. -/
def HasCandidate (config : GenerationConfig) (table : SymbolTable) : Prop :=
  ∃ decl ∈ table.decls, decl.isCandidate (.ofNames config.names) table = true

/-- Each way in which a run can end comes up exactly under its own condition. -/
structure EndsProperly (config : GenerationConfig) (table : SymbolTable) (cancelled : Bool) :
    Prop where
  /-- A run does not start if a required name is missing. -/
  unresolved_iff : (∃ error, generate config table cancelled = .error (.unresolved error)) ↔
    ∃ name ∈ config.names.required, name ∉ table.names
  /-- The first missing name is reported as it is displayed. -/
  unresolved_eq_iff : ∀ error, generate config table cancelled = .error (.unresolved error) ↔
    ∃ missing, table.FirstMissing config.names.required missing ∧
      error = .missingType missing.display
  /-- A run that starts stops if it was given up and there is a class to process. -/
  cancelled_iff : generate config table cancelled = .error .cancelled ↔
    config.IsResolved table ∧ cancelled = true ∧ config.HasCandidate table
  /-- Every other run has an output. -/
  ok_iff : (∃ output, generate config table cancelled = .ok output) ↔
    config.IsResolved table ∧ ¬(cancelled = true ∧ config.HasCandidate table)

variable {config : GenerationConfig} {table : SymbolTable} {cancelled : Bool}

theorem hasCandidate_iff :
    config.HasCandidate table ↔ table.candidates (.ofNames config.names) ≠ [] := by
  simp only [HasCandidate, SymbolTable.candidates_eq_filter, ne_eq, List.filter_eq_nil_iff,
    not_forall, not_not, exists_prop]

theorem generate_eq_unresolved_iff {error : ResolutionError} :
    generate config table cancelled = .error (.unresolved error) ↔
      Framework.resolve table config.names = .error error := by
  simp [generate_eq_error_iff]

theorem generate_eq_cancelled_iff :
    generate config table cancelled = .error .cancelled ↔
      config.IsResolved table ∧ cancelled = true ∧ config.HasCandidate table := by
  simp [generate_eq_error_iff, Framework.resolve_eq_ok_iff, hasCandidate_iff, IsResolved]

theorem exists_generate_eq_ok_iff :
    (∃ output, generate config table cancelled = .ok output) ↔
      config.IsResolved table ∧ ¬(cancelled = true ∧ config.HasCandidate table) := by
  simp [generate_eq_ok_iff, Framework.resolve_eq_ok_iff, hasCandidate_iff, IsResolved]

/-- Every run ends properly.  Among the types of its framework and any that are registered after
them, all required names resolve to their own fingerprints, also where some of the names agree, and
no run fails for want of a name. -/
theorem endsProperly_generate (config : GenerationConfig) :
    (∀ table cancelled, config.EndsProperly table cancelled) ∧
      ∀ attempts : List TypeDecl,
        let table := (SymbolTable.ofEngineTypes config.names).registerEach attempts
        (∃ framework, Framework.resolve table config.names = .ok framework ∧
          framework.names = config.names ∧
          framework.handles = config.names.required.map QualifiedName.fingerprint) ∧
        ∀ cancelled error, generate config table cancelled ≠ .error (.unresolved error) := by
  refine ⟨fun table cancelled => ⟨?_, fun error => ?_, generate_eq_cancelled_iff,
    exists_generate_eq_ok_iff⟩, fun attempts => ?_⟩
  · simp only [generate_eq_unresolved_iff, Framework.resolve_eq_error_iff]
    rw [← SymbolTable.exists_firstMissing_iff]
    constructor
    · rintro ⟨_, missing, first, -⟩
      exact ⟨missing, first⟩
    · rintro ⟨missing, first⟩
      exact ⟨_, missing, first, rfl⟩
  · rw [generate_eq_unresolved_iff, Framework.resolve_eq_error_iff]
  · intro table
    have resolved := Framework.resolve_registerEach config.names attempts
    refine ⟨⟨_, resolved, rfl, rfl⟩, fun cancelled error failed => ?_⟩
    rw [generate_eq_unresolved_iff, resolved] at failed
    cases failed

/-- The first missing name goes before the wish of the host. -/
example : generate .standard .empty true = .error (.unresolved (.missingType "Godot.Node")) := by
  rfl

end GenerationConfig
end NodeLifecycle
