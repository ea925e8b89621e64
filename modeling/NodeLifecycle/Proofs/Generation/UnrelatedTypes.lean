import NodeLifecycle.Proofs.Generation.Isolation
import NodeLifecycle.Proofs.Generation.Outcome

/-!
# Unrelated types

A type that no other type mentions may be registered without any effect on what is generated for the
others: what a run gives for the smaller table stands at the beginning of what it gives for the
larger one.
-/

namespace NodeLifecycle

namespace SymbolTable

variable {table extended : SymbolTable} {decl : TypeDecl}
  (registered : table.register decl = .ok extended)

include registered

theorem names_subset_of_register_eq_ok : table.names ⊆ extended.names := by
  rw [← map_name_decls, ← map_name_decls, (register_eq_ok_iff.mp registered).2, List.map_append]
  exact List.subset_append_left _ _

theorem name_ne_of_register_eq_ok {known : TypeDecl} (listed : known ∈ table.decls) :
    known.name ≠ decl.name := by
  intro same
  exact (register_eq_ok_iff.mp registered).1 (same ▸ name_mem_names listed)

variable (unrelated : ∀ known ∈ table.decls, decl.name ∉ known.mentioned)

include unrelated

/-- Tables with and without an unrelated type agree on all other names. -/
theorem agreeOn_of_register_eq_ok : table.AgreeOn extended fun name => name ≠ decl.name where
  outline_eq name other := by rw [get?_of_register_eq_ok registered other]
  closed name known _ found parent listed := by
    rintro rfl
    exact unrelated known (mem_decls_of_get?_eq_some found) (List.mem_append_left _ listed)

theorem candidates_of_register_eq_ok (framework : Framework) :
    extended.candidates framework =
      table.candidates framework ++ if decl.isCandidate framework extended then [decl] else [] := by
  have agree := agreeOn_of_register_eq_ok registered unrelated
  rw [candidates_eq_filter, candidates_eq_filter, (register_eq_ok_iff.mp registered).2,
    List.filter_append, List.filter_singleton, Bool.cond_eq_ite]
  congr 1
  apply List.filter_congr
  intro known listed
  rw [agree.isCandidate_eq framework (name_ne_of_register_eq_ok registered listed)]

theorem process_of_register_eq_ok (config : GenerationConfig) (framework : Framework)
    {known : TypeDecl} (listed : known ∈ table.decls) :
    config.process framework table known = config.process framework extended known := by
  have agree := agreeOn_of_register_eq_ok registered unrelated
  have own := name_ne_of_register_eq_ok registered listed
  have start : ∀ name ∈ known.mentioned, name ≠ decl.name := by
    rintro name mentioned rfl
    exact unrelated known listed mentioned
  rw [GenerationConfig.process, GenerationConfig.process, agree.analyze_eq framework own start]

end SymbolTable

/-- If a run succeeds, a new type that no registered type mentions can be registered, and the run
with it succeeds too: its units are those from before, followed by those of the new type if it is a
candidate, and its report begins with the report from before. -/
theorem generate_of_unrelated {config : GenerationConfig} {table : SymbolTable}
    {output : GenerationOutput} {decl : TypeDecl}
    (done : generate config table false = .ok output) (fresh : decl.name ∉ table.names)
    (unrelated : ∀ known ∈ table.decls, decl.name ∉ known.mentioned) :
    ∃ extended framework later, table.register decl = .ok extended ∧
      Framework.resolve extended config.names = .ok framework ∧
      generate config extended false = .ok later ∧
      later.sources = output.sources ++
        (if decl.isCandidate framework extended then
          (config.process framework extended decl).sources
        else
          []) ∧
      output.diagnostics.items <+: later.diagnostics.items := by
  obtain ⟨framework, resolved, -, rfl⟩ := generate_eq_ok_iff.mp done
  obtain ⟨extended, registered⟩ := SymbolTable.exists_register_eq_ok fresh
  have still_resolved := Framework.resolve_eq_ok_of_subset resolved
    (SymbolTable.names_subset_of_register_eq_ok registered)
  have outputs : (extended.candidates framework).map (config.process framework extended) =
      (table.candidates framework).map (config.process framework table) ++
        if decl.isCandidate framework extended then [config.process framework extended decl]
        else [] := by
    rw [SymbolTable.candidates_of_register_eq_ok registered unrelated, List.map_append]
    congr 1
    · apply List.map_congr_left
      intro known candidate
      rw [SymbolTable.candidates_eq_filter] at candidate
      exact (SymbolTable.process_of_register_eq_ok registered unrelated config framework
        (List.mem_of_mem_filter candidate)).symm
    · split <;> rfl
  refine ⟨extended, framework, _, registered, still_resolved,
    generate_of_resolve_eq_ok still_resolved, ?_, ?_⟩
  · rw [outputs, GenerationOutput.sources_gather, List.flatMap_append]
    congr 1
    split
    · exact List.flatMap_singleton _ _
    · rfl
  · rw [outputs, GenerationOutput.diagnostics_gather, GenerationOutput.diagnostics_gather,
      List.flatMap_append, Report.ofList, Report.ofList, Report.extend_append]
    exact Report.items_prefix_items_extend _ _

/-- Another class of players does not disturb the first one. -/
theorem generate_of_second_player :
    let player := TypeDecl.player [.make [.onReady] []]
    let second := { player with name := ⟨"Second", ["Game"]⟩ }
    let table := SymbolTable.game [player] (by decide) (by decide)
    let config := { GenerationConfig.standard with selection := .only .ready }
    ∃ output, generate config table false = .ok output ∧
      output.hints = ["Game.Player_OnReady.generated.cs"] ∧
      second.name ∉ table.names ∧ (∀ known ∈ table.decls, second.name ∉ known.mentioned) ∧
      ∃ extended framework later, table.register second = .ok extended ∧
        Framework.resolve extended config.names = .ok framework ∧
        generate config extended false = .ok later ∧
        later.sources = output.sources ++
          (if second.isCandidate framework extended then
            (config.process framework extended second).sources
          else
            []) ∧
        output.diagnostics.items <+: later.diagnostics.items := by
  intro player second table config
  have done : generate config table false = .ok _ := generate_game rfl
  have fresh : second.name ∉ table.names := by
    rw [SymbolTable.names_game, List.mem_append, not_or]
    exact ⟨SymbolTable.not_mem_names_ofEngineTypes rfl, by decide⟩
  have unrelated : ∀ known ∈ table.decls, second.name ∉ known.mentioned := by decide +kernel
  exact ⟨_, done, by decide +kernel, fresh, unrelated, generate_of_unrelated done fresh unrelated⟩

end NodeLifecycle
