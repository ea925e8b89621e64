import NodeLifecycle.Proofs.Diagnostic.OrderedSet
import NodeLifecycle.Proofs.Generation.Outcome
import NodeLifecycle.Proofs.Lifecycle.Findings
import NodeLifecycle.Proofs.Symbol.WellFormedNames

/-!
# Reports of runs

A diagnostic names its class by the simple name and the dotted namespace.  Among classes with
well-formed names no two agree in both, so the report of a run lists the reports of its classes one
after the other and leaves nothing out.
-/

namespace NodeLifecycle

theorem GenerationConfig.names_of_mem_process {config : GenerationConfig} {framework : Framework}
    {table : SymbolTable} {decl : TypeDecl} {diagnostic : Diagnostic}
    (listed : diagnostic ∈ (config.process framework table decl).diagnostics.items) :
    diagnostic.typeName = decl.name.simple ∧ diagnostic.namespaceText = decl.name.scopeText := by
  rw [process, render, Report.mem_items_ofList] at listed
  obtain ⟨pass, -, reported⟩ := List.mem_flatMap.mp listed
  rw [TypeDecl.model_analyze, TypeDecl.diagnostics_lifecycleModel] at reported
  obtain ⟨finding, -, rfl⟩ := List.mem_map.mp reported
  exact ⟨rfl, rfl⟩

/-- If the classes of the compilation have well-formed names, the report of a run is what its
candidates report, in registration order and nothing left out. -/
theorem diagnostics_eq_of_generate_eq_ok {config : GenerationConfig} {table : SymbolTable}
    {cancelled : Bool} {output : GenerationOutput}
    (valid : ∀ decl ∈ table.sourceClasses, decl.name.IsWellFormed)
    (done : generate config table cancelled = .ok output) :
    ∃ framework, Framework.resolve table config.names = .ok framework ∧
      output.diagnostics.items = (table.candidates framework).flatMap fun decl =>
        (config.render
          (decl.analyze framework table config.emitsScriptMethods)).diagnostics.items := by
  obtain ⟨framework, resolved, -, rfl⟩ := generate_eq_ok_iff.mp done
  have own : ∀ decl ∈ table.candidates framework, decl.name.IsWellFormed :=
    fun decl candidate => valid decl (SymbolTable.mem_sourceClasses_of_mem_candidates candidate)
  refine ⟨framework, resolved, ?_⟩
  rw [GenerationOutput.diagnostics_gather, List.flatMap_map]
  apply Report.items_ofList_of_nodup
  apply SymbolTable.nodup_flatMap_candidates
  · exact fun decl _ => (config.process framework table decl).diagnostics.nodup_items
  · intro left left_candidate right right_candidate diagnostic in_left in_right
    obtain ⟨left_simple, left_scope⟩ := GenerationConfig.names_of_mem_process in_left
    obtain ⟨right_simple, right_scope⟩ := GenerationConfig.names_of_mem_process in_right
    exact QualifiedName.eq_of_scopeText_eq (own left left_candidate) (own right right_candidate)
      (left_simple.symm.trans right_simple) (left_scope.symm.trans right_scope)

/-- Two classes of one simple name break the same rule. -/
theorem diagnostics_of_namesakes :
    let player := { TypeDecl.player [.make [.onReady] []] with modifiers := [] }
    let namesake := { player with name := ⟨"Player", ["Game", "Ui"]⟩ }
    let table := SymbolTable.game [player, namesake] (by decide) (by decide)
    let config := GenerationConfig.standard
    ∃ output, generate config table false = .ok output ∧
      output.diagnostics.items.map Diagnostic.namespaceText = ["Game", "Game.Ui"] ∧
      (∀ decl ∈ table.sourceClasses, decl.name.IsWellFormed) ∧
      ∃ framework, Framework.resolve table config.names = .ok framework ∧
        output.diagnostics.items = (table.candidates framework).flatMap fun decl =>
          (config.render
            (decl.analyze framework table config.emitsScriptMethods)).diagnostics.items := by
  intro player namesake table config
  have valid : ∀ decl ∈ table.sourceClasses, decl.name.IsWellFormed := by
    rw [SymbolTable.sourceClasses_game]
    decide
  have done : generate config table false = .ok _ := generate_game rfl
  refine ⟨_, done, ?_, valid, diagnostics_eq_of_generate_eq_ok valid done⟩
  simp only [GenerationOutput.diagnostics_gather, List.flatMap_map, GenerationConfig.process,
    GenerationConfig.render, Report.items_ofList]
  decide +kernel

end NodeLifecycle
