import Mathlib.Data.List.Nodup
import NodeLifecycle.Generation
import NodeLifecycle.Proofs.Framework.Resolution

/-!
# Outcomes of runs

A run puts the outputs of its classes together one after the other.  Their units are concatenated,
and so are their diagnostics, apart from those that are there already.  A run succeeds if its
framework resolves and if it was not given up before a class.  No two candidates have the same name.
-/

namespace NodeLifecycle

namespace GenerationOutput

/-- The outputs of several classes together. -/
def gather (outputs : List GenerationOutput) : GenerationOutput where
  sources := outputs.flatMap sources
  diagnostics := .ofList (outputs.flatMap fun output => output.diagnostics.items)

@[simp] theorem sources_gather (outputs : List GenerationOutput) :
    (gather outputs).sources = outputs.flatMap sources := rfl

@[simp] theorem diagnostics_gather (outputs : List GenerationOutput) :
    (gather outputs).diagnostics =
      .ofList (outputs.flatMap fun output => output.diagnostics.items) := rfl

theorem foldl_append_eq (output : GenerationOutput) (outputs : List GenerationOutput) :
    outputs.foldl append output =
      { sources := output.sources ++ outputs.flatMap sources
        diagnostics :=
          output.diagnostics.extend (outputs.flatMap fun output => output.diagnostics.items) } := by
  induction outputs generalizing output with
  | nil => simp [Report.extend]
  | cons first rest induction =>
      rw [List.foldl_cons, induction, append]
      simp only [List.flatMap_cons, List.append_assoc, Report.extend_append]

end GenerationOutput

/-- A run succeeds exactly if the framework resolves and no class is left undone, and its output is
what the candidates give together. -/
theorem generate_eq_ok_iff {config : GenerationConfig} {table : SymbolTable} {cancelled : Bool}
    {output : GenerationOutput} :
    generate config table cancelled = .ok output ↔
      ∃ framework, Framework.resolve table config.names = .ok framework ∧
        (cancelled = true → table.candidates framework = []) ∧
        .gather ((table.candidates framework).map (config.process framework table)) = output := by
  rw [generate_eq]
  cases resolved : Framework.resolve table config.names with
  | error error =>
      refine iff_of_false (nomatch ·) ?_
      rintro ⟨framework, other, -⟩
      cases other
  | ok framework =>
      have gathered : ((table.candidates framework).map (config.process framework table)).foldl
          GenerationOutput.append .empty =
            .gather ((table.candidates framework).map (config.process framework table)) :=
        GenerationOutput.foldl_append_eq .empty _
      simp only [gathered, Except.ok.injEq, exists_eq_left']
      by_cases given_up : (cancelled && !(table.candidates framework).isEmpty) = true
      · rw [if_pos given_up]
        refine iff_of_false (nomatch ·) fun done => ?_
        rw [Bool.and_eq_true, Bool.not_eq_true', List.isEmpty_eq_false_iff] at given_up
        exact given_up.2 (done.1 given_up.1)
      · rw [if_neg given_up, Except.ok.injEq, iff_and_self]
        intro _ late
        simpa [late] using given_up

theorem generate_eq_error_iff {config : GenerationConfig} {table : SymbolTable} {cancelled : Bool}
    {error : GenerationError} :
    generate config table cancelled = .error error ↔
      (∃ missing, Framework.resolve table config.names = .error missing ∧
        .unresolved missing = error) ∨
      ∃ framework, Framework.resolve table config.names = .ok framework ∧ cancelled = true ∧
        table.candidates framework ≠ [] ∧ .cancelled = error := by
  rw [generate_eq]
  cases resolved : Framework.resolve table config.names with
  | error missing => simp
  | ok framework =>
      simp only [reduceCtorEq, false_and, exists_false, false_or, Except.ok.injEq,
        exists_eq_left']
      by_cases given_up : (cancelled && !(table.candidates framework).isEmpty) = true
      · rw [if_pos given_up, Except.error.injEq]
        rw [Bool.and_eq_true, Bool.not_eq_true', List.isEmpty_eq_false_iff] at given_up
        exact ⟨fun same => ⟨given_up.1, given_up.2, same⟩, fun failed => failed.2.2⟩
      · rw [if_neg given_up]
        refine iff_of_false (nomatch ·) ?_
        rintro ⟨late, undone, -⟩
        apply given_up
        rw [late, Bool.true_and, Bool.not_eq_true', List.isEmpty_eq_false_iff]
        exact undone

theorem generate_of_resolve_eq_ok {config : GenerationConfig} {table : SymbolTable}
    {framework : Framework} (resolved : Framework.resolve table config.names = .ok framework) :
    generate config table false =
      .ok (.gather ((table.candidates framework).map (config.process framework table))) :=
  generate_eq_ok_iff.mpr ⟨framework, resolved, nofun, rfl⟩

theorem generate_game {config : GenerationConfig} (usual : config.names = .standard)
    {types : List TypeDecl} {distinct : (types.map TypeDecl.name).Nodup}
    {user : ∀ decl ∈ types, decl.name.scope.head? = some "Game"} :
    let table := SymbolTable.game types distinct user
    let framework := Framework.ofNames .standard
    generate config table false =
      .ok (.gather ((table.candidates framework).map (config.process framework table))) := by
  intro table framework
  apply generate_of_resolve_eq_ok
  rw [usual]
  exact Framework.resolve_game

namespace SymbolTable

variable {table : SymbolTable} {framework : Framework}

theorem candidates_eq_filter :
    table.candidates framework =
      table.decls.filter fun decl => decl.isCandidate framework table := by
  rw [candidates, sourceClasses, List.filter_filter]
  apply List.filter_congr
  intro decl _
  rw [TypeDecl.isCandidate, Bool.and_right_comm, Bool.and_self]

theorem mem_sourceClasses_of_mem_candidates {decl : TypeDecl}
    (candidate : decl ∈ table.candidates framework) : decl ∈ table.sourceClasses :=
  List.mem_of_mem_filter candidate

/-- Nothing is given twice if no candidate gives anything twice and what it gives tells its name. -/
theorem nodup_flatMap_candidates {α : Type} {share : TypeDecl → List α}
    (parts : ∀ decl ∈ table.candidates framework, (share decl).Nodup)
    (apart : ∀ left ∈ table.candidates framework, ∀ right ∈ table.candidates framework,
      ∀ common ∈ share left, common ∈ share right → left.name = right.name) :
    ((table.candidates framework).flatMap share).Nodup := by
  have distinct : ((table.candidates framework).map TypeDecl.name).Nodup := by
    rw [candidates_eq_filter]
    exact table.nodup_map_name_decls.sublist (List.filter_sublist.map TypeDecl.name)
  rw [List.nodup_flatMap]
  refine ⟨parts, List.Pairwise.imp_of_mem ?_ (List.pairwise_map.mp distinct)⟩
  intro left right left_mem right_mem different common in_left in_right
  exact different (apart left left_mem right right_mem common in_left in_right)

end SymbolTable
end NodeLifecycle
