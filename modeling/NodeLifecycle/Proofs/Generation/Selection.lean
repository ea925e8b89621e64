import NodeLifecycle.Proofs.Generation.Hints

/-!
# Runs with fewer units

A run may leave units out.  What is left is the part of the full run that belongs to the wanted
units, text by text, and the report of the wanted passes: leaving units out changes neither how a
class is analyzed nor whether the run succeeds.  To which unit a text belongs is read from the name
under which it is filed.
-/

namespace NodeLifecycle

theorem Pass.shortName_ne_scriptMethodsShortName (pass : Pass) :
    pass.shortName ≠ scriptMethodsShortName := by
  cases pass <;> decide

namespace UnitSelection

def unitNames (selection : UnitSelection) : List String :=
  selection.passes.map Pass.shortName ++
    if selection.scriptMethods then [scriptMethodsShortName] else []

variable {selection : UnitSelection}

theorem shortName_mem_unitNames_iff {pass : Pass} :
    pass.shortName ∈ selection.unitNames ↔ selection.includes pass = true := by
  have injective : ∀ left right : Pass, left.shortName = right.shortName → left = right := by
    intro left right
    cases left <;> cases right <;> decide
  rw [unitNames, List.mem_append, List.mem_map]
  simp only [mem_passes]
  constructor
  · rintro (⟨wanted, included, same⟩ | registered)
    · rwa [← injective wanted pass same]
    · split at registered
      · exact absurd (List.mem_singleton.mp registered) pass.shortName_ne_scriptMethodsShortName
      · cases registered
  · intro included
    exact Or.inl ⟨pass, included, rfl⟩

theorem scriptMethodsShortName_mem_unitNames_iff :
    scriptMethodsShortName ∈ selection.unitNames ↔ selection.scriptMethods = true := by
  rw [unitNames, List.mem_append, List.mem_map]
  cases selection.scriptMethods <;> simp [Pass.shortName_ne_scriptMethodsShortName]

end UnitSelection

namespace SourceUnit

/-- The short name of a unit, read from its hint: what stands between the last underscore and the
next dot. -/
def shortName (unit : SourceUnit) : String :=
  String.ofList ((unit.hint.toList.reverse.takeWhile (· != '_')).reverse.takeWhile (· != '.'))

variable {unit : SourceUnit} {generatorNamespace : String}

theorem shortName_of_hint_eq {type : QualifiedName} {name : String} (known : name ∈ unitNames)
    (filed : unit.hint = hintName type name) : unit.shortName = name := by
  have no_dot : ∀ name ∈ unitNames, '.' ∉ name.toList := by decide
  have cut : unit.hint.toList =
      type.display.toList ++ '_' :: (name.toList ++ '.' :: "generated.cs".toList) := by
    simp [filed, hintName]
  have free : '_' ∉ name.toList ++ '.' :: "generated.cs".toList := by
    rw [List.mem_append, not_or]
    exact ⟨underscore_not_mem_of_mem_unitNames name known, by decide⟩
  have named : (name.toList ++ '.' :: "generated.cs".toList).takeWhile (· != '.') =
      name.toList := by
    rw [List.takeWhile_append_of_pos, List.takeWhile_cons_of_neg, List.append_nil]
    · simp
    · intro char inside
      rw [bne_iff_ne]
      exact fun equal => no_dot name known (equal ▸ inside)
  rw [shortName, cut, Text.takeWhile_reverse_append_cons free, List.reverse_reverse, named,
    String.ofList_toList]

theorem shortName_of_ofModel? {model : LifecycleModel}
    (made : ofModel? generatorNamespace model = some unit) :
    unit.shortName = model.pass.shortName := by
  refine shortName_of_hint_eq ?_ (hint_of_ofModel?_eq_some made)
  cases model.pass <;> decide

theorem shortName_of_ofMethodTable? {descriptor : ClassDescriptor} {methods : MethodTable}
    (made : ofMethodTable? generatorNamespace descriptor methods = some unit) :
    unit.shortName = scriptMethodsShortName :=
  shortName_of_hint_eq (by decide) (hint_of_ofMethodTable?_eq_some made)

/-- Whether a unit is one of the wanted ones. -/
def isIn (selection : UnitSelection) (unit : SourceUnit) : Bool :=
  selection.unitNames.contains unit.shortName

end SourceUnit

namespace GenerationConfig

/-- The same settings with other units. -/
def select (config : GenerationConfig) (selection : UnitSelection) : GenerationConfig :=
  { config with selection := selection }

variable (config : GenerationConfig) (selection : UnitSelection) (framework : Framework)
  (table : SymbolTable) (decl : TypeDecl)

theorem lifecycleUnits_select (marshalling other : Bool) :
    (config.select selection).lifecycleUnits (decl.analyze framework table marshalling) =
      ((config.select .all).lifecycleUnits (decl.analyze framework table other)).filter
        (SourceUnit.isIn selection) := by
  have all_passes : UnitSelection.passes .all = Pass.all := rfl
  simp only [lifecycleUnits, select, all_passes, TypeDecl.model_analyze]
  rw [UnitSelection.passes, List.filterMap_filter, List.filter_filterMap]
  apply List.filterMap_congr
  intro pass _
  cases made : SourceUnit.ofModel? config.generatorNamespace
      (decl.lifecycleModel framework table pass) with
  | none => simp
  | some unit =>
      have wanted : SourceUnit.isIn selection unit = selection.includes pass := by
        rw [Bool.eq_iff_iff, SourceUnit.isIn, List.contains_iff_mem,
          SourceUnit.shortName_of_ofModel? made, TypeDecl.pass_lifecycleModel,
          UnitSelection.shortName_mem_unitNames_iff]
      rw [Option.filter_some, wanted]

theorem scriptMethodsUnit?_select :
    ((config.select selection).scriptMethodsUnit?
        (decl.analyze framework table (config.select selection).emitsScriptMethods)).toList =
      ((config.select .all).scriptMethodsUnit?
        (decl.analyze framework table (config.select .all).emitsScriptMethods)).toList.filter
          (SourceUnit.isIn selection) := by
  have wanted : ∀ unit ∈ ((config.select .all).scriptMethodsUnit?
      (decl.analyze framework table (config.select .all).emitsScriptMethods)).toList,
      SourceUnit.isIn selection unit = selection.scriptMethods := by
    intro unit listed
    obtain ⟨methods, -, made⟩ := Option.bind_eq_some_iff.mp (Option.mem_toList.mp listed)
    rw [Bool.eq_iff_iff, SourceUnit.isIn, List.contains_iff_mem,
      SourceUnit.shortName_of_ofMethodTable? made,
      UnitSelection.scriptMethodsShortName_mem_unitNames_iff]
  rw [List.filter_congr wanted]
  cases registered : selection.scriptMethods with
  | false =>
      rw [List.filter_false, scriptMethodsUnit?, if_neg (by simp [select, registered])]
      rfl
  | true =>
      have same_tables : (config.select selection).emitsScriptMethods =
          (config.select .all).emitsScriptMethods := by
        simp [emitsScriptMethods, select, registered, UnitSelection.all]
      rw [List.filter_true, same_tables, scriptMethodsUnit?,
        if_pos (by simp [select, registered])]
      rfl

/-- Of one class, the texts of the wanted units are left, in their order. -/
theorem sources_process_select :
    ((config.select selection).process framework table decl).sources =
      ((config.select .all).process framework table decl).sources.filter
        (SourceUnit.isIn selection) := by
  rw [process, process, render, render, List.filter_append, ← scriptMethodsUnit?_select,
    ← lifecycleUnits_select]

theorem mem_diagnostics_process_select {diagnostic : Diagnostic} :
    diagnostic ∈ ((config.select selection).process framework table decl).diagnostics.items ↔
      ∃ pass, selection.includes pass = true ∧
        diagnostic ∈ (decl.lifecycleModel framework table pass).diagnostics := by
  rw [process, render, Report.mem_items_ofList, List.mem_flatMap]
  simp only [TypeDecl.model_analyze, UnitSelection.mem_passes, select]

end GenerationConfig

/-- A run with some of the units fails exactly like the full run.  Where the full run succeeds, it
gives those texts of the full run that belong to the wanted units, in their order, and reports what
the wanted passes of the candidates report. -/
theorem generate_select (config : GenerationConfig) (selection : UnitSelection)
    (table : SymbolTable) (cancelled : Bool) :
    (∀ error, generate (config.select selection) table cancelled = .error error ↔
        generate (config.select .all) table cancelled = .error error) ∧
      ∀ full, generate (config.select .all) table cancelled = .ok full →
        ∃ framework output, Framework.resolve table config.names = .ok framework ∧
          generate (config.select selection) table cancelled = .ok output ∧
          output.sources = full.sources.filter (SourceUnit.isIn selection) ∧
          ∀ diagnostic, diagnostic ∈ output.diagnostics.items ↔
            ∃ decl ∈ table.candidates framework, ∃ pass, selection.includes pass = true ∧
              diagnostic ∈ ((decl.analyze framework table
                (config.select .all).emitsScriptMethods).model pass).diagnostics := by
  constructor
  · intro error
    rw [generate_eq_error_iff, generate_eq_error_iff]
    rfl
  · intro full done
    obtain ⟨framework, resolved, finished, rfl⟩ := generate_eq_ok_iff.mp done
    refine ⟨framework, _, resolved, generate_eq_ok_iff.mpr ⟨framework, resolved, finished, rfl⟩,
      ?_, ?_⟩
    · rw [GenerationOutput.sources_gather, GenerationOutput.sources_gather, List.flatMap_map,
        List.flatMap_map, List.filter_flatMap]
      simp only [GenerationConfig.sources_process_select config selection]
    · intro diagnostic
      rw [GenerationOutput.diagnostics_gather, Report.mem_items_ofList, List.flatMap_map,
        List.mem_flatMap]
      simp only [GenerationConfig.mem_diagnostics_process_select, TypeDecl.model_analyze]

end NodeLifecycle
