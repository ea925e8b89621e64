import NodeLifecycle.Proofs.FirstOccurrences
import NodeLifecycle.Proofs.Generation.Outcome
import NodeLifecycle.Proofs.Symbol.WellFormedNames

/-!
# Hints

The name under which a unit is filed ends in an underscore and the short name of the unit.  Short
names hold no underscore, so the last underscore parts the class from the unit, even if the name of
the class ends like a unit's.  Among classes with well-formed names a unit is thus found again by
the name under which it is filed.
-/

namespace NodeLifecycle

theorem Text.takeWhile_reverse_append_cons {separator : Char} {front back : List Char}
    (free : separator ∉ back) :
    (front ++ separator :: back).reverse.takeWhile (· != separator) = back.reverse := by
  rw [List.reverse_append, List.reverse_cons, List.append_assoc, List.singleton_append,
    List.takeWhile_append_of_pos, List.takeWhile_cons_of_neg, List.append_nil]
  · simp
  · intro char inside
    rw [bne_iff_ne]
    exact fun equal => free (equal ▸ List.mem_reverse.mp inside)

/-- A text is cut at its last separator in one way only. -/
theorem Text.append_cons_injective {separator : Char} {left right left_end right_end : List Char}
    (left_free : separator ∉ left_end) (right_free : separator ∉ right_end)
    (same : left ++ separator :: left_end = right ++ separator :: right_end) :
    left = right ∧ left_end = right_end := by
  have ends : left_end = right_end := by
    apply List.reverse_injective
    rw [← takeWhile_reverse_append_cons left_free, same, takeWhile_reverse_append_cons right_free]
  subst ends
  exact ⟨List.append_cancel_right same, rfl⟩

/-! ## The units of a class -/

def unitNames : List String :=
  Pass.all.map Pass.shortName ++ [scriptMethodsShortName]

theorem nodup_unitNames : unitNames.Nodup := by decide

theorem underscore_not_mem_of_mem_unitNames :
    ∀ shortName ∈ unitNames, '_' ∉ shortName.toList := by decide

namespace SourceUnit

theorem display_eq_of_hintName_eq {left right : QualifiedName} {left_unit right_unit : String}
    (left_mem : left_unit ∈ unitNames) (right_mem : right_unit ∈ unitNames)
    (same : hintName left left_unit = hintName right right_unit) :
    left.display = right.display ∧ left_unit = right_unit := by
  have cut (type : QualifiedName) (shortName : String) :
      (hintName type shortName).toList =
        (type.display.toList ++ '_' :: shortName.toList) ++ ".generated.cs".toList := by
    simp [hintName]
  have texts := congrArg String.toList same
  rw [cut, cut] at texts
  obtain ⟨displays, shortNames⟩ := Text.append_cons_injective
    (underscore_not_mem_of_mem_unitNames left_unit left_mem)
    (underscore_not_mem_of_mem_unitNames right_unit right_mem) (List.append_cancel_right texts)
  exact ⟨String.toList_injective displays, String.toList_injective shortNames⟩

/-- Among classes with well-formed names, a hint tells the class and the unit. -/
theorem hintName_injective {left right : QualifiedName} {left_unit right_unit : String}
    (left_valid : left.IsWellFormed) (right_valid : right.IsWellFormed)
    (left_mem : left_unit ∈ unitNames) (right_mem : right_unit ∈ unitNames)
    (same : hintName left left_unit = hintName right right_unit) :
    left = right ∧ left_unit = right_unit := by
  obtain ⟨displays, shortNames⟩ := display_eq_of_hintName_eq left_mem right_mem same
  exact ⟨QualifiedName.eq_of_display_eq left_valid right_valid displays, shortNames⟩

theorem hint_of_ofModel?_eq_some {generatorNamespace : String} {model : LifecycleModel}
    {unit : SourceUnit} (made : ofModel? generatorNamespace model = some unit) :
    unit.hint = hintName model.descriptor.name model.pass.shortName := by
  rw [ofModel?] at made
  split at made
  · rw [← Option.some.inj made]
  · cases made

theorem hint_of_ofMethodTable?_eq_some {generatorNamespace : String} {descriptor : ClassDescriptor}
    {methods : MethodTable} {unit : SourceUnit}
    (made : ofMethodTable? generatorNamespace descriptor methods = some unit) :
    unit.hint = hintName descriptor.name scriptMethodsShortName := by
  rw [ofMethodTable?] at made
  split at made
  · cases made
  · obtain ⟨engineParent, -, rfl⟩ := Option.map_eq_some_iff.mp made
    rfl

end SourceUnit

private theorem map_filterMap_sublist {α β κ : Type} {make : α → Option β} {key : β → κ}
    {expected : α → κ} {elements : List α}
    (keyed : ∀ element ∈ elements, ∀ made, make element = some made → key made = expected element) :
    ((elements.filterMap make).map key).Sublist (elements.map expected) := by
  induction elements with
  | nil => exact List.Sublist.slnil
  | cons first rest induction =>
      obtain ⟨keyed_first, keyed_rest⟩ := List.forall_mem_cons.mp keyed
      rw [List.filterMap_cons, List.map_cons]
      split
      · exact (induction keyed_rest).cons _
      · rename_i made found
        rw [List.map_cons, keyed_first made found]
        exact (induction keyed_rest).cons_cons _

namespace GenerationConfig

variable (config : GenerationConfig) (framework : Framework) (table : SymbolTable)
  (decl : TypeDecl)

theorem hints_lifecycleUnits_sublist :
    ((config.lifecycleUnits (decl.analyze framework table config.emitsScriptMethods)).map
        SourceUnit.hint).Sublist
      ((Pass.all.map Pass.shortName).map (SourceUnit.hintName decl.name)) := by
  rw [List.map_map]
  refine (map_filterMap_sublist ?_).trans (List.filter_sublist.map _)
  intro pass _ unit made
  rw [SourceUnit.hint_of_ofModel?_eq_some made, TypeDecl.model_analyze,
    TypeDecl.pass_lifecycleModel, TypeDecl.descriptor_lifecycleModel]
  rfl

theorem hints_scriptMethodsUnit?_sublist :
    ((config.scriptMethodsUnit? (decl.analyze framework table config.emitsScriptMethods)).toList.map
        SourceUnit.hint).Sublist
      ([scriptMethodsShortName].map (SourceUnit.hintName decl.name)) := by
  cases found :
      config.scriptMethodsUnit? (decl.analyze framework table config.emitsScriptMethods) with
  | none => exact List.nil_sublist _
  | some unit =>
      rw [scriptMethodsUnit?] at found
      split at found
      · obtain ⟨methods, -, made⟩ := Option.bind_eq_some_iff.mp found
        rw [Option.toList_some, List.map_singleton, SourceUnit.hint_of_ofMethodTable?_eq_some made]
        exact List.Sublist.refl _
      · cases found

theorem hints_process_sublist :
    (config.process framework table decl).hints.Sublist
      (unitNames.map (SourceUnit.hintName decl.name)) := by
  rw [GenerationOutput.hints, process, render, List.map_append, unitNames, List.map_append]
  exact (config.hints_lifecycleUnits_sublist framework table decl).append
    (config.hints_scriptMethodsUnit?_sublist framework table decl)

theorem nodup_hints_process (valid : decl.name.IsWellFormed) :
    (config.process framework table decl).hints.Nodup := by
  refine (nodup_unitNames.map_on ?_).sublist (config.hints_process_sublist framework table decl)
  intro left left_mem right right_mem same
  exact (SourceUnit.hintName_injective valid valid left_mem right_mem same).2

theorem name_eq_of_mem_hints_process {left right : TypeDecl} {hint : String}
    (left_valid : left.name.IsWellFormed) (right_valid : right.name.IsWellFormed)
    (in_left : hint ∈ (config.process framework table left).hints)
    (in_right : hint ∈ (config.process framework table right).hints) : left.name = right.name := by
  obtain ⟨left_unit, left_mem, rfl⟩ := List.mem_map.mp
    ((config.hints_process_sublist framework table left).subset in_left)
  obtain ⟨right_unit, right_mem, same⟩ := List.mem_map.mp
    ((config.hints_process_sublist framework table right).subset in_right)
  exact (SourceUnit.hintName_injective left_valid right_valid left_mem right_mem same.symm).1

end GenerationConfig

/-! ## The units of a run -/

theorem GenerationOutput.hints_gather (outputs : List GenerationOutput) :
    (gather outputs).hints = outputs.flatMap hints :=
  List.map_flatMap

/-- If the classes of the compilation have well-formed names, as all names have that are read from a
text with a segment, then the units of a run are filed under distinct names, and each is found under
its own. -/
theorem nodup_hints_of_generate_eq_ok {config : GenerationConfig} {table : SymbolTable}
    {cancelled : Bool} {output : GenerationOutput}
    (valid : ∀ decl ∈ table.sourceClasses, decl.name.IsWellFormed)
    (done : generate config table cancelled = .ok output) :
    (∀ text : String, Text.segments (QualifiedName.withoutAlias text.toList) ≠ [] →
        (QualifiedName.ofText text).IsWellFormed) ∧
      output.hints.Nodup ∧ ∀ unit ∈ output.sources, output.source? unit.hint = some unit := by
  obtain ⟨framework, -, -, made⟩ := generate_eq_ok_iff.mp done
  have own : ∀ decl ∈ table.candidates framework, decl.name.IsWellFormed :=
    fun decl candidate => valid decl (SymbolTable.mem_sourceClasses_of_mem_candidates candidate)
  have distinct : output.hints.Nodup := by
    rw [← made, GenerationOutput.hints_gather, List.flatMap_map]
    apply SymbolTable.nodup_flatMap_candidates
    · intro decl candidate
      exact config.nodup_hints_process framework table decl (own decl candidate)
    · intro left left_candidate right right_candidate hint in_left in_right
      exact config.name_eq_of_mem_hints_process framework table (own left left_candidate)
        (own right right_candidate) in_left in_right
  refine ⟨fun text => QualifiedName.isWellFormed_ofText, distinct, ?_⟩
  intro unit listed
  exact (FirstOccurrences.find?_eq_some_iff_of_nodup distinct).mpr ⟨listed, rfl⟩

/-- A class may be named like the unit of another class. -/
theorem nodup_hints_of_similar_names :
    let player := TypeDecl.player [.make [.onReady] []]
    let other := { player with name := .ofText "Game.Player_OnReady" }
    let table := SymbolTable.game [player, other] (by decide) (by decide)
    let config := { GenerationConfig.standard with selection := .only .ready }
    ∃ output, generate config table false = .ok output ∧
      output.hints =
        ["Game.Player_OnReady.generated.cs", "Game.Player_OnReady_OnReady.generated.cs"] ∧
      (∀ decl ∈ table.sourceClasses, decl.name.IsWellFormed) ∧
      output.hints.Nodup ∧ ∀ unit ∈ output.sources, output.source? unit.hint = some unit := by
  intro player other table config
  have valid : ∀ decl ∈ table.sourceClasses, decl.name.IsWellFormed := by
    rw [SymbolTable.sourceClasses_game]
    decide
  have done : generate config table false = .ok _ := generate_game rfl
  exact ⟨_, done, by decide +kernel, valid, (nodup_hints_of_generate_eq_ok valid done).2⟩

end NodeLifecycle
