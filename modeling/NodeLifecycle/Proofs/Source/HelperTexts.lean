import NodeLifecycle.Source.Lifecycle

/-!
# The texts of helpers

A helper that is a method has its statements between braces, one level further in than its header.
In the unit of its pass a helper stands behind a blank line, and all of its lines are one level
further in.
-/

namespace NodeLifecycle

theorem append_ne_empty {left right : String} (solid : right ≠ "") : left ++ right ≠ "" := by
  intro empty
  have letters := congrArg String.toList empty
  rw [String.toList_append] at letters
  exact solid (String.toList_eq_nil_iff.mp (List.append_eq_nil_iff.mp letters).2)

theorem indented_of_ne {line : String} (solid : line ≠ "") : indented line = "    " ++ line := by
  rw [indented, String.isEmpty_eq_false_iff.mpr solid, if_neg Bool.false_ne_true]

theorem intercalate_cons_eq_append_join (separator first : String) (others : List String) :
    separator.intercalate (first :: others) =
      first ++ String.join (others.map fun text => separator ++ text) := by
  induction others generalizing first with
  | nil => rw [String.intercalate_singleton, List.map_nil, String.join_nil, String.append_empty]
  | cons second others ih =>
      rw [String.intercalate_cons_cons, ih, List.map_cons, String.join_cons]
      simp only [String.append_assoc]

namespace SourceUnit

theorem ofLines_cons (line : String) (others : List String) :
    ofLines (line :: others) = line ++ "\n" ++ ofLines others := by
  rw [ofLines, List.map_cons, String.join_cons]
  rfl

theorem ofLines_append (before after : List String) :
    ofLines (before ++ after) = ofLines before ++ ofLines after := by
  rw [ofLines, List.map_append, String.join_append]
  rfl

theorem ofLines_cons_eq_intercalate (first : String) (others : List String) :
    ofLines (first :: others) = "\n".intercalate (first :: others) ++ "\n" := by
  induction others generalizing first with
  | nil =>
      rw [ofLines_cons, ofLines_nil, String.intercalate_singleton, String.append_empty]
  | cons second others ih =>
      rw [ofLines_cons, ih, String.intercalate_cons_cons]
      simp only [String.append_assoc]

end SourceUnit

namespace Helper

/-- The text of a method: each statement stands on a line of its own between the braces. -/
theorem source_of_lines_eq {helper : Helper} {header : String} {body : List String}
    (lines_eq : helper.lines = methodLines header body)
    (solid : ∀ statement ∈ body, statement ≠ "") :
    helper.source =
      header ++ "\n    \x7b" ++
        String.join (body.map fun statement => "\n        " ++ statement) ++ "\n    \x7d" := by
  have deeper : ((body.map indented).map indented).map (fun line => "\n" ++ line) =
      body.map fun statement => "\n        " ++ statement := by
    rw [List.map_map, List.map_map]
    apply List.map_congr_left
    intro statement listed
    have margin : ("\n        " : String) = "\n" ++ ("    " ++ "    ") := by decide
    rw [Function.comp_apply, Function.comp_apply, indented_of_ne (solid statement listed),
      indented_of_ne (append_ne_empty (solid statement listed)), margin]
    simp only [String.append_assoc]
  have opened : ("\n    \x7b" : String) = "\n" ++ indented "\x7b" := by decide
  have closed : ("\n    \x7d" : String) = "\n" ++ indented "\x7d" := by decide
  rw [source, lines_eq, methodLines, opened, closed, ← deeper]
  simp only [List.cons_append, List.nil_append, List.map_cons, List.map_append, List.map_nil,
    intercalate_cons_eq_append_join, String.join_cons, String.join_append, String.join_nil,
    String.append_assoc, String.append_empty]

theorem exists_lines_eq_cons (helper : Helper) :
    ∃ first others, helper.lines = first :: others ∧ first ≠ "" := by
  cases helper with
  | sceneInit | disposeAll | slot | updater | reset =>
      exact ⟨_, _, rfl, append_ne_empty (by decide)⟩

theorem source_of_lines_eq_cons {helper : Helper} {first : String} {others : List String}
    (lines_eq : helper.lines = first :: others) :
    helper.source = "\n".intercalate (first :: others.map indented) := by
  rw [source, lines_eq]

theorem ofLines_lines (helper : Helper) :
    SourceUnit.ofLines (helper.lines.map indented) = "    " ++ helper.source ++ "\n" := by
  obtain ⟨first, others, lines_eq, solid⟩ := helper.exists_lines_eq_cons
  rw [source_of_lines_eq_cons lines_eq, lines_eq, List.map_cons,
    SourceUnit.ofLines_cons_eq_intercalate, indented_of_ne solid, intercalate_cons_eq_append_join,
    intercalate_cons_eq_append_join]
  simp only [String.append_assoc]

end Helper

/-- The unit of a pass holds the text of each of its helpers, moved in by one level. -/
theorem SourceUnit.exists_text_eq_of_mem_helpers {generatorNamespace : String}
    {model : LifecycleModel} {unit : SourceUnit} {helper : Helper}
    (made : ofModel? generatorNamespace model = some unit) (listed : helper ∈ model.helpers) :
    ∃ before after, unit.text = before ++ "\n    " ++ helper.source ++ "\n" ++ after := by
  rw [ofModel?, Option.ite_none_right_eq_some] at made
  obtain ⟨-, made⟩ := made
  have among : "" :: helper.lines.map indented <:+:
      model.helpers.flatMap fun helper => "" :: helper.lines.map indented :=
    List.infix_of_mem_flatten (List.mem_map_of_mem listed)
  obtain ⟨opening, closing, whole⟩ :=
    among.trans (List.infix_append (_ ++ _ ++ overrideLines _ _ _) _ ["\x7d"])
  refine ⟨ofLines opening, ofLines closing, ?_⟩
  have margin : ("\n    " : String) = "\n" ++ "    " := by decide
  rw [← Option.some.inj made, lifecycleLines, ← whole, ofLines_append, ofLines_append, ofLines_cons,
    Helper.ofLines_lines, margin, String.empty_append]
  simp only [String.append_assoc]

end NodeLifecycle
