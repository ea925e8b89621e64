import NodeLifecycle.Symbol.QualifiedName

/-!
# Well-formed names

A segment is a text that is not empty and holds no dot.  Segments joined by dots are read back by
splitting at the dots, so a name whose parts are segments is told by its displayed text, and the
scope of such a name by its dotted namespace.  Names that are read from a text are of this kind,
except for the empty global name.  So these are the names that are read back from what they display,
where one leading alias of the global namespace is lost.
-/

namespace NodeLifecycle

namespace Text

/-- A text that is not empty and holds no dot. -/
def IsSegment (text : String) : Prop :=
  text ≠ "" ∧ '.' ∉ text.toList

instance (text : String) : Decidable (IsSegment text) :=
  inferInstanceAs (Decidable (_ ∧ _))

theorem IsSegment.toList_ne_nil {part : String} (valid : IsSegment part) : part.toList ≠ [] :=
  mt String.toList_eq_nil_iff.mp valid.1

theorem not_mem_of_mem_splitOn {separator : Char} {text piece : List Char}
    (listed : piece ∈ text.splitOn separator) : separator ∉ piece := by
  induction text generalizing piece with
  | nil =>
      rw [List.splitOn_nil, List.mem_singleton] at listed
      simp [listed]
  | cons char rest induction =>
      rw [List.splitOn_cons_eq_if_modifyHead] at listed
      split at listed
      · rcases List.mem_cons.mp listed with rfl | later
        · exact List.not_mem_nil
        · exact induction later
      · rename_i inside
        cases pieces : rest.splitOn separator with
        | nil => exact absurd pieces (List.splitOn_ne_nil separator rest)
        | cons first others =>
            rw [pieces] at listed induction
            rcases List.mem_cons.mp listed with rfl | later
            · rw [List.mem_cons, not_or]
              exact ⟨fun same => inside (beq_iff_eq.mpr same.symm), induction List.mem_cons_self⟩
            · exact induction (List.mem_cons_of_mem _ later)

theorem isSegment_of_mem_segments {text segment : List Char} (listed : segment ∈ segments text) :
    IsSegment (String.ofList segment) := by
  constructor
  · exact mt String.ofList_eq_empty_iff.mp (ne_nil_of_mem_segments listed)
  · rw [String.toList_ofList]
    exact not_mem_of_mem_splitOn (List.mem_filter.mp listed).1

theorem segments_append_dot (left right : List Char) :
    segments (left ++ '.' :: right) = segments left ++ segments right := by
  rw [segments, List.splitOn, List.splitOnP_append_cons left right (by simp), List.filter_append]
  rfl

theorem segments_eq_singleton {part : List Char} (nonempty : part ≠ []) (undotted : '.' ∉ part) :
    segments part = [part] := by
  rw [segments, List.splitOn_eq_singleton undotted]
  simp [nonempty]

/-- Induction along the dots of a text: nothing, a segment, or texts on the sides of a dot. -/
@[elab_as_elim]
theorem dot_induction {motive : List Char → Prop} (nothing : motive [])
    (segment : ∀ part, part ≠ [] → '.' ∉ part → motive part)
    (dot : ∀ left right, motive left → motive right → motive (left ++ '.' :: right))
    (text : List Char) : motive text := by
  have undotted {part : List Char} (absent : '.' ∉ part) : motive part := by
    by_cases empty : part = []
    · rw [empty]
      exact nothing
    · exact segment part empty absent
  by_cases dotted : '.' ∈ text
  · obtain ⟨left, right, split, first⟩ := List.eq_append_cons_of_mem dotted
    have shorter : right.length < text.length := by
      rw [split, List.length_append, List.length_cons]
      omega
    rw [split]
    exact dot left right (undotted first) (dot_induction nothing segment dot right)
  · exact undotted dotted
termination_by text.length

theorem flatten_segments (text : List Char) :
    (segments text).flatten = text.filter (· != '.') := by
  induction text using dot_induction with
  | nothing => rfl
  | segment part nonempty undotted =>
      have kept : part.filter (· != '.') = part := by
        rw [List.filter_eq_self]
        rintro char inside
        rw [bne_iff_ne]
        rintro rfl
        exact undotted inside
      rw [kept, segments_eq_singleton nonempty undotted, List.flatten_singleton]
  | dot left right front back =>
      rw [segments_append_dot, List.flatten_append, front, back, List.filter_append,
        List.filter_cons]
      rfl

theorem map_ofList_inj {left right : List (List Char)} :
    left.map String.ofList = right.map String.ofList ↔ left = right :=
  List.map_inj_right fun _ _ => String.ofList_inj.mp

/-- What holds no mark and begins a text ends before the first mark. -/
theorem prefix_of_prefix_append_cons {pattern front rest : List Char} {mark : Char}
    (absent : mark ∉ pattern) (starts : pattern <+: front ++ mark :: rest) :
    pattern <+: front := by
  obtain ⟨back, split⟩ := starts
  obtain ⟨remaining, front_eq, -⟩ | ⟨beyond, pattern_eq, beyond_eq⟩ :=
    List.append_eq_append_iff.mp split
  · exact ⟨remaining, front_eq.symm⟩
  · cases beyond with
    | nil => exact ⟨[], by simpa using pattern_eq⟩
    | cons char others =>
        rw [List.cons_append, List.cons.injEq] at beyond_eq
        rw [pattern_eq, ← beyond_eq.1] at absent
        simp at absent

theorem dottedSegments_dotted {parts : List String} (valid : ∀ part ∈ parts, IsSegment part) :
    dottedSegments (dotted parts) = parts := by
  cases parts with
  | nil => rfl
  | cons first rest =>
      have dot_free : ∀ piece ∈ (first :: rest).map String.toList, '.' ∉ piece := by
        intro piece listed
        obtain ⟨part, part_mem, rfl⟩ := List.mem_map.mp listed
        exact (valid part part_mem).2
      have kept : ∀ piece ∈ (first :: rest).map String.toList, (!piece.isEmpty) = true := by
        intro piece listed
        obtain ⟨part, part_mem, rfl⟩ := List.mem_map.mp listed
        simpa using (valid part part_mem).1
      have split : (dotted (first :: rest)).toList.splitOn '.' =
          (first :: rest).map String.toList := by
        rw [dotted, String.toList_intercalate]
        exact List.splitOn_intercalate '.' dot_free (by simp)
      rw [dottedSegments, segments, split, List.filter_eq_self.mpr kept, List.map_map]
      simp [Function.comp_def]

end Text

namespace QualifiedName

/-- The segments of a name, the simple name last. -/
def parts (name : QualifiedName) : List String :=
  name.scope ++ [name.simple]

/-- Whether every part of a name is a segment. -/
def IsWellFormed (name : QualifiedName) : Prop :=
  ∀ part ∈ name.parts, Text.IsSegment part

instance (name : QualifiedName) : Decidable name.IsWellFormed :=
  inferInstanceAs (Decidable (∀ part ∈ name.parts, Text.IsSegment part))

variable {left right : QualifiedName}

theorem eq_of_parts_eq (same : left.parts = right.parts) : left = right := by
  obtain ⟨scopes, simples⟩ := List.append_inj' same rfl
  cases left
  cases right
  cases scopes
  cases simples
  rfl

theorem display_eq_dotted_parts (name : QualifiedName) : name.display = Text.dotted name.parts := by
  rw [display, isGlobal, scopeText, parts]
  cases scope : name.scope with
  | nil => simp [Text.dotted]
  | cons first rest =>
      rw [Text.dotted, Text.dotted, String.intercalate_append_of_ne_nil (List.cons_ne_nil _ _)
        (List.cons_ne_nil _ _), String.intercalate_singleton]
      rfl

theorem eq_of_display_eq (left_valid : left.IsWellFormed) (right_valid : right.IsWellFormed)
    (same : left.display = right.display) : left = right := by
  apply eq_of_parts_eq
  rw [← Text.dottedSegments_dotted left_valid, ← Text.dottedSegments_dotted right_valid,
    ← display_eq_dotted_parts, ← display_eq_dotted_parts, same]

theorem eq_of_scopeText_eq (left_valid : left.IsWellFormed) (right_valid : right.IsWellFormed)
    (simples : left.simple = right.simple) (scopes : left.scopeText = right.scopeText) :
    left = right := by
  have left_scope : Text.dottedSegments left.scopeText = left.scope :=
    Text.dottedSegments_dotted fun part inside => left_valid part (List.mem_append_left _ inside)
  have right_scope : Text.dottedSegments right.scopeText = right.scope :=
    Text.dottedSegments_dotted fun part inside => right_valid part (List.mem_append_left _ inside)
  apply eq_of_parts_eq
  rw [parts, parts, simples, ← left_scope, ← right_scope, scopes]

theorem parts_ofParts {parts : List String} (nonempty : parts ≠ []) :
    (ofParts parts).parts = parts := by
  rw [ofParts, QualifiedName.parts, List.getLastD_eq_getLast?,
    List.getLast?_eq_some_getLast nonempty]
  exact List.dropLast_concat_getLast nonempty

@[simp] theorem ofParts_parts (name : QualifiedName) : ofParts name.parts = name :=
  eq_of_parts_eq (parts_ofParts (by simp [parts]))

theorem isWellFormed_ofText {text : String}
    (segment : Text.segments (withoutAlias text.toList) ≠ []) : (ofText text).IsWellFormed := by
  rw [IsWellFormed, ofText, parts_ofParts (by simpa using segment)]
  intro part listed
  obtain ⟨piece, piece_mem, rfl⟩ := List.mem_map.mp listed
  exact Text.isSegment_of_mem_segments piece_mem

/-! ## Reading back -/

theorem isWellFormed_or_eq_global_ofText (text : String) :
    (ofText text).IsWellFormed ∨ ofText text = global "" := by
  by_cases blank : Text.segments (withoutAlias text.toList) = []
  · right
    rw [ofText, blank]
    rfl
  · exact Or.inl (isWellFormed_ofText blank)

theorem withoutAlias_append (text : List Char) : withoutAlias (globalAlias ++ text) = text := by
  rw [withoutAlias, if_pos (List.isPrefixOf_iff_prefix.mpr (List.prefix_append _ _)),
    List.drop_left]

theorem withoutAlias_of_unaliased {text : List Char} (bare : ¬globalAlias <+: text) :
    withoutAlias text = text := by
  rw [withoutAlias, if_neg (mt List.isPrefixOf_iff_prefix.mp bare)]

/-- An alias in front of a text shows in its segments. -/
theorem segments_alias_append_ne (text : List Char) :
    Text.segments (globalAlias ++ text) ≠ Text.segments text := by
  intro same
  have letters := congrArg (fun pieces => pieces.flatten.length) same
  simp only [Text.flatten_segments, List.filter_append, List.length_append] at letters
  have alias_length : (globalAlias.filter (· != '.')).length = 8 := rfl
  omega

/-- The segments of a displayed name are its parts. -/
theorem dottedSegments_display {name : QualifiedName} (valid : name.IsWellFormed) :
    Text.dottedSegments name.display = name.parts := by
  rw [display_eq_dotted_parts, Text.dottedSegments_dotted valid]

theorem ofParts_dottedSegments_display {name : QualifiedName}
    (readable : name.IsWellFormed ∨ name = global "") :
    ofParts (Text.dottedSegments name.display) = name := by
  obtain valid | rfl := readable
  · rw [dottedSegments_display valid, ofParts_parts]
  · rfl

theorem not_isWellFormed_global_empty : ¬(global "").IsWellFormed :=
  fun valid => (valid "" List.mem_cons_self).1 rfl

/-- The name that is spelled behind the alias is read back if any text is read as this name. -/
theorem ofText_globalDisplay_iff (name : QualifiedName) :
    ofText name.globalDisplay = name ↔ name.IsWellFormed ∨ name = global "" := by
  constructor
  · intro read
    rw [← read]
    exact isWellFormed_or_eq_global_ofText name.globalDisplay
  · intro readable
    have spelled : name.globalDisplay.toList = globalAlias ++ name.display.toList := by
      rw [globalDisplay, String.toList_append]
      rfl
    rw [ofText, spelled, withoutAlias_append]
    exact ofParts_dottedSegments_display readable

/-- The displayed name is read back unless it begins with the alias, which is taken off. -/
theorem ofText_display_iff (name : QualifiedName) :
    ofText name.display = name ↔
      (name.IsWellFormed ∨ name = global "") ∧ ¬globalAlias <+: name.display.toList := by
  constructor
  · intro read
    have readable : name.IsWellFormed ∨ name = global "" := by
      rw [← read]
      exact isWellFormed_or_eq_global_ofText name.display
    refine ⟨readable, ?_⟩
    rintro ⟨rest, display_eq⟩
    rw [ofText, ← display_eq, withoutAlias_append] at read
    obtain valid | rfl := readable
    · -- the parts are the segments of the whole text, and so are those of the rest
      have shown : (Text.segments (globalAlias ++ rest)).map String.ofList = name.parts := by
        rw [display_eq]
        exact dottedSegments_display valid
      by_cases blank : Text.segments rest = []
      · rw [blank] at read
        rw [← read] at valid
        exact not_isWellFormed_global_empty valid
      · have behind : (Text.segments rest).map String.ofList = name.parts := by
          rw [← read, parts_ofParts (by simpa using blank)]
        exact segments_alias_append_ne rest
          (Text.map_ofList_inj.mp (shown.trans behind.symm))
    · exact List.cons_ne_nil _ _ display_eq
  · rintro ⟨readable, bare⟩
    rw [ofText, withoutAlias_of_unaliased bare]
    exact ofParts_dottedSegments_display readable

/-- Exactly the well-formed names and the empty global name are read back from what is spelled
behind the alias, and no other names are ever read.  What is displayed is read back but for names
whose text begins with the alias, and it tells the well-formed names apart. -/
theorem reads_back_iff (name : QualifiedName) :
    (ofText name.globalDisplay = name ↔ name.IsWellFormed ∨ name = global "") ∧
      (ofText name.display = name ↔
        (name.IsWellFormed ∨ name = global "") ∧ ¬globalAlias <+: name.display.toList) ∧
      (∀ text, (ofText text).IsWellFormed ∨ ofText text = global "") ∧
      ∀ left right : QualifiedName, left.IsWellFormed → right.IsWellFormed →
        left.display = right.display → left = right := by
  refine ⟨ofText_globalDisplay_iff name, ofText_display_iff name,
    isWellFormed_or_eq_global_ofText, ?_⟩
  intro left right left_valid right_valid same
  exact eq_of_display_eq left_valid right_valid same

/-- The first namespace of a well-formed name may begin with the alias; such a name is read back
only behind another one. -/
example : ofText (QualifiedName.mk "Node" ["global::Engine"]).display = ⟨"Node", ["Engine"]⟩ ∧
    ofText (QualifiedName.mk "Node" ["global::Engine"]).globalDisplay =
      ⟨"Node", ["global::Engine"]⟩ := by
  decide

end QualifiedName
end NodeLifecycle
