import NodeLifecycle.Framework.Names
import NodeLifecycle.Proofs.Symbol.WellFormedNames

/-!
# Namespaces of the framework

A type of the framework is named by writing its simple name behind the text of a namespace and
reading the whole.  Whether a type lives in a namespace is decided on the segments of that text as
it stands.  The two agree for every text but those that begin with the alias of the global
namespace: reading a name takes the alias off, and comparing segments does not.
-/

namespace NodeLifecycle

namespace Text

/-- The segments that a text spells.  The empty text spells none, a segment spells itself, and a dot
puts what two texts spell one after the other, so leading, trailing and doubled dots do not
matter. -/
inductive Spells : List String → List Char → Prop
  | nothing : Spells [] []
  | segment {part : String} (valid : IsSegment part) : Spells [part] part.toList
  | dot {front back : List String} {left right : List Char} (before : Spells front left)
      (behind : Spells back right) : Spells (front ++ back) (left ++ '.' :: right)

theorem segments_eq_of_spells {parts : List String} {text : List Char}
    (spelled : Spells parts text) : segments text = parts.map String.toList := by
  induction spelled with
  | nothing => rfl
  | @segment part valid =>
      rw [segments_eq_singleton valid.toList_ne_nil valid.2]
      rfl
  | dot _ _ front_read back_read =>
      rw [segments_append_dot, front_read, back_read, List.map_append]

theorem spells_segments (text : List Char) :
    Spells ((segments text).map String.ofList) text := by
  induction text using dot_induction with
  | nothing => exact Spells.nothing
  | segment part nonempty undotted =>
      have valid : IsSegment (String.ofList part) :=
        ⟨mt String.ofList_eq_empty_iff.mp nonempty, by rwa [String.toList_ofList]⟩
      have spelled := Spells.segment valid
      rw [String.toList_ofList] at spelled
      rwa [segments_eq_singleton nonempty undotted]
  | dot left right before behind =>
      rw [segments_append_dot, List.map_append]
      exact Spells.dot before behind

theorem spells_iff {parts : List String} {text : String} :
    Spells parts text.toList ↔ parts = dottedSegments text := by
  constructor
  · intro spelled
    rw [dottedSegments, segments_eq_of_spells spelled, List.map_map]
    simp [Function.comp_def]
  · rintro rfl
    exact spells_segments text.toList

end Text

namespace QualifiedName

variable {simple : String}

theorem withoutAlias_append_dot (scope part : List Char) :
    withoutAlias (scope ++ '.' :: part) = withoutAlias scope ++ '.' :: part := by
  by_cases aliased : globalAlias <+: scope
  · obtain ⟨rest, rfl⟩ := aliased
    rw [List.append_assoc, withoutAlias_append, withoutAlias_append]
  · have bare : ¬globalAlias <+: scope ++ '.' :: part :=
      mt (Text.prefix_of_prefix_append_cons (by decide)) aliased
    rw [withoutAlias_of_unaliased aliased, withoutAlias_of_unaliased bare]

theorem ofText_append_dot (scope : String) (segment : Text.IsSegment simple) :
    ofText (scope ++ "." ++ simple) =
      ⟨simple, (Text.segments (withoutAlias scope.toList)).map String.ofList⟩ := by
  have letters : (scope ++ "." ++ simple).toList = scope.toList ++ '.' :: simple.toList := by
    rw [String.toList_append, String.toList_append, List.append_assoc]
    rfl
  rw [ofText, letters, withoutAlias_append_dot, Text.segments_append_dot,
    Text.segments_eq_singleton segment.toList_ne_nil segment.2, List.map_append, List.map_singleton,
    String.ofList_toList]
  exact ofParts_parts ⟨simple, _⟩

/-- The name that is read lives in the namespace that it was read with, unless an alias was taken
off. -/
theorem livesIn_ofText_append_dot_iff (scope : String) (segment : Text.IsSegment simple) :
    (ofText (scope ++ "." ++ simple)).livesIn scope = true ↔ ¬globalAlias <+: scope.toList := by
  rw [livesIn_iff, ofText_append_dot scope segment, Text.dottedSegments, Text.map_ofList_inj]
  constructor
  · rintro same ⟨rest, scope_eq⟩
    rw [← scope_eq, withoutAlias_append] at same
    exact segments_alias_append_ne rest same.symm
  · intro bare
    rw [withoutAlias_of_unaliased bare]

end QualifiedName

/-- A name agrees with the namespace that it was made for: it has the given simple name, and it
lives in the namespace unless the text of the namespace begins with the alias. -/
def QualifiedName.AgreesWith (name : QualifiedName) (simple namespaceText : String) : Prop :=
  name.simple = simple ∧
    (name.livesIn namespaceText = true ↔ ¬globalAlias <+: namespaceText.toList)

theorem QualifiedName.agreesWith_ofText (scope : String) {simple : String}
    (segment : Text.IsSegment simple) : (ofText (scope ++ "." ++ simple)).AgreesWith simple scope :=
  ⟨congrArg QualifiedName.simple (ofText_append_dot scope segment),
    livesIn_ofText_append_dot_iff scope segment⟩

namespace FrameworkNames

/-- The names that are made for the engine's types and collections agree with the namespaces in
which such types are looked for.  A name lives in the namespace whose segments are its own. -/
theorem agreesWith_namespaces (names : FrameworkNames) {simple : String}
    (segment : Text.IsSegment simple) :
    (names.engineType simple).AgreesWith simple names.engineNamespace ∧
      (names.collectionsType simple).AgreesWith simple names.collectionsNamespace ∧
      ∀ (name : QualifiedName) (namespaceText : String),
        (name.livesIn namespaceText = true ↔ name.scope = Text.dottedSegments namespaceText) ∧
          (name.livesIn namespaceText = true ↔ Text.Spells name.scope namespaceText.toList) := by
  refine ⟨QualifiedName.agreesWith_ofText _ segment, QualifiedName.agreesWith_ofText _ segment,
    fun name namespaceText => ⟨QualifiedName.livesIn_iff, ?_⟩⟩
  rw [QualifiedName.livesIn_iff, Text.spells_iff]

/-- Names that put the engine behind the alias, and its collections behind stray dots. -/
def aliased : FrameworkNames :=
  { standard with
    engineNamespace := "global::Engine"
    collectionsNamespace := ".Engine..Collections" }

/-- A type of such an engine is not found where it is looked for, and a collection is. -/
theorem agreesWith_namespaces_aliased :
    Text.IsSegment "Array" ∧
      (aliased.engineType "Array").livesIn "global::Engine" = false ∧
      (aliased.collectionsType "Array").livesIn ".Engine..Collections" = true := by
  have segment : Text.IsSegment "Array" := by decide
  obtain ⟨engine, collections, -⟩ := aliased.agreesWith_namespaces segment
  refine ⟨segment, ?_, collections.2.mpr (by decide)⟩
  rw [Bool.eq_false_iff, ne_eq]
  exact fun lives => engine.2.mp lives (by decide)

end FrameworkNames
end NodeLifecycle
