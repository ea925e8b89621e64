import NodeLifecycle.Proofs.FirstOccurrences
import NodeLifecycle.Proofs.MethodTable.PlainNames
import NodeLifecycle.Proofs.Source.Opening

/-!
# The dispatcher in a unit

The unit of a method table tests for the name and the number of arguments of each entry, on a line
for each.  No other line looks like such a test, so the tests that are read from the text are those
of the entries in their order, and the first one that a call passes belongs to the entry that the
table dispatches the call to.
-/

namespace NodeLifecycle

namespace SourceUnit

open Text (not_mem_append not_mem_ofList)

/-! ## Reading the unit -/

/-- What stands in front of the name that a line of a callback compares with. -/
def testOpening : String := "        if (method == MethodName."

/-- What stands in front of the name of a field for a name. -/
def fieldOpening : String := "        public new static readonly global::Godot.StringName "

/-- The name and the number of arguments that a line tests for. -/
def dispatchTest? (line : String) : Option (String × Nat) :=
  (Text.between? testOpening ")" line).bind fun test =>
    let name := Text.leadingName test
    (Text.between? (name ++ " && args.Count == ") "" test).bind fun count =>
      (Text.number? count).map fun arity => (name, arity)

/-- The name that a line knows. -/
def knownName? (line : String) : Option String :=
  Text.between? testOpening ") return true;" line

/-- The name for which a line declares a field of that name. -/
def nameField? (line : String) : Option String :=
  (Text.between? fieldOpening ";" line).bind fun field =>
    let name := Text.leadingName field
    if field = name ++ " = \"" ++ name ++ "\"" then some name else none

/-- The line that declares the field for a name. -/
def nameFieldLine (name : String) : String :=
  "        public new static readonly global::Godot.StringName " ++ name ++ " = " ++
    Literal.ofText name ++ ";"

section Lines

variable {entry : MethodEntry} {name line : String}

theorem dispatchTest?_matchLine (plain : Text.IsPlain entry.name) :
    dispatchTest? (matchLine entry) = some (entry.name, entry.arity) := by
  have whole : Text.between? testOpening ")" (matchLine entry) =
      some (entry.name ++ (" && args.Count == " ++ toString entry.arity)) := by
    rw [Text.between?_eq_some_iff]
    unfold matchLine testOpening
    simp only [String.append_assoc]
  have name_eq : Text.leadingName (entry.name ++ (" && args.Count == " ++ toString entry.arity)) =
      entry.name := by
    apply Text.leadingName_append plain
    simp [String.toList_append]
    decide
  have count : Text.between? (entry.name ++ " && args.Count == ") ""
      (entry.name ++ (" && args.Count == " ++ toString entry.arity)) =
        some (toString entry.arity) := by
    rw [Text.between?_eq_some_iff, String.append_empty, String.append_assoc]
  simp only [dispatchTest?, whole, Option.bind_some, name_eq, count]
  rw [Text.number?_toString, Option.map_some]

theorem getLast?_matchLine (entry : MethodEntry) :
    (matchLine entry).toList.getLast? = some ')' :=
  Text.getLast?_append_of_eq_some (by decide)

theorem getLast?_knownNameLine (name : String) :
    (knownNameLine name).toList.getLast? = some ';' :=
  Text.getLast?_append_of_eq_some (by decide)

theorem dispatchTest?_knownNameLine : dispatchTest? (knownNameLine name) = none := by
  have ends : ")".toList.getLast? = some ')' := by decide
  have other : Text.between? testOpening ")" (knownNameLine name) = none :=
    Text.between?_eq_none_of_getLast?_ne ends (by rw [getLast?_knownNameLine]; decide)
  rw [dispatchTest?, other, Option.bind_none]

theorem knownName?_knownNameLine : knownName? (knownNameLine name) = some name :=
  Text.between?_eq_some_iff.mpr rfl

theorem knownName?_matchLine : knownName? (matchLine entry) = none := by
  have ends : ") return true;".toList.getLast? = some ';' := by decide
  exact Text.between?_eq_none_of_getLast?_ne ends (by rw [getLast?_matchLine]; decide)

theorem nameField?_nameFieldLine (plain : Text.IsPlain name) :
    nameField? (nameFieldLine name) = some name := by
  have whole : Text.between? fieldOpening ";" (nameFieldLine name) =
      some (name ++ (" = \"" ++ name ++ "\"")) := by
    rw [Text.between?_eq_some_iff]
    unfold nameFieldLine fieldOpening
    have quoted : " = \"" = " = " ++ "\"" := by decide
    rw [Literal.ofText_eq_of_isPlain plain, quoted]
    simp only [String.append_assoc]
  have name_eq : Text.leadingName (name ++ (" = \"" ++ name ++ "\"")) = name := by
    apply Text.leadingName_append plain
    simp [String.toList_append]
    decide
  simp only [nameField?, whole, Option.bind_some, name_eq]
  rw [if_pos]
  simp only [String.append_assoc]

theorem openings_apart :
    ¬testOpening.toList <+: fieldOpening.toList ∧ ¬fieldOpening.toList <+: testOpening.toList := by
  decide

theorem nameField?_matchLine : nameField? (matchLine entry) = none := by
  unfold matchLine
  rw [nameField?, String.append_assoc, String.append_assoc, String.append_assoc]
  exact congrArg (Option.bind · _) (Text.between?_append_eq_none openings_apart.symm)

theorem nameField?_knownNameLine : nameField? (knownNameLine name) = none := by
  unfold knownNameLine
  rw [nameField?, String.append_assoc]
  exact congrArg (Option.bind · _) (Text.between?_append_eq_none openings_apart.symm)

theorem dispatchTest?_nameFieldLine : dispatchTest? (nameFieldLine name) = none := by
  unfold nameFieldLine
  rw [dispatchTest?, String.append_assoc, String.append_assoc, String.append_assoc]
  exact congrArg (Option.bind · _) (Text.between?_append_eq_none openings_apart)

theorem knownName?_nameFieldLine : knownName? (nameFieldLine name) = none := by
  unfold nameFieldLine
  rw [knownName?, String.append_assoc, String.append_assoc, String.append_assoc]
  exact Text.between?_append_eq_none openings_apart

end Lines

/-! ## Filler -/

/-- Lines that nothing is read from. -/
structure IsFiller (line : String) : Prop where
  /-- The line is one line of a text. -/
  single : '\n' ∉ line.toList
  /-- The line is no test and knows no name. -/
  no_test : ¬testOpening.toList <+: line.toList
  /-- The line declares no field for a name. -/
  no_field : ¬fieldOpening.toList <+: line.toList

/-- Whether a line may be read, judged by its fifth and its ninth character.  In a line that is
indented by eight blanks, the ninth begins the statement: an `if` or a `public` field. -/
def isMarked (letters : List Char) : Bool :=
  letters[4]? == some ' ' && (letters[8]? == some 'i' || letters[8]? == some 'p')

/-- Whether nothing is read from a line that begins with the given letters, whatever follows. -/
def BeginsFiller (letters : List Char) : Prop :=
  '\n' ∉ letters ∧ 9 ≤ letters.length ∧ isMarked letters = false

instance (letters : List Char) : Decidable (BeginsFiller letters) :=
  inferInstanceAs (Decidable (_ ∧ _ ∧ _))

section Filler

variable {line rest name : String} {letters : List Char}

theorem isMarked_eq_of_starts {opening : List Char} (starts : opening <+: letters)
    (long : 9 ≤ opening.length) : isMarked letters = isMarked opening := by
  obtain ⟨others, rfl⟩ := starts
  rw [isMarked, List.getElem?_append_left (by omega), List.getElem?_append_left (by omega),
    isMarked]

theorem isFiller_of_isMarked_eq_false (single : '\n' ∉ line.toList)
    (unmarked : isMarked line.toList = false) : IsFiller line := by
  have excluded {opening : String} (long : 9 ≤ opening.toList.length)
      (marked : isMarked opening.toList = true) : ¬opening.toList <+: line.toList := by
    intro starts
    rw [isMarked_eq_of_starts starts long, marked] at unmarked
    cases unmarked
  exact ⟨single, excluded (by decide) (by decide), excluded (by decide) (by decide)⟩

theorem isFiller_ofList (filler : '\n' ∉ letters ∧ isMarked letters = false) :
    IsFiller (String.ofList letters) := by
  apply isFiller_of_isMarked_eq_false (not_mem_ofList filler.1)
  rw [String.toList_ofList, filler.2]

theorem isFiller_ofList_append (begins : BeginsFiller letters) (single : '\n' ∉ rest.toList) :
    IsFiller (String.ofList letters ++ rest) := by
  apply isFiller_of_isMarked_eq_false (not_mem_append (not_mem_ofList begins.1) single)
  rw [String.toList_append, String.toList_ofList,
    isMarked_eq_of_starts (List.prefix_append letters rest.toList) begins.2.1, begins.2.2]

theorem isFiller_of_isOpening (opens : IsOpening line) : IsFiller line where
  single := opens.not_mem (by decide)
  no_test starts := opens.not_mem (by decide) (starts.subset (by decide : '(' ∈ testOpening.toList))
  no_field starts :=
    opens.not_mem (by decide) (starts.subset (by decide : ':' ∈ fieldOpening.toList))

end Filler

/-! ## Single lines -/

section Single

variable {name : String} {entry : MethodEntry} {type : DeclaredType}

theorem single_matchLine (plain : Text.IsPlain entry.name) :
    '\n' ∉ (matchLine entry).toList := by
  refine not_mem_append (not_mem_append (not_mem_append (not_mem_append ?_ ?_) ?_) ?_) ?_
  · exact not_mem_ofList (by decide)
  · exact plain.not_mem rfl
  · exact not_mem_ofList (by decide)
  · exact (Text.isPlain_toString _).not_mem rfl
  · exact not_mem_ofList (by decide)

theorem single_knownNameLine (plain : Text.IsPlain name) :
    '\n' ∉ (knownNameLine name).toList :=
  not_mem_append (not_mem_append (not_mem_ofList (by decide)) (plain.not_mem rfl))
    (not_mem_ofList (by decide))

theorem single_nameFieldLine (plain : Text.IsPlain name) :
    '\n' ∉ (nameFieldLine name).toList := by
  have quote : '\n' ∉ "\"".toList := not_mem_ofList (by decide)
  have named : '\n' ∉ name.toList := plain.not_mem rfl
  unfold nameFieldLine
  rw [Literal.ofText_eq_of_isPlain plain]
  exact not_mem_append (not_mem_append (not_mem_append (not_mem_append
    (not_mem_ofList (by decide)) named) (not_mem_ofList (by decide)))
    (not_mem_append (not_mem_append quote named) quote)) (not_mem_ofList (by decide))

theorem single_variantKind_name (kind : VariantKind) : '\n' ∉ kind.name.toList := by
  cases kind <;> exact not_mem_ofList (by decide)

theorem single_globalQualified (plain : ∀ name ∈ type.names, name.IsPlain) :
    '\n' ∉ type.globalQualified.toList := by
  rw [DeclaredType.globalQualified]
  induction type with
  | void => exact not_mem_ofList (by decide)
  | builtin type =>
      refine not_mem_append (not_mem_ofList (by decide)) ?_
      cases type <;> exact not_mem_ofList (by decide)
  | named name =>
      have plain_name : name.IsPlain := plain name List.mem_cons_self
      exact not_mem_append (not_mem_ofList (by decide)) (plain_name.display.not_mem rfl)
  | array element rank nullable ih =>
      refine not_mem_append (not_mem_append (ih plain) (not_mem_ofList (by decide))) ?_
      refine not_mem_append (not_mem_append (not_mem_ofList (by decide)) (not_mem_ofList ?_))
        (not_mem_ofList (by decide))
      exact fun listed => absurd (List.eq_of_mem_replicate listed) (by decide)

end Single

/-! ## The lines of the unit -/

section Unit

variable {kind name : String} {letters : List Char} {entry : MethodEntry}
  {entries : List MethodEntry} {params : List WireParameter}

theorem isFiller_of_mem_valueLines (begins : BeginsFiller letters)
    (kind_single : '\n' ∉ kind.toList) (name_single : '\n' ∉ name.toList) :
    ∀ line ∈ valueLines (String.ofList letters) kind name, IsFiller line := by
  have inner {rest : String} (single : '\n' ∉ rest.toList) :
      IsFiller (String.ofList letters ++ rest) :=
    isFiller_ofList_append begins single
  have closed {others : List Char} (absent : '\n' ∉ others) :
      '\n' ∉ (String.ofList others).toList :=
    not_mem_ofList absent
  simp only [valueLines, String.append_assoc, List.forall_mem_cons, List.not_mem_nil,
    false_implies, implies_true, and_true]
  exact ⟨inner (not_mem_append (closed (by decide))
      (not_mem_append kind_single (closed (by decide)))),
    inner (not_mem_append (closed (by decide)) (not_mem_append name_single (closed (by decide)))),
    inner (closed (by decide)), inner (closed (by decide)),
    inner (not_mem_append (closed (by decide))
      (not_mem_append (closed (by decide)) (closed (by decide)))),
    inner (closed (by decide))⟩

theorem isFiller_of_mem_argumentsLines
    (plain : ∀ parameter ∈ params, Text.IsPlain parameter.name) :
    ∀ line ∈ argumentsLines params, IsFiller line := by
  rw [argumentsLines]
  split
  · simp only [List.forall_mem_singleton]
    exact isFiller_ofList (by decide)
  · simp only [List.forall_mem_append, List.forall_mem_singleton, List.forall_mem_flatMap,
      argumentLines, List.forall_mem_cons]
    refine ⟨⟨isFiller_ofList (by decide), fun parameter listed => ⟨?_, ?_⟩⟩,
      isFiller_ofList (by decide)⟩
    · exact isFiller_ofList (by decide)
    · apply isFiller_of_mem_valueLines (by decide)
        (single_variantKind_name _)
      rw [Literal.ofText_eq_of_isPlain (plain parameter listed)]
      exact not_mem_append (not_mem_append (not_mem_ofList (by decide))
        ((plain parameter listed).not_mem rfl)) (not_mem_ofList (by decide))

theorem isFiller_of_mem_methodInfoLines {typeName : String}
    (plain_type : Text.IsPlain typeName) (plain : entry.HasPlainNames) :
    ∀ line ∈ methodInfoLines typeName entry, IsFiller line := by
  have returned : '\n' ∉ ((entry.returnKind.map VariantKind.name).getD "Nil").toList := by
    cases entry.returnKind with
    | none => exact not_mem_ofList (by decide)
    | some kind => exact single_variantKind_name kind
  simp only [methodInfoLines, List.forall_mem_append, List.forall_mem_cons, String.append_assoc,
    List.not_mem_nil, false_implies, implies_true, and_true]
  refine ⟨⟨⟨⟨⟨?_, ?_, ?_⟩, ?_⟩, ?_⟩, ?_⟩, ?_, ?_, ?_⟩
  · exact isFiller_ofList_append (by decide)
      (not_mem_append (plain.infoName.not_mem rfl) (not_mem_ofList (by decide)))
  · exact isFiller_ofList_append (by decide)
      (not_mem_append (plain_type.not_mem rfl) (not_mem_append (not_mem_ofList (by decide))
        (not_mem_append (plain.name.not_mem rfl) (not_mem_ofList (by decide)))))
  · exact isFiller_ofList (by decide)
  · exact isFiller_of_mem_valueLines (by decide) returned
      (not_mem_ofList (by decide))
  · exact isFiller_ofList (by decide)
  · exact isFiller_of_mem_argumentsLines plain.params
  · exact isFiller_ofList (by decide)
  · exact isFiller_ofList (by decide)
  · exact isFiller_ofList (by decide)

theorem isFiller_of_mem_methodInfosLines {typeName : String}
    (plain_type : Text.IsPlain typeName) (plain : ∀ entry ∈ entries, entry.HasPlainNames) :
    ∀ line ∈ methodInfosLines typeName entries, IsFiller line := by
  simp only [methodInfosLines, List.forall_mem_append, List.forall_mem_cons, String.append_assoc,
    List.forall_mem_flatMap, List.forall_mem_map, List.not_mem_nil, false_implies, implies_true,
    and_true]
  refine ⟨⟨⟨⟨?_, fun entry listed => ?_⟩, ?_, ?_⟩, fun entry listed => ?_⟩, ?_, ?_, ?_⟩
  · exact isFiller_ofList (by decide)
  · exact isFiller_of_mem_methodInfoLines plain_type (plain entry listed)
  · exact isFiller_ofList (by decide)
  · exact isFiller_ofList_append (by decide)
      (not_mem_append (not_mem_ofList (by decide)) (not_mem_ofList (by decide)))
  · exact isFiller_ofList_append (by decide)
      (not_mem_append ((plain entry listed).infoName.not_mem rfl) (not_mem_ofList (by decide)))
  · exact isFiller_ofList (by decide)
  · exact isFiller_ofList (by decide)
  · exact isFiller_ofList (by decide)

theorem isFiller_of_mem_conversionLines
    (plain : ∀ parameter ∈ params, Text.IsPlain parameter.name)
    (plain_types : ∀ parameter ∈ params, ∀ name ∈ parameter.type.names, name.IsPlain)
    (position : Nat) : ∀ line ∈ conversionLines position params, IsFiller line := by
  induction params generalizing position with
  | nil => simp [conversionLines]
  | cons parameter rest ih =>
      rw [List.forall_mem_cons] at plain plain_types
      have closing : '\n' ∉ (if rest.isEmpty then ");" else ",").toList := by
        split <;> exact not_mem_ofList (by decide)
      simp only [conversionLines, List.cons_append, List.nil_append, List.forall_mem_cons,
        String.append_assoc]
      refine ⟨?_, ?_, ih plain.2 plain_types.2 _⟩
      · exact isFiller_ofList_append (by decide) (plain.1.not_mem rfl)
      · exact isFiller_ofList_append (by decide)
          (not_mem_append (single_globalQualified plain_types.1)
            (not_mem_append (not_mem_ofList (by decide))
              (not_mem_append ((Text.isPlain_toString position).not_mem rfl)
                (not_mem_append (not_mem_ofList (by decide)) closing))))

theorem isFiller_of_mem_callLines (begins : BeginsFiller letters) (plain : entry.HasPlainNames) :
    ∀ line ∈ callLines (String.ofList letters) entry, IsFiller line := by
  have inner {rest : String} (single : '\n' ∉ rest.toList) :
      IsFiller (String.ofList letters ++ entry.name ++ rest) := by
    rw [String.append_assoc]
    exact isFiller_ofList_append begins (not_mem_append (plain.name.not_mem rfl) single)
  rw [callLines]
  split
  · rw [List.forall_mem_singleton]
    exact inner (not_mem_ofList (by decide))
  · rw [List.forall_mem_cons]
    exact ⟨inner (not_mem_ofList (by decide)),
      isFiller_of_mem_conversionLines plain.params plain.paramTypes 0⟩

theorem isFiller_of_mem_tail_invokeLines (plain : entry.HasPlainNames) :
    ∀ line ∈ (invokeLines entry).tail, IsFiller line := by
  have calls : ∀ line ∈ (if entry.returnsVoid then
      callLines "            " entry ++ ["            ret = default;"]
    else
      callLines "            var callRet = " entry ++
        ["            ret = global::Godot.NativeInterop.VariantUtils.CreateFrom<" ++
          entry.returns.globalQualified ++ ">(callRet);"]), IsFiller line := by
    split
    · rw [List.forall_mem_append, List.forall_mem_singleton]
      exact ⟨isFiller_of_mem_callLines (by decide) plain,
        isFiller_ofList (by decide)⟩
    · rw [List.forall_mem_append, List.forall_mem_singleton, String.append_assoc]
      exact ⟨isFiller_of_mem_callLines (by decide) plain,
        isFiller_ofList_append (by decide)
          (not_mem_append (single_globalQualified plain.returns) (not_mem_ofList (by decide)))⟩
  simp only [invokeLines, List.cons_append, List.nil_append, List.tail_cons, List.forall_mem_cons,
    List.forall_mem_append, List.not_mem_nil, false_implies, implies_true, and_true]
  exact ⟨isFiller_ofList (by decide), calls, isFiller_ofList (by decide),
    isFiller_ofList (by decide)⟩

end Unit

/-! ## What is read -/

/-- What is read from some lines: the fields for names, the tests and the known names. -/
structure Reads (lines : List String) (fields : List String) (tests : List (String × Nat))
    (known : List String) : Prop where
  /-- Each line is one line of a text. -/
  single : ∀ line ∈ lines, '\n' ∉ line.toList
  /-- The names of the fields. -/
  fields : lines.filterMap nameField? = fields
  /-- The tests. -/
  tests : lines.filterMap dispatchTest? = tests
  /-- The known names. -/
  known : lines.filterMap knownName? = known

namespace Reads

variable {lines more fields moreFields known moreKnown : List String}
  {tests moreTests : List (String × Nat)}

theorem of_isFiller (filler : ∀ line ∈ lines, IsFiller line) : Reads lines [] [] [] where
  single line listed := (filler line listed).single
  fields := List.filterMap_eq_nil_iff.mpr fun line listed => by
    rw [nameField?, Text.between?_eq_none_of_not_prefix (filler line listed).no_field,
      Option.bind_none]
  tests := List.filterMap_eq_nil_iff.mpr fun line listed => by
    rw [dispatchTest?, Text.between?_eq_none_of_not_prefix (filler line listed).no_test,
      Option.bind_none]
  known := List.filterMap_eq_nil_iff.mpr fun line listed =>
    Text.between?_eq_none_of_not_prefix (filler line listed).no_test

theorem append (reads : Reads lines fields tests known)
    (reads_more : Reads more moreFields moreTests moreKnown) :
    Reads (lines ++ more) (fields ++ moreFields) (tests ++ moreTests) (known ++ moreKnown) where
  single := List.forall_mem_append.mpr ⟨reads.single, reads_more.single⟩
  fields := by rw [List.filterMap_append, reads.fields, reads_more.fields]
  tests := by rw [List.filterMap_append, reads.tests, reads_more.tests]
  known := by rw [List.filterMap_append, reads.known, reads_more.known]

theorem append_filler (reads : Reads lines fields tests known)
    (filler : ∀ line ∈ more, IsFiller line) : Reads (lines ++ more) fields tests known := by
  simpa using reads.append (of_isFiller filler)

theorem append_tests (reads : Reads lines fields [] []) (reads_more : Reads more [] tests []) :
    Reads (lines ++ more) fields tests [] := by
  simpa using reads.append reads_more

theorem append_known (reads : Reads lines fields tests []) (reads_more : Reads more [] [] known) :
    Reads (lines ++ more) fields tests known := by
  simpa using reads.append reads_more

theorem flatMap_invokeLines {entries : List MethodEntry}
    (plain : ∀ entry ∈ entries, entry.HasPlainNames) :
    Reads (entries.flatMap invokeLines) []
      (entries.map fun entry => (entry.name, entry.arity)) [] := by
  induction entries with
  | nil => exact of_isFiller (by simp)
  | cons entry rest ih =>
      rw [List.forall_mem_cons] at plain
      have test : Reads [matchLine entry] [] [(entry.name, entry.arity)] [] :=
        { single := by
            rw [List.forall_mem_singleton]
            exact single_matchLine plain.1.name
          fields := List.filterMap_cons_none nameField?_matchLine
          tests := List.filterMap_cons_some (dispatchTest?_matchLine plain.1.name)
          known := List.filterMap_cons_none knownName?_matchLine }
      have invoked : Reads (invokeLines entry) [] [(entry.name, entry.arity)] [] :=
        test.append_filler (isFiller_of_mem_tail_invokeLines plain.1)
      exact invoked.append (ih plain.2)

theorem map_nameFieldLine {names : List String} (plain : ∀ name ∈ names, Text.IsPlain name) :
    Reads (names.map nameFieldLine) names [] [] where
  single := List.forall_mem_map.mpr fun name listed => single_nameFieldLine (plain name listed)
  fields := by
    have read : ∀ name ∈ names, (nameField? ∘ nameFieldLine) name = some name := by
      intro name listed
      rw [Function.comp_apply, nameField?_nameFieldLine (plain name listed)]
    rw [List.filterMap_map, List.filterMap_congr read, List.filterMap_some]
  tests := List.filterMap_eq_nil_iff.mpr <|
    List.forall_mem_map.mpr fun _ _ => dispatchTest?_nameFieldLine
  known := List.filterMap_eq_nil_iff.mpr <|
    List.forall_mem_map.mpr fun _ _ => knownName?_nameFieldLine

theorem map_knownNameLine {names : List String} (plain : ∀ name ∈ names, Text.IsPlain name) :
    Reads (names.map knownNameLine) [] [] names where
  single := List.forall_mem_map.mpr fun name listed => single_knownNameLine (plain name listed)
  fields := List.filterMap_eq_nil_iff.mpr <|
    List.forall_mem_map.mpr fun _ _ => nameField?_knownNameLine
  tests := List.filterMap_eq_nil_iff.mpr <|
    List.forall_mem_map.mpr fun _ _ => dispatchTest?_knownNameLine
  known := by
    have read : ∀ name ∈ names, (knownName? ∘ knownNameLine) name = some name := by
      intro name _
      rw [Function.comp_apply, knownName?_knownNameLine]
    rw [List.filterMap_map, List.filterMap_congr read, List.filterMap_some]

end Reads

section Unit

variable {engineParent : QualifiedName} {methods : MethodTable}

theorem reads_methodNameLines {names : List String} (plain_parent : engineParent.IsPlain)
    (plain : ∀ name ∈ names, Text.IsPlain name) :
    Reads (methodNameLines engineParent names) names [] [] := by
  have opening : ∀ line ∈
      ["    #pragma warning disable CS0109 // Disable warning about redundant 'new' keyword",
        "    public new class MethodName : global::" ++ engineParent.display ++ ".MethodName",
        "    \x7b"], IsFiller line := by
    simp only [List.forall_mem_cons, String.append_assoc, List.not_mem_nil, false_implies,
      implies_true, and_true]
    exact ⟨isFiller_ofList (by decide),
      isFiller_ofList_append (by decide)
        (not_mem_append (plain_parent.display.not_mem rfl) (not_mem_ofList (by decide))),
      isFiller_ofList (by decide)⟩
  have closing : ∀ line ∈ ["    \x7d"], IsFiller line := by
    rw [List.forall_mem_singleton]
    exact isFiller_ofList (by decide)
  exact ((Reads.of_isFiller opening).append (.map_nameFieldLine plain)).append_filler closing

theorem reads_registrationLines (plain_parent : engineParent.IsPlain)
    (plain : ∀ entry ∈ methods.entries, entry.HasPlainNames) :
    Reads (registrationLines engineParent methods) methods.methodNames
      (methods.entries.map fun entry => (entry.name, entry.arity)) methods.methodNames := by
  have plain_names : ∀ name ∈ methods.methodNames, Text.IsPlain name := by
    intro name known
    obtain ⟨entry, listed, rfl⟩ := MethodTable.mem_methodNames.mp known
    exact (plain entry listed).name
  -- the parts that are read alternate with filler, which remains to be checked
  rw [registrationLines]
  refine Reads.append_filler (Reads.append_known (Reads.append_filler (Reads.append_tests
    (Reads.append_filler (reads_methodNameLines plain_parent plain_names) ?_)
      (Reads.flatMap_invokeLines plain)) ?_) (Reads.map_knownNameLine plain_names)) ?_
  · simp only [List.forall_mem_cons, String.append_assoc, List.not_mem_nil, false_implies,
      implies_true, and_true]
    refine ⟨?_, ?_, ?_, ?_, ?_, ?_, ?_, ?_, ?_⟩
    · exact isFiller_ofList (by decide)
    · exact isFiller_ofList_append (by decide)
        (not_mem_append (not_mem_ofList (by decide)) (not_mem_ofList (by decide)))
    · exact isFiller_ofList (by decide)
    · exact isFiller_ofList (by decide)
    · exact isFiller_ofList (by decide)
    · exact isFiller_ofList (by decide)
    · exact isFiller_ofList (by decide)
    · exact isFiller_ofList_append (by decide) (not_mem_ofList (by decide))
    · exact isFiller_ofList (by decide)
  · simp only [List.forall_mem_cons, List.not_mem_nil, false_implies, implies_true, and_true]
    exact ⟨isFiller_ofList (by decide), isFiller_ofList (by decide),
      isFiller_ofList (by decide), isFiller_ofList (by decide),
      isFiller_ofList (by decide), isFiller_ofList (by decide)⟩
  · simp only [List.forall_mem_cons, List.not_mem_nil, false_implies, implies_true, and_true]
    exact ⟨isFiller_ofList (by decide), isFiller_ofList (by decide),
      isFiller_ofList (by decide)⟩

/-- The unit of a table is read as the names and the entries of the table. -/
theorem reads_scriptMethodsLines {generatorNamespace : String} {descriptor : ClassDescriptor}
    (plain_namespace : Text.IsPlain generatorNamespace) (plain_type : descriptor.name.IsPlain)
    (modifiers_open : IsOpening descriptor.modifiers) (plain_parent : engineParent.IsPlain)
    (plain : ∀ entry ∈ methods.entries, entry.HasPlainNames) :
    Reads (scriptMethodsLines generatorNamespace descriptor engineParent methods)
      methods.methodNames (methods.entries.map fun entry => (entry.name, entry.arity))
      methods.methodNames := by
  have front : ∀ line ∈ preamble generatorNamespace scriptMethodsGeneratorName descriptor.name
      scriptMethodsUsings ++ methodInfosLines descriptor.name.simple methods.entries ++
      [descriptor.modifiers ++ " class " ++ descriptor.name.simple, "\x7b"], IsFiller line := by
    simp only [List.forall_mem_append, List.forall_mem_cons, List.not_mem_nil, false_implies,
      implies_true, and_true]
    refine ⟨⟨fun line listed => ?_, ?_⟩, ?_, ?_⟩
    · exact isFiller_of_isOpening (isOpening_of_mem_preamble plain_namespace (by decide) plain_type
        (by decide) listed)
    · exact isFiller_of_mem_methodInfosLines plain_type.simple plain
    · exact isFiller_of_isOpening (isOpening_classLine modifiers_open plain_type)
    · exact isFiller_ofList (by decide)
  rw [scriptMethodsLines]
  refine Reads.append_filler ((Reads.of_isFiller front).append
    (reads_registrationLines plain_parent plain)) ?_
  rw [List.forall_mem_singleton]
  exact isFiller_ofList (by decide)

end Unit

end SourceUnit

/-! ## The table behind the unit -/

namespace MethodTable

variable {methods : MethodTable}

theorem nodup_methodNames (methods : MethodTable) : methods.methodNames.Nodup :=
  (StableSort.sortBy_perm _ _).nodup_iff.mpr (FirstOccurrences.nodup_eraseDups _)

/-- A call is dispatched to the entry at the place of the first name and number that fit it. -/
theorem dispatch?_eq_bind_findIdx? (methods : MethodTable) (name : String) (arity : Nat) :
    methods.dispatch? name arity =
      ((methods.entries.map fun entry => (entry.name, entry.arity)).findIdx?
        (· == (name, arity))).bind fun index => methods.entries[index]? := by
  have answers_eq : MethodEntry.answers name arity =
      (· == (name, arity)) ∘ fun entry : MethodEntry => (entry.name, entry.arity) := by
    funext entry
    rw [Bool.eq_iff_iff, MethodEntry.answers_iff]
    simp
  rw [dispatch?, List.find?_eq_bind_findIdx?_getElem?, List.findIdx?_map, answers_eq]

theorem dispatch?_eq_none_iff {name : String} {arity : Nat} :
    methods.dispatch? name arity = none ↔
      (name, arity) ∉ methods.entries.map fun entry => (entry.name, entry.arity) := by
  simp [dispatch?, MethodEntry.answers_iff]

end MethodTable

namespace SourceUnit

/-- The lines of a unit test for what a table dispatches, and know what it names. -/
structure Dispatches (methods : MethodTable) (lines : List String) : Prop where
  /-- The tests are for the entries, in their order. -/
  tests : lines.filterMap dispatchTest? = methods.entries.map fun entry => (entry.name, entry.arity)
  /-- The first test that a call passes belongs to the entry that the call is dispatched to. -/
  first : ∀ name arity, methods.dispatch? name arity =
    ((lines.filterMap dispatchTest?).findIdx? (· == (name, arity))).bind fun index =>
      methods.entries[index]?
  /-- A call passes no test exactly if it is dispatched to nothing. -/
  unmatched : ∀ name arity, methods.dispatch? name arity = none ↔
    (name, arity) ∉ lines.filterMap dispatchTest?
  /-- The fields are for the names of the table, in their order. -/
  fields : lines.filterMap nameField? = methods.methodNames
  /-- The known names are those of the fields. -/
  known : lines.filterMap knownName? = lines.filterMap nameField?
  /-- No name has two fields. -/
  nodup : (lines.filterMap nameField?).Nodup
  /-- The names that have fields are those of the entries. -/
  complete : ∀ name,
    name ∈ lines.filterMap nameField? ↔ ∃ entry ∈ methods.entries, entry.name = name

/-- The unit of a table with plain names dispatches calls as the table does. -/
theorem dispatches_ofMethodTable? (framework : Framework) (decl : TypeDecl) (pass : Pass)
    {methods : MethodTable} {engineParent : QualifiedName} {generatorNamespace : String}
    (continued : decl.isPartial = true) (based : methods.engineParent = some engineParent)
    (inhabited : methods.entries ≠ []) (plain_namespace : Text.IsPlain generatorNamespace)
    (plain_type : decl.name.IsPlain) (plain_parent : engineParent.IsPlain)
    (plain : ∀ entry ∈ methods.entries, entry.HasPlainNames) :
    ∃ unit, ofMethodTable? generatorNamespace (.ofDecl framework decl pass) methods = some unit ∧
      Dispatches methods (Text.lines unit.text.toList) := by
  let descriptor := ClassDescriptor.ofDecl framework decl pass
  have reads : Reads (scriptMethodsLines generatorNamespace descriptor engineParent methods)
      methods.methodNames (methods.entries.map fun entry => (entry.name, entry.arity))
      methods.methodNames :=
    reads_scriptMethodsLines plain_namespace plain_type (isOpening_modifiersText decl) plain_parent
      plain
  have emitted : ¬(methods.isEmpty || !descriptor.isPartial) = true := by
    simpa [MethodTable.isEmpty, descriptor, ClassDescriptor.ofDecl, continued] using inhabited
  refine ⟨_, by rw [ofMethodTable?, if_neg emitted, based, Option.map_some], ?_⟩
  change Dispatches methods (Text.lines (ofLines _).toList)
  rw [lines_ofLines reads.single]
  exact
    { tests := reads.tests
      first := fun name arity => by rw [reads.tests, methods.dispatch?_eq_bind_findIdx?]
      unmatched := fun name arity => by rw [reads.tests, MethodTable.dispatch?_eq_none_iff]
      fields := reads.fields
      known := by rw [reads.known, reads.fields]
      nodup := by
        rw [reads.fields]
        exact methods.nodup_methodNames
      complete := fun name => by rw [reads.fields, MethodTable.mem_methodNames] }

/-- Two overloads, a method with a result, and a generated override. -/
theorem dispatches_overloads :
    let decl := TypeDecl.player
      [.action "Hit" [], .action "Hit" [⟨"count", .builtin .int32 false, .byValue⟩],
        { Member.action "Lives" [] with
          shape := .method
            { returns := .builtin .int32 false
              params := []
              kind := .ordinary
              returnsByRef := false } }]
    let table := (SymbolTable.ofEngineTypes .standard).put decl
    let methods := MethodTable.build (.ofNames .standard) table decl ["_Ready"]
    ∃ unit, ofMethodTable? "Game.Generators" (.ofDecl (.ofNames .standard) decl .ready) methods =
        some unit ∧
      Dispatches methods (Text.lines unit.text.toList) ∧
      (Text.lines unit.text.toList).filterMap dispatchTest? =
        [("_Ready", 0), ("Hit", 0), ("Hit", 1), ("Lives", 0)] := by
  intro decl table methods
  have based : methods.engineParent = some FrameworkNames.standard.nodeClass := by decide +kernel
  have outlines : (methods.entries.map fun entry => (entry.name, entry.arity)) =
      [("_Ready", 0), ("Hit", 0), ("Hit", 1), ("Lives", 0)] := by
    decide +kernel
  have inhabited : methods.entries ≠ [] := by
    intro none
    simp [none] at outlines
  have plain_namespace : Text.IsPlain "Game.Generators" := by decide
  have plain_members : ∀ member ∈ decl.members, member.HasPlainNames := by
    simp only [decl, TypeDecl.player, List.forall_mem_cons, List.not_mem_nil, false_implies,
      implies_true, and_true]
    refine ⟨⟨by decide, by decide, ?_⟩, ⟨by decide, by decide, ?_⟩, ⟨by decide, by decide, ?_⟩⟩ <;>
      · rintro signature ⟨⟩
        decide
  obtain ⟨unit, made, dispatches⟩ := dispatches_ofMethodTable? (.ofNames .standard) decl .ready
    (by decide) based inhabited plain_namespace (by decide) (by decide)
    (MethodTable.hasPlainNames_of_mem_build plain_members (by decide))
  exact ⟨unit, made, dispatches, dispatches.tests.trans outlines⟩

end SourceUnit
end NodeLifecycle
