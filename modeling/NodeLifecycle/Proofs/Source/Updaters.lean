import NodeLifecycle.ClassAnalysis
import NodeLifecycle.Proofs.Framework.Resolution
import NodeLifecycle.Proofs.Source.HelperTexts
import NodeLifecycle.Proofs.Text.Reading

/-!
# What is handed on to a producer

The method that replaces a resource declares the parameters of the producer and calls the producer
with their names.  The two lists are written one after the other, and both are read back from the
text: they agree in number and order.  A producer with a `ref` or `out` parameter asks for more than
that, because the argument has to repeat the keyword, and no argument does.
-/

namespace NodeLifecycle

/-- The argument that hands a parameter on to a method that declares the same one.  The keywords
`ref` and `out` have to be repeated; `in` need not be. -/
def Parameter.argument (parameter : Parameter) : String :=
  match parameter.mode with
  | .byRef | .byOut => parameter.mode.keyword ++ parameter.name
  | .byValue | .byIn => parameter.name

theorem Parameter.argument_eq_name_iff {parameter : Parameter} :
    parameter.argument = parameter.name ↔
      parameter.mode ≠ .byRef ∧ parameter.mode ≠ .byOut := by
  obtain ⟨name, type, mode⟩ := parameter
  cases mode <;> simp [argument, PassingMode.keyword]

namespace Text

/-! ## Lists between commas -/

/-- Whether a character neither is white space nor parts the arguments of a call. -/
def isWordChar (char : Char) : Bool :=
  !isBlank char && char != '(' && char != ','

/-- Whether a text can stand alone between the commas of an argument list. -/
def IsWord (text : String) : Prop :=
  text ≠ "" ∧ ∀ char ∈ text.toList, isWordChar char = true

instance (text : String) : Decidable (IsWord text) :=
  decidable_of_iff (text ≠ "" ∧ text.toList.all isWordChar = true)
    (and_congr_right' List.all_eq_true)

theorem IsWord.toList_ne_nil {word : String} (separate : IsWord word) : word.toList ≠ [] :=
  fun empty => separate.1 (String.toList_eq_nil_iff.mp empty)

theorem IsWord.not_mem {word : String} (separate : IsWord word) {char : Char}
    (other : isWordChar char = false) : char ∉ word.toList := by
  intro inside
  rw [separate.2 char inside] at other
  cases other

theorem isBlank_eq_false_of_isWordChar {char : Char} (solid : isWordChar char = true) :
    isBlank char = false := by
  rw [isWordChar, Bool.and_eq_true, Bool.and_eq_true, Bool.not_eq_true'] at solid
  exact solid.1.1

/-- The parts of a text between its commas, without the white space around them. -/
def commaParts (text : String) : List String :=
  if text.isEmpty then []
  else (text.toList.splitOn ',').map fun part => trim (String.ofList part)

theorem trim_append_of_isWord {margin word : String} (blank : margin.toList.all isBlank = true)
    (separate : IsWord word) : trim (margin ++ word) = word := by
  have nonempty := separate.toList_ne_nil
  exact trim_append blank (List.head?_eq_some_head nonempty)
    (isBlank_eq_false_of_isWordChar (separate.2 _ (List.head_mem nonempty)))
    (List.getLast?_eq_some_getLast nonempty)
    (isBlank_eq_false_of_isWordChar (separate.2 _ (List.getLast_mem nonempty)))

theorem toList_intercalate_cons (first : String) (others : List String) :
    (", ".intercalate (first :: others)).toList =
      [','].intercalate (first.toList :: others.map fun word => ' ' :: word.toList) := by
  induction others generalizing first with
  | nil => simp
  | cons second others ih =>
      rw [String.intercalate_cons_cons, String.toList_append, String.toList_append, ih second,
        List.map_cons, List.intercalate_cons_cons]
      cases others <;> simp [List.intercalate_cons_cons]

/-- Words that are joined by commas are read back. -/
theorem commaParts_intercalate {words : List String} (separate : ∀ word ∈ words, IsWord word) :
    commaParts (", ".intercalate words) = words := by
  cases words with
  | nil => rfl
  | cons first others =>
      obtain ⟨first_separate, others_separate⟩ := List.forall_mem_cons.mp separate
      have unparted : ∀ part ∈ first.toList :: others.map (fun word => ' ' :: word.toList),
          ',' ∉ part := by
        intro part inside comma
        rw [List.mem_cons, List.mem_map] at inside
        obtain rfl | ⟨word, word_mem, rfl⟩ := inside
        · exact first_separate.not_mem rfl comma
        · rw [List.mem_cons] at comma
          exact (others_separate word word_mem).not_mem rfl (comma.resolve_left (by decide))
      have nonempty : (", ".intercalate (first :: others)).isEmpty = false := by
        rw [String.isEmpty_eq_false_iff, ne_eq, ← String.toList_eq_nil_iff,
          toList_intercalate_cons]
        cases others <;> simp [List.intercalate_cons_cons, first_separate.toList_ne_nil]
      rw [commaParts, nonempty, if_neg Bool.false_ne_true, toList_intercalate_cons,
        List.splitOn_intercalate ',' unparted (List.cons_ne_nil _ _), List.map_cons, List.map_map,
        String.ofList_toList]
      congr 1
      · exact @trim_append_of_isWord "" first rfl first_separate
      · conv_rhs => rw [← List.map_id others]
        apply List.map_congr_left
        intro word inside
        have behind : String.ofList (' ' :: word.toList) = " " ++ word := by
          rw [← String.toList_inj, String.toList_ofList, String.toList_append]
          rfl
        rw [Function.comp_apply, behind,
          trim_append_of_isWord (by decide) (others_separate word inside), id_eq]

/-- What stands behind the last occurrence of a character. -/
def afterLast (mark : Char) (text : String) : String :=
  String.ofList (text.toList.rtakeWhile (· != mark))

theorem afterLast_append {mark : Char} {before after : String}
    (ends : before.toList.getLast? = some mark) (absent : mark ∉ after.toList) :
    afterLast mark (before ++ after) = after := by
  obtain ⟨front, letters⟩ := List.getLast?_eq_some_iff.mp ends
  have passed : ∀ char ∈ after.toList.reverse, (char != mark) = true := by
    intro char inside
    rw [bne_iff_ne]
    rintro rfl
    exact absent (List.mem_reverse.mp inside)
  rw [afterLast, List.rtakeWhile, String.toList_append, letters, List.append_assoc,
    List.reverse_append, List.reverse_append, List.reverse_singleton, List.append_assoc,
    List.takeWhile_append_of_pos passed, List.singleton_append,
    List.takeWhile_cons_of_neg (by simp), List.append_nil, List.reverse_reverse,
    String.ofList_toList]

end Text

namespace DisposalEntry

variable {entry : DisposalEntry}

/-! ## Reading an updater -/

/-- What stands in front of the parameter list of the method that replaces a resource. -/
def updaterOpening (entry : DisposalEntry) : String :=
  entry.updaterAccess.keyword ++ " void " ++ GeneratedName.updater entry.method ++ "("

/-- What stands between the parameter list and the argument list: the old resource is released, and
the field gets what the producer returns. -/
def producerOpening (entry : DisposalEntry) : String :=
  ")\n    \x7b\n        " ++ entry.resetName ++ "();\n        " ++ entry.slotName ++ " = " ++
    entry.method ++ "("

def updaterClosing : String := ");\n    \x7d"

/-- The parameter list and the arguments in the text of a method that replaces a resource by calling
the producer.  The arguments stand behind the last opening parenthesis. -/
def readUpdater? (entry : DisposalEntry) (text : String) : Option (String × List String) :=
  (Text.between? "" updaterClosing text).bind fun call =>
    (Text.between? entry.updaterOpening
        (entry.producerOpening ++ Text.afterLast '(' call ++ updaterClosing) text).map fun list =>
      (list, Text.commaParts (Text.afterLast '(' call))

theorem source_updater (entry : DisposalEntry) :
    (Helper.updater entry).source =
      entry.updaterOpening ++ ", ".intercalate (entry.params.map Parameter.declaration) ++
        (entry.producerOpening ++ ", ".intercalate (entry.params.map Parameter.name) ++
          updaterClosing) := by
  have solid : ∀ statement ∈ [entry.resetName ++ "();",
      entry.slotName ++ " = " ++ entry.method ++ "(" ++
        ", ".intercalate (entry.params.map Parameter.name) ++ ");"], statement ≠ "" := by
    rw [List.forall_mem_cons, List.forall_mem_singleton]
    exact ⟨append_ne_empty (by decide), append_ne_empty (by decide)⟩
  have header_end : (")\n    \x7b\n        " : String) = ")" ++ ("\n    \x7b" ++ "\n        ") := by
    decide
  have reset_end : ("();\n        " : String) = "();" ++ "\n        " := by decide
  have call_end : (");\n    \x7d" : String) = ");" ++ "\n    \x7d" := by decide
  rw [Helper.source_of_lines_eq rfl solid]
  unfold updaterOpening producerOpening updaterClosing
  rw [header_end, reset_end, call_end]
  simp only [List.map_cons, List.map_nil, String.join_cons, String.join_nil, String.append_empty,
    String.append_assoc]

/-- The parameters are declared as those of the producer, and their names are the arguments. -/
theorem readUpdater?_source (named : ∀ parameter ∈ entry.params, Text.IsWord parameter.name) :
    entry.readUpdater? (Helper.updater entry).source =
      some (", ".intercalate (entry.params.map Parameter.declaration),
        entry.params.map Parameter.name) := by
  have separate : ∀ name ∈ entry.params.map Parameter.name, Text.IsWord name :=
    List.forall_mem_map.mpr named
  have unopened : '(' ∉ (", ".intercalate (entry.params.map Parameter.name)).toList := by
    have others : ∀ char ∈ (", ".intercalate (entry.params.map Parameter.name)).toList,
        char ≠ '(' := by
      refine Text.forall_mem_intercalate ?_ fun name listed char inside same => ?_
      · rintro char inside rfl
        exact absurd inside (by decide)
      · exact (separate name listed).not_mem rfl (same ▸ inside)
    exact fun inside => others '(' inside rfl
  have call : Text.between? "" updaterClosing (Helper.updater entry).source =
      some (entry.updaterOpening ++ ", ".intercalate (entry.params.map Parameter.declaration) ++
        entry.producerOpening ++ ", ".intercalate (entry.params.map Parameter.name)) := by
    rw [Text.between?_eq_some_iff, String.empty_append, source_updater]
    simp only [String.append_assoc]
  -- types may hold parentheses, names cannot, so the arguments are found from the end
  have opens : (entry.updaterOpening ++
      ", ".intercalate (entry.params.map Parameter.declaration) ++
        entry.producerOpening).toList.getLast? = some '(' := by
    unfold producerOpening
    exact Text.getLast?_append_of_eq_some (Text.getLast?_append_of_eq_some (by decide))
  have list : Text.between? entry.updaterOpening
      (entry.producerOpening ++ ", ".intercalate (entry.params.map Parameter.name) ++
        updaterClosing) (Helper.updater entry).source =
      some (", ".intercalate (entry.params.map Parameter.declaration)) := by
    rw [Text.between?_eq_some_iff, source_updater]
  rw [readUpdater?, call, Option.bind_some, Text.afterLast_append opens unopened, list,
    Option.map_some, Text.commaParts_intercalate separate]

/-- The updater of an entry hands every parameter on as the signature of the producer asks for. -/
def ForwardsParameters (entry : DisposalEntry) : Prop :=
  entry.readUpdater? (Helper.updater entry).source =
    some (", ".intercalate (entry.params.map fun parameter =>
        parameter.mode.keyword ++ parameter.type.minimal ++ " " ++ parameter.name),
      entry.params.map Parameter.argument)

/-- An updater declares the parameters of its producer and hands on as many arguments in their
order, the names alone.  This is what the producer asks for exactly if it has no `ref` and no `out`
parameter. -/
theorem forwardsParameters_iff (named : ∀ parameter ∈ entry.params, Text.IsWord parameter.name) :
    entry.readUpdater? (Helper.updater entry).source =
        some (", ".intercalate (entry.params.map fun parameter =>
            parameter.mode.keyword ++ parameter.type.minimal ++ " " ++ parameter.name),
          entry.params.map Parameter.name) ∧
      (entry.ForwardsParameters ↔
        ∀ parameter ∈ entry.params, parameter.mode ≠ .byRef ∧ parameter.mode ≠ .byOut) := by
  have read : entry.readUpdater? (Helper.updater entry).source =
      some (", ".intercalate (entry.params.map fun parameter =>
          parameter.mode.keyword ++ parameter.type.minimal ++ " " ++ parameter.name),
        entry.params.map Parameter.name) := readUpdater?_source named
  refine ⟨read, ?_⟩
  rw [ForwardsParameters, read, Option.some.injEq, Prod.mk.injEq, and_iff_right rfl,
    List.map_inj_left]
  refine forall₂_congr fun parameter _ => ?_
  rw [eq_comm, Parameter.argument_eq_name_iff]

/-- A resource whose producer counts in a variable of its caller. -/
def counted : DisposalEntry where
  method := "Make"
  isAuto := true
  updaterAccess := .publicAccess
  params := [⟨"count", .builtin .int32 false, .byRef⟩, ⟨"path", .builtin .string false, .byValue⟩]

/-- The updater of such a resource hands on `count` where the producer asks for `ref count`. -/
theorem forwardsParameters_iff_counted :
    (∀ parameter ∈ counted.params, Text.IsWord parameter.name) ∧
      counted.readUpdater? (Helper.updater counted).source =
        some ("ref int count, string path", ["count", "path"]) ∧
      ¬counted.ForwardsParameters := by
  have named : ∀ parameter ∈ counted.params, Text.IsWord parameter.name := by decide +kernel
  obtain ⟨read, forwards_iff⟩ := forwardsParameters_iff named
  have declared : ", ".intercalate (counted.params.map fun parameter =>
      parameter.mode.keyword ++ parameter.type.minimal ++ " " ++ parameter.name) =
        "ref int count, string path" := by decide +kernel
  rw [declared] at read
  refine ⟨named, read, fun forwards => ?_⟩
  have by_value := forwards_iff.mp forwards
  revert by_value
  decide

end DisposalEntry

/-- A class whose one producer is replaced on demand and counts in a variable of its caller. -/
def TypeDecl.counter : TypeDecl :=
  .player [.make [.autoDispose] [⟨"count", .builtin .int32 false, .byRef⟩]]

/-- The updater that is generated for the class does not repeat the keyword of the parameter. -/
theorem TypeDecl.not_forwardsParameters_counter :
    ∃ framework, Framework.resolve (.ofEngineTypes .standard) .standard = .ok framework ∧
      ∃ entry, .updater entry ∈ ((counter.analyze framework (.ofEngineTypes .standard) true).model
          .exitTree).helpers ∧
        (∀ parameter ∈ entry.params, Text.IsWord parameter.name) ∧ ¬entry.ForwardsParameters := by
  refine ⟨.ofNames .standard, Framework.resolve_ofEngineTypes_standard,
    ⟨"Make", true, .publicAccess, [⟨"count", .builtin .int32 false, .byRef⟩]⟩, ?_, ?_, ?_⟩
  · decide +kernel
  · decide +kernel
  · intro forwards
    rw [DisposalEntry.ForwardsParameters, DisposalEntry.readUpdater?_source (by decide +kernel),
      Option.some.injEq, Prod.mk.injEq] at forwards
    exact absurd forwards.2 (by decide)

end NodeLifecycle
