import NodeLifecycle.Proofs.Framework.Resolution
import NodeLifecycle.Proofs.MethodTable.Numbering
import NodeLifecycle.Proofs.Text.Reading
import NodeLifecycle.Source.ScriptMethods

/-!
# Registration of entries

The class of method records declares a field for each entry and one for the list of all of them, and
each line of the list names a field.  Read back from the lines, the fields are those of the entries
in their order.  They have different names, so that every line of the list means the field of its
own entry, exactly if no overload of one name reads like an overload of another name, and no entry
is named like the list.
-/

namespace NodeLifecycle

namespace SourceUnit

/-! ## Reading the class of records -/

/-- What stands in front of the name of a record. -/
def recordOpening : String := "    private static readonly global::Godot.Bridge.MethodInfo "

/-- What stands in front of the name of the list. -/
def listOpening : String := "    public static readonly " ++ methodListType ++ " "

/-- The field that a line declares: the record of an entry, or the list of all records. -/
def declaredField? (line : String) : Option String :=
  (Text.between? recordOpening " = new(" line).or (Text.between? listOpening " = new() \x7b" line)

/-- The field that a line of the list names. -/
def listedField? (line : String) : Option String :=
  Text.between? "        MethodInfos." "," line

/-! Nine characters of a line tell all of its kinds apart. -/

theorem take_recordOpening (rest : String) :
    (recordOpening ++ rest).toList.take 9 = [' ', ' ', ' ', ' ', 'p', 'r', 'i', 'v', 'a'] := by
  simp [recordOpening, String.toList_append]

theorem listOpening_eq :
    listOpening = "    public static readonly " ++ (methodListType ++ " ") :=
  String.append_assoc

theorem take_listOpening (rest : String) :
    (listOpening ++ rest).toList.take 9 = [' ', ' ', ' ', ' ', 'p', 'u', 'b', 'l', 'i'] := by
  simp [listOpening_eq, String.toList_append]

theorem getElem?_of_take {line : String} {head : List Char} {place : Nat}
    (opens : line.toList.take 9 = head) (inside : place < 9) :
    line.toList[place]? = head[place]? := by
  rw [← opens, List.getElem?_take_of_lt inside]

theorem declaredField?_eq_none {line : String} (inner : line.toList[4]? ≠ some 'p') :
    declaredField? line = none := by
  rw [declaredField?, Option.or_eq_none_iff, Option.eq_none_iff_forall_ne_some,
    Option.eq_none_iff_forall_ne_some]
  constructor <;> intro field read <;> apply inner <;>
    rw [← Text.between?_eq_some_iff.mp read, String.append_assoc]
  · exact getElem?_of_take (take_recordOpening _) (by decide)
  · exact getElem?_of_take (take_listOpening _) (by decide)

theorem listedField?_eq_none {line : String} (other : line.toList[8]? ≠ some 'M') :
    listedField? line = none := by
  rw [listedField?, Option.eq_none_iff_forall_ne_some]
  intro field read
  apply other
  rw [← Text.between?_eq_some_iff.mp read]
  simp [String.toList_append]

/-- Lines inside a record neither declare a field nor name one. -/
def IsInner (line : String) : Prop :=
  line.toList[4]? ≠ some 'p' ∧ line.toList[8]? ≠ some 'M'

/-- Lines that are indented deeply lie inside a record. -/
theorem isInner_append {margin : String} (deep : margin.toList.take 9 = List.replicate 9 ' ')
    (rest : String) : IsInner (margin ++ rest) := by
  have long := congrArg List.length deep
  rw [List.length_take, List.length_replicate] at long
  have indented : (margin ++ rest).toList.take 9 = List.replicate 9 ' ' := by
    rw [String.toList_append, List.take_append_of_le_length (by omega), deep]
  rw [IsInner, getElem?_of_take indented (by decide), getElem?_of_take indented (by decide)]
  decide

theorem exists_of_mem_valueLines {margin kind name line : String}
    (listed : line ∈ valueLines margin kind name) : ∃ rest, line = margin ++ rest := by
  simp only [valueLines, String.append_assoc, List.mem_cons, List.not_mem_nil, or_false] at listed
  obtain rfl | rfl | rfl | rfl | rfl | rfl := listed <;> exact ⟨_, rfl⟩

theorem isInner_of_mem_argumentLines {parameter : WireParameter} {line : String}
    (listed : line ∈ argumentLines parameter) : IsInner line := by
  obtain rfl | inside := List.mem_cons.mp listed
  · simp [IsInner]
  · obtain ⟨rest, rfl⟩ := exists_of_mem_valueLines inside
    exact isInner_append (by decide) rest

theorem isInner_of_mem_argumentsLines {params : List WireParameter} {line : String}
    (listed : line ∈ argumentsLines params) : IsInner line := by
  rw [argumentsLines] at listed
  split at listed
  · obtain rfl := List.mem_singleton.mp listed
    simp [IsInner]
  · simp only [List.mem_append, List.mem_singleton, List.mem_flatMap] at listed
    obtain (rfl | ⟨parameter, -, inside⟩) | rfl := listed
    · simp [IsInner]
    · exact isInner_of_mem_argumentLines inside
    · simp [IsInner]

theorem isInner_of_mem_tail_methodInfoLines {typeName line : String} {entry : MethodEntry}
    (listed : line ∈ (methodInfoLines typeName entry).tail) : IsInner line := by
  simp only [methodInfoLines, List.nil_append, List.cons_append, List.tail_cons, List.append_assoc,
    List.mem_cons, List.mem_append, List.not_mem_nil, or_false] at listed
  obtain rfl | rfl | returned | rfl | taken | rfl | rfl | rfl := listed
  · simp [IsInner, String.toList_append]
  · simp [IsInner]
  · obtain ⟨rest, rfl⟩ := exists_of_mem_valueLines returned
    exact isInner_append (by decide) rest
  · simp [IsInner]
  · exact isInner_of_mem_argumentsLines taken
  · simp [IsInner]
  · simp [IsInner]
  · simp [IsInner]

/-! ## The fields and the list -/

theorem filterMap_declaredField?_methodInfoLines (typeName : String) (entry : MethodEntry) :
    (methodInfoLines typeName entry).filterMap declaredField? = [entry.infoName] := by
  have header : declaredField? (recordOpening ++ entry.infoName ++ " = new(") =
      some entry.infoName := by
    rw [declaredField?, Text.between?_eq_some_iff.mpr rfl, Option.some_or]
  have inner : (methodInfoLines typeName entry).tail.filterMap declaredField? = [] :=
    List.filterMap_eq_nil_iff.mpr fun line listed =>
      declaredField?_eq_none (isInner_of_mem_tail_methodInfoLines listed).1
  exact (List.filterMap_cons_some header).trans (congrArg _ inner)

theorem filterMap_listedField?_methodInfoLines (typeName : String) (entry : MethodEntry) :
    (methodInfoLines typeName entry).filterMap listedField? = [] := by
  have header : listedField? (recordOpening ++ entry.infoName ++ " = new(") = none := by
    apply listedField?_eq_none
    rw [String.append_assoc, getElem?_of_take (take_recordOpening _) (by decide)]
    decide
  have inner : (methodInfoLines typeName entry).tail.filterMap listedField? = [] :=
    List.filterMap_eq_nil_iff.mpr fun line listed =>
      listedField?_eq_none (isInner_of_mem_tail_methodInfoLines listed).2
  exact (List.filterMap_cons_none header).trans inner

theorem listLine_eq : "    public static readonly " ++ methodListType ++
    " GodotMethodList = new() \x7b" = listOpening ++ "GodotMethodList" ++ " = new() \x7b" := by
  have name_apart :
      " GodotMethodList = new() \x7b" = " " ++ ("GodotMethodList" ++ " = new() \x7b") := by
    decide
  rw [name_apart, listOpening_eq]
  simp only [String.append_assoc]

theorem between?_recordOpening_listLine :
    Text.between? recordOpening " = new(" (listOpening ++ "GodotMethodList" ++ " = new() \x7b") =
      none := by
  rw [Option.eq_none_iff_forall_ne_some]
  intro field read
  have head := take_recordOpening (field ++ " = new(")
  rw [← String.append_assoc, Text.between?_eq_some_iff.mp read, String.append_assoc,
    take_listOpening] at head
  revert head
  decide

theorem declaredField?_listLine :
    declaredField? (listOpening ++ "GodotMethodList" ++ " = new() \x7b") =
      some "GodotMethodList" := by
  rw [declaredField?, between?_recordOpening_listLine, Option.none_or]
  exact Text.between?_eq_some_iff.mpr rfl

theorem listedField?_listLine :
    listedField? (listOpening ++ "GodotMethodList" ++ " = new() \x7b") = none := by
  apply listedField?_eq_none
  rw [String.append_assoc, getElem?_of_take (take_listOpening _) (by decide)]
  decide

/-- What is read from the class of records comes from the records, the line that opens the list,
and the lines of the list. -/
theorem filterMap_methodInfosLines {read : String → Option String}
    (silent : ∀ line ∈ ["file static class MethodInfos \x7b", "\x7d;", "\x7d", ""],
      read line = none)
    (typeName : String) (entries : List MethodEntry) :
    (methodInfosLines typeName entries).filterMap read =
      entries.flatMap (fun entry => (methodInfoLines typeName entry).filterMap read) ++
        (read (listOpening ++ "GodotMethodList" ++ " = new() \x7b")).toList ++
        entries.filterMap fun entry => read ("        MethodInfos." ++ entry.infoName ++ ",") := by
  have header : ["file static class MethodInfos \x7b"].filterMap read = [] :=
    List.filterMap_cons_none (silent _ List.mem_cons_self)
  have opening (line : String) : ["", line].filterMap read = (read line).toList := by
    rw [List.filterMap_cons_none (silent "" (by decide)), List.filterMap_cons]
    cases read line <;> rfl
  have closing : ["\x7d;", "\x7d", ""].filterMap read = [] :=
    List.filterMap_eq_nil_iff.mpr fun line listed => silent line (List.mem_cons_of_mem _ listed)
  rw [methodInfosLines, listLine_eq]
  simp only [List.filterMap_append, header, opening, closing, List.filterMap_flatMap,
    List.filterMap_map, Function.comp_def, List.nil_append, List.append_nil]

theorem filterMap_declaredField?_methodInfosLines (typeName : String)
    (entries : List MethodEntry) :
    (methodInfosLines typeName entries).filterMap declaredField? =
      entries.map MethodEntry.infoName ++ ["GodotMethodList"] := by
  have silent : ∀ line ∈ ["file static class MethodInfos \x7b", "\x7d;", "\x7d", ""],
      declaredField? line = none := by
    intro line constant
    apply declaredField?_eq_none
    revert line
    decide
  have listed (entry : MethodEntry) :
      declaredField? ("        MethodInfos." ++ entry.infoName ++ ",") = none :=
    declaredField?_eq_none (by simp [String.toList_append])
  rw [filterMap_methodInfosLines silent]
  simp only [filterMap_declaredField?_methodInfoLines, declaredField?_listLine, listed]
  simp [List.map_eq_flatMap]

theorem filterMap_listedField?_methodInfosLines (typeName : String) (entries : List MethodEntry) :
    (methodInfosLines typeName entries).filterMap listedField? =
      entries.map MethodEntry.infoName := by
  have silent : ∀ line ∈ ["file static class MethodInfos \x7b", "\x7d;", "\x7d", ""],
      listedField? line = none := by
    intro line constant
    apply listedField?_eq_none
    revert line
    decide
  have listed (entry : MethodEntry) :
      listedField? ("        MethodInfos." ++ entry.infoName ++ ",") = some entry.infoName :=
    Text.between?_eq_some_iff.mpr rfl
  rw [filterMap_methodInfosLines silent]
  simp only [filterMap_listedField?_methodInfoLines, listedField?_listLine, listed]
  simp

/-! ## Fields of their own -/

/-- Each line of the list names a field that is declared in the place of the line's own entry and
nowhere else. -/
def ListsOwnFields (lines : List String) : Prop :=
  ∀ (index : Nat) (field : String), (lines.filterMap listedField?)[index]? = some field →
    ∀ place : Nat, (lines.filterMap declaredField?)[place]? = some field ↔ place = index

/-- The lines of the list name their own fields exactly if no field is declared twice. -/
theorem listsOwnFields_methodInfosLines_iff {typeName : String} {entries : List MethodEntry} :
    ListsOwnFields (methodInfosLines typeName entries) ↔
      ((methodInfosLines typeName entries).filterMap declaredField?).Nodup := by
  rw [ListsOwnFields, filterMap_declaredField?_methodInfosLines,
    filterMap_listedField?_methodInfosLines, List.nodup_iff_getElem?_ne_getElem?]
  have own_place {index : Nat} {field : String}
      (listed : (entries.map MethodEntry.infoName)[index]? = some field) :
      (entries.map MethodEntry.infoName ++ ["GodotMethodList"])[index]? = some field := by
    have inside := (List.getElem?_eq_some_iff.mp listed).1
    rw [List.getElem?_append_left inside, listed]
  constructor
  · intro own early late before inside same
    have early_inside : early < (entries.map MethodEntry.infoName).length := by
      simp only [List.length_append, List.length_singleton] at inside
      omega
    have listed := List.getElem?_eq_getElem early_inside
    have place := (own early _ listed late).mp (same.symm.trans (own_place listed))
    omega
  · intro apart index field listed place
    have declared := own_place listed
    constructor
    · intro here
      have place_inside := (List.getElem?_eq_some_iff.mp here).1
      have index_inside := (List.getElem?_eq_some_iff.mp declared).1
      rcases Nat.lt_trichotomy place index with before | same | after
      · exact absurd (here.trans declared.symm) (apart place index before index_inside)
      · exact same
      · exact absurd (declared.trans here.symm) (apart index place after place_inside)
    · rintro rfl
      exact declared

end SourceUnit

namespace MethodTable

/-- No two fields of the class of records have one name. -/
structure NamesApart (methods : MethodTable) : Prop where
  /-- An overload of a name reads like no overload of another name. -/
  overloads : ∀ left index, index < methods.overloadCount left →
    ∀ right other, other < methods.overloadCount right →
      left ++ overloadSuffix index = right ++ overloadSuffix other → left = right
  /-- No entry is named like the list. -/
  list : methods.overloadCount "GodotMethodList" = 0

/-- The list's own name is taken only by an entry of that very name. -/
theorem listName_mem_infoName_build_iff {framework : Framework} {table : SymbolTable}
    {decl : TypeDecl} {overrides : List String} :
    "GodotMethodList" ∈ (build framework table decl overrides).entries.map MethodEntry.infoName ↔
      (build framework table decl overrides).overloadCount "GodotMethodList" ≠ 0 := by
  have ends : "GodotMethodList".toList.getLast?.any Char.isDigit = false := by decide
  simp only [mem_infoName_build, append_overloadSuffix_eq_iff ends]
  constructor
  · rintro ⟨name, index, known, rfl, rfl⟩
    omega
  · intro present
    exact ⟨_, 0, by omega, rfl, rfl⟩

/-- The class of records declares a field for each entry and one for the list.  No two of them have
one name, and each line of the list names the field of its own entry, exactly if the numbered names
of the entries are apart. -/
theorem registers_build_iff (framework : Framework) (table : SymbolTable) (decl : TypeDecl)
    (overrides : List String) (typeName : String) :
    let methods := build framework table decl overrides
    let lines := SourceUnit.methodInfosLines typeName methods.entries
    lines.filterMap SourceUnit.declaredField? =
        methods.entries.map MethodEntry.infoName ++ ["GodotMethodList"] ∧
      lines.filterMap SourceUnit.listedField? = methods.entries.map MethodEntry.infoName ∧
      ((lines.filterMap SourceUnit.declaredField?).Nodup ↔ methods.NamesApart) ∧
      (SourceUnit.ListsOwnFields lines ↔ methods.NamesApart) := by
  intro methods lines
  have declared : lines.filterMap SourceUnit.declaredField? =
      methods.entries.map MethodEntry.infoName ++ ["GodotMethodList"] :=
    SourceUnit.filterMap_declaredField?_methodInfosLines typeName methods.entries
  have apart : (lines.filterMap SourceUnit.declaredField?).Nodup ↔ methods.NamesApart := by
    rw [declared, List.nodup_append_comm, List.singleton_append, List.nodup_cons,
      nodup_infoName_build_iff, listName_mem_infoName_build_iff, not_ne_iff]
    exact ⟨fun both => ⟨both.2, both.1⟩, fun names => ⟨names.list, names.overloads⟩⟩
  exact ⟨declared, SourceUnit.filterMap_listedField?_methodInfosLines typeName methods.entries,
    apart, SourceUnit.listsOwnFields_methodInfosLines_iff.trans apart⟩

end MethodTable

/-! ## A field that is declared twice -/

/-- A method with the given parameters and no result. -/
def Member.action (name : String) (params : List Parameter) : Member where
  name := name
  access := .publicAccess
  isStatic := false
  isImplicit := false
  attributes := []
  shape := .method
    { returns := .void false
      params
      kind := .ordinary
      returnsByRef := false }

/-- Two overloads of one name, and a method that reads like the second of them. -/
def TypeDecl.ambiguous : TypeDecl :=
  .player
    [.action "A" [],
      .action "A" [⟨"count", .builtin .int32 false, .byValue⟩],
      .action "A2" []]

/-- The second overload of `A` and the method `A2` get one field, which is declared twice. -/
theorem MethodTable.not_registers_ambiguous :
    let table := (SymbolTable.ofEngineTypes .standard).put .ambiguous
    ∃ framework, Framework.resolve table .standard = .ok framework ∧
      let methods := build framework table .ambiguous []
      let lines := SourceUnit.methodInfosLines "Player" methods.entries
      methods.engineParent = some FrameworkNames.standard.nodeClass ∧
        lines.filterMap SourceUnit.declaredField? = ["A", "A2", "A2", "GodotMethodList"] ∧
        ¬(lines.filterMap SourceUnit.declaredField?).Nodup ∧ ¬SourceUnit.ListsOwnFields lines := by
  intro table
  refine ⟨.ofNames .standard, Framework.resolve_eq_ok_iff.mpr ⟨by decide +kernel, rfl⟩, ?_⟩
  intro methods lines
  have fields : methods.entries.map MethodEntry.infoName = ["A", "A2", "A2"] := by
    decide +kernel
  have declared : lines.filterMap SourceUnit.declaredField? =
      ["A", "A2", "A2", "GodotMethodList"] := by
    rw [SourceUnit.filterMap_declaredField?_methodInfosLines, fields]
    rfl
  have twice : ¬(lines.filterMap SourceUnit.declaredField?).Nodup := by
    rw [declared]
    decide
  exact ⟨by decide +kernel, declared, twice,
    fun own => twice (SourceUnit.listsOwnFields_methodInfosLines_iff.mp own)⟩

end NodeLifecycle
