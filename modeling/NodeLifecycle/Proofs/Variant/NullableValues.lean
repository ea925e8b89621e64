import NodeLifecycle.Proofs.Framework.Resolution
import NodeLifecycle.Proofs.MethodTable.Overrides

/-!
# Nullable values at the boundary

A value type that is annotated as nullable has no variant kind of its own.  The kind of an array is
chosen by its elements without their annotations, however, so arrays of nullable values cross the
boundary wherever arrays of the plain values do.  This is the only way in: a type that crosses holds
a nullable value exactly if it is such an array, and the same goes for the parameters and results of
the methods in a table.
-/

namespace NodeLifecycle

namespace DeclaredType

/-- A type without the annotation at its top. -/
def plain : DeclaredType → DeclaredType
  | void _ => void false
  | builtin type _ => builtin type false
  | named name _ => named name false
  | array element rank _ => array element rank false

/-- A value type with a nullable annotation: a keyword other than `string` and `object`, or the name
of a registered struct or enumeration. -/
inductive IsNullableValue (table : SymbolTable) : DeclaredType → Prop where
  | keyword {type : Builtin} (value : type ≠ .string ∧ type ≠ .object) :
      IsNullableValue table (.builtin type true)
  | named {name : QualifiedName} {decl : TypeDecl} (found : table.get? name = some decl)
      (value : decl.kind = .structType ∨ decl.kind = .enumType) :
      IsNullableValue table (.named name true)

/-- A nullable value type occurs in a type, at its top or as an element at any depth. -/
inductive HoldsNullableValue (table : SymbolTable) : DeclaredType → Prop where
  | top {type : DeclaredType} (value : type.IsNullableValue table) : HoldsNullableValue table type
  | element {element : DeclaredType} {rank : Nat} {nullable : Bool}
      (inside : HoldsNullableValue table element) :
      HoldsNullableValue table (.array element rank nullable)

variable {table : SymbolTable}

theorem isNullableValue_of_holds {type : DeclaredType}
    (flat : ∀ element rank nullable, type ≠ .array element rank nullable)
    (holds : type.HoldsNullableValue table) : type.IsNullableValue table := by
  cases holds with
  | top value => exact value
  | element inside => exact absurd rfl (flat _ _ _)

end DeclaredType

namespace Framework

variable {framework : Framework} {table : SymbolTable}

theorem variantKind?_eq_none_of_isNullableValue {type : DeclaredType}
    (value : type.IsNullableValue table) : framework.variantKind? table type = none := by
  cases value with
  | @keyword type value =>
      have copied : type.isReference = false := by
        cases type with
        | string => exact absurd rfl value.1
        | object => exact absurd rfl value.2
        | _ => rfl
      simp [variantKind?, copied]
  | @named name decl found value =>
      have copied : isValueKind decl.kind = true := by
        rcases value with kind | kind <;> rw [kind] <;> rfl
      simp [variantKind?, found, copied]

theorem ne_array_of_arrayKind? {element : DeclaredType}
    (kind : (framework.arrayKind? table element).isSome = true) (inner : DeclaredType) (rank : Nat)
    (nullable : Bool) : element ≠ .array inner rank nullable := by
  rintro rfl
  cases kind

theorem isSome_variantKind?_array_iff {element : DeclaredType} {rank : Nat} {nullable : Bool} :
    (framework.variantKind? table (.array element rank nullable)).isSome = true ↔
      rank = 1 ∧ (framework.arrayKind? table element).isSome = true := by
  rw [variantKind?]
  by_cases flat : rank = 1
  · rw [if_pos flat, and_iff_right flat]
  · simp [flat]

theorem variantKind?_array_plain (element : DeclaredType) (rank : Nat) (nullable : Bool) :
    framework.variantKind? table (.array element.plain rank nullable) =
      framework.variantKind? table (.array element rank nullable) := by
  cases element <;> rfl

/-- The types that have a kind although a nullable value occurs in them are arrays with one
dimension whose elements are nullable values.  They have one if the arrays of the plain values
have. -/
theorem crosses_and_holds_iff {type : DeclaredType} :
    (framework.variantKind? table type).isSome = true ∧ type.HoldsNullableValue table ↔
      ∃ element nullable, type = .array element 1 nullable ∧ element.IsNullableValue table ∧
        (framework.variantKind? table (.array element.plain 1 nullable)).isSome = true := by
  simp only [variantKind?_array_plain]
  constructor
  · rintro ⟨crosses, holds⟩
    cases holds with
    | top value =>
        rw [variantKind?_eq_none_of_isNullableValue value] at crosses
        cases crosses
    | @element element rank nullable inside =>
        obtain ⟨rfl, kind⟩ := isSome_variantKind?_array_iff.mp crosses
        have flat := ne_array_of_arrayKind? kind
        exact ⟨element, nullable, rfl, DeclaredType.isNullableValue_of_holds flat inside, crosses⟩
  · rintro ⟨element, nullable, rfl, value, crosses⟩
    exact ⟨crosses, .element (.top value)⟩

/-! ## Entries -/

theorem variantKind?_of_mapM_wireParameter? {params : List Parameter} {wired : List WireParameter}
    (mapped : params.mapM (framework.wireParameter? table) = some wired) :
    ∀ parameter ∈ wired, framework.variantKind? table parameter.type = some parameter.kind := by
  induction params generalizing wired with
  | nil =>
      rw [List.mapM_nil] at mapped
      rw [← Option.some.inj mapped]
      exact List.forall_mem_nil _
  | cons first rest induction =>
      rw [List.mapM_cons] at mapped
      obtain ⟨head, first_wired, remaining⟩ := Option.bind_eq_some_iff.mp mapped
      obtain ⟨tail, rest_mapped, made⟩ := Option.bind_eq_some_iff.mp remaining
      obtain ⟨kind, known, rfl⟩ := Option.map_eq_some_iff.mp first_wired
      rw [← Option.some.inj made, List.forall_mem_cons]
      exact ⟨known, induction rest_mapped⟩

end Framework

/-- The types of the values that a call passes across the boundary: those of the parameters, and
that of the result unless there is none. -/
def MethodEntry.valueTypes (entry : MethodEntry) : List DeclaredType :=
  entry.params.map WireParameter.type ++ if entry.returnsVoid then [] else [entry.returns]

namespace MethodTable

variable {framework : Framework} {table : SymbolTable} {decl : TypeDecl}
  {overrides : List String}

theorem isSome_variantKind?_of_entryFor? {member : Member} {entry : MethodEntry}
    (found : framework.entryFor? table member = some entry) :
    ∀ type ∈ entry.valueTypes, (framework.variantKind? table type).isSome = true := by
  obtain ⟨signature, -, made⟩ := Option.bind_eq_some_iff.mp found
  rw [Framework.entryOfMethod?, Option.ite_none_right_eq_some] at made
  obtain ⟨returnKind, result, mapped⟩ := Option.bind_eq_some_iff.mp made.2
  obtain ⟨wired, params_wired, rfl⟩ := Option.map_eq_some_iff.mp mapped
  rw [MethodEntry.valueTypes, List.forall_mem_append, List.forall_mem_map]
  constructor
  · intro parameter taken
    rw [Framework.variantKind?_of_mapM_wireParameter? params_wired parameter taken]
    rfl
  · intro type returned
    rw [MethodEntry.returnsVoid] at returned
    rw [Framework.resultKind?] at result
    split at returned
    · cases returned
    · rename_i valued
      rw [if_neg valued] at result
      obtain ⟨kind, known, -⟩ := Option.map_eq_some_iff.mp result
      rw [List.mem_singleton.mp returned, known]
      rfl

theorem isSome_variantKind?_of_mem_build {entry : MethodEntry}
    (listed : entry ∈ (build framework table decl overrides).entries) :
    ∀ type ∈ entry.valueTypes, (framework.variantKind? table type).isSome = true := by
  have unnumbered : entry.valueTypes = entry.unnumbered.valueTypes := rfl
  rw [unnumbered]
  rcases exists_source_of_mem_build listed with ⟨member, -, found⟩ | ⟨override, -, made⟩
  · exact isSome_variantKind?_of_entryFor? found
  · rw [made]
    exact List.forall_mem_nil _

end MethodTable

/-! ## The way in -/

namespace Framework

/-- No nullable value crosses the boundary, neither by itself nor inside an array. -/
structure KeepsNullableValuesOut (framework : Framework) (table : SymbolTable) : Prop where
  /-- No type with a kind holds a nullable value. -/
  kinds : ∀ type : DeclaredType, (framework.variantKind? table type).isSome = true →
    ¬type.HoldsNullableValue table
  /-- No method in a table takes or returns one. -/
  entries : ∀ (decl : TypeDecl) (overrides : List String),
    ∀ entry ∈ (MethodTable.build framework table decl overrides).entries,
      ∀ type ∈ entry.valueTypes, ¬type.HoldsNullableValue table

/-- A type that crosses the boundary holds a nullable value exactly if it is an array with one
dimension whose elements are nullable values, and such an array crosses if the array of the plain
values does.  The same arrays are the only parameters and results of the methods in a table that
hold nullable values. -/
theorem nullableValues_cross_in_arrays (framework : Framework) (table : SymbolTable) :
    (∀ type : DeclaredType,
      (framework.variantKind? table type).isSome = true ∧ type.HoldsNullableValue table ↔
        ∃ element nullable, type = .array element 1 nullable ∧ element.IsNullableValue table ∧
          (framework.variantKind? table (.array element.plain 1 nullable)).isSome = true) ∧
      ∀ (decl : TypeDecl) (overrides : List String),
        ∀ entry ∈ (MethodTable.build framework table decl overrides).entries,
          ∀ type ∈ entry.valueTypes,
            (type.HoldsNullableValue table ↔
              ∃ element nullable, type = .array element 1 nullable ∧
                element.IsNullableValue table) := by
  refine ⟨fun type => crosses_and_holds_iff, fun decl overrides entry listed type passed => ?_⟩
  have crosses := MethodTable.isSome_variantKind?_of_mem_build listed type passed
  constructor
  · intro holds
    obtain ⟨element, nullable, same, value, -⟩ := crosses_and_holds_iff.mp ⟨crosses, holds⟩
    exact ⟨element, nullable, same, value⟩
  · rintro ⟨element, nullable, rfl, value⟩
    exact .element (.top value)

end Framework

/-- A class with a method that adds up numbers, some of which may be missing. -/
def TypeDecl.adder : TypeDecl :=
  .player [.action "Add" [⟨"numbers", .array (.builtin .int32 true) 1 false, .byValue⟩]]

/-- The numbers cross the boundary as a packed array, and they are read as if none were missing. -/
theorem Framework.not_keepsNullableValuesOut_adder :
    let table := SymbolTable.game [.adder] (by decide) (by decide)
    let numbers := DeclaredType.array (.builtin .int32 true) 1 false
    ∃ framework, resolve table .standard = .ok framework ∧
      framework.variantKind? table numbers = some .packedInt32Array ∧
      (MethodTable.build framework table .adder []).entries.map MethodEntry.valueTypes =
        [[numbers]] ∧
      numbers.minimal = "int?[]" ∧ numbers.globalQualified = "global::System.Int32[]" ∧
      ¬framework.KeepsNullableValuesOut table := by
  intro table numbers
  have crosses : (ofNames .standard).variantKind? table numbers = some .packedInt32Array := rfl
  have holds : numbers.HoldsNullableValue table := .element (.top (.keyword (by decide)))
  refine ⟨.ofNames .standard, resolve_game, crosses, by decide +kernel, by decide, by decide, ?_⟩
  intro kept
  exact kept.kinds numbers (by rw [crosses]; rfl) holds

end NodeLifecycle
