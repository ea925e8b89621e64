import NodeLifecycle.Symbol.Builtin
import NodeLifecycle.Symbol.QualifiedName

/-!
# Declared types

A declared type is what stands in a declaration: `void`, a keyword, a named type, or an array of a
declared type, each with or without a nullable annotation.  It has three spellings, which differ
in how names are qualified and in whether annotations are written.
-/

namespace NodeLifecycle

/-- The type of a field, property, parameter or return value. -/
inductive DeclaredType where
  /-- No value. -/
  | void (nullable : Bool)
  /-- A type written as a keyword. -/
  | builtin (type : Builtin) (nullable : Bool)
  /-- A type known by name. -/
  | named (name : QualifiedName) (nullable : Bool)
  /-- An array with the given number of dimensions. -/
  | array (element : DeclaredType) (rank : Nat) (nullable : Bool)
deriving DecidableEq

/-- How the names inside a type are written. -/
inductive Spelling where
  /-- Simple names, with nullable annotations. -/
  | minimal
  /-- Names with their namespaces. -/
  | qualified
  /-- Names with their namespaces behind the alias of the global namespace. -/
  | global
deriving DecidableEq

namespace DeclaredType

/-- Whether the type is annotated as nullable at its top. -/
def isNullable : DeclaredType → Bool
  | void nullable => nullable
  | builtin _ nullable => nullable
  | named _ nullable => nullable
  | array _ _ nullable => nullable

def isVoid : DeclaredType → Bool
  | void _ => true
  | _ => false

def name? : DeclaredType → Option QualifiedName
  | named name _ => some name
  | _ => none

/-- The brackets of one array level: one comma less than there are dimensions. -/
def rankSpecifier (rank : Nat) : String :=
  "[" ++ String.ofList (List.replicate (rank - 1) ',') ++ "]"

/-- The mark of a nullable annotation, in the spellings that write one. -/
def nullableMark (spelling : Spelling) (nullable : Bool) : String :=
  if spelling = .minimal ∧ nullable then "?" else ""

/-- The text of a type without the annotation at its top.  The elements of an array keep their
annotation in the minimal spelling. -/
def shapeText (spelling : Spelling) : DeclaredType → String
  | void _ => "void"
  | builtin type _ =>
      match spelling with
      | .global => "global::System." ++ type.runtimeName
      | _ => type.keyword
  | named name _ =>
      match spelling with
      | .minimal => name.simple
      | .qualified => name.display
      | .global => name.globalDisplay
  | array element rank _ =>
      element.shapeText spelling ++ nullableMark spelling element.isNullable ++ rankSpecifier rank

/-- The spelling of a parameter list: simple names and all annotations. -/
def minimal (type : DeclaredType) : String :=
  type.shapeText .minimal ++ nullableMark .minimal type.isNullable

/-- The spelling with namespaces and without annotations. -/
def qualified (type : DeclaredType) : String :=
  type.shapeText .qualified

/-- The spelling with the global alias, runtime names and no annotations. -/
def globalQualified (type : DeclaredType) : String :=
  type.shapeText .global

theorem name?_eq_some_iff {type : DeclaredType} {name : QualifiedName} :
    type.name? = some name ↔ ∃ nullable, type = named name nullable := by
  cases type <;> simp [name?]

end DeclaredType
end NodeLifecycle
