import NodeLifecycle.Framework.Handles
import NodeLifecycle.Variant.Kind

/-!
# Variant kinds of declared types

Which kind of variant carries a value of a declared type across the boundary to the engine, if any
does.  A value type that is annotated as nullable has no kind of its own.  The kind of an array is
chosen by its elements without their annotations, so nullable values cross as elements of arrays.
-/

namespace NodeLifecycle

/-- The kind for values of a built-in type.  Plain objects may hold anything and have none. -/
def VariantKind.ofBuiltin? : Builtin → Option VariantKind
  | .boolean => some .bool
  | .char | .sbyte | .byte | .int16 | .uint16 | .int32 | .uint32 | .int64 | .uint64 => some .int
  | .single | .double => some .float
  | .string => some .string
  | .object => none

def VariantKind.packedOfBuiltin? : Builtin → Option VariantKind
  | .byte => some .packedByteArray
  | .int32 => some .packedInt32Array
  | .int64 => some .packedInt64Array
  | .single => some .packedFloat32Array
  | .double => some .packedFloat64Array
  | .string => some .packedStringArray
  | _ => none

/-- The array kind for arrays of one of the engine's own types, by simple name. -/
def VariantKind.arrayOfEngineType? (simpleName : String) : Option VariantKind :=
  if simpleName = "Color" then some .packedColorArray
  else if simpleName = "Vector2" then some .packedVector2Array
  else if simpleName = "Vector3" then some .packedVector3Array
  else if simpleName = "Vector4" then some .packedVector4Array
  else if simpleName = "NodePath" ∨ simpleName = "Rid" ∨ simpleName = "StringName" then some .array
  else none

namespace Framework

def isEngineType (framework : Framework) (decl : TypeDecl) : Bool :=
  decl.livesIn framework.names.engineAssembly framework.names.engineNamespace

def isCollection (framework : Framework) (decl : TypeDecl) : Bool :=
  decl.livesIn framework.names.engineAssembly framework.names.collectionsNamespace

/-- Whether a type is the engine's object class or below it. -/
def isEngineObject (framework : Framework) (table : SymbolTable) (decl : TypeDecl) : Bool :=
  table.extendsClass decl.name framework.object

/-- The kind of the classes that the engine treats as values. -/
def valueClassKind? (framework : Framework) (decl : TypeDecl) : Option VariantKind :=
  if framework.isEngineType decl && decl.name.simple == "StringName" then some .stringName
  else if framework.isEngineType decl && decl.name.simple == "NodePath" then some .nodePath
  else if framework.isCollection decl && decl.name.simple == "Array" then some .array
  else if framework.isCollection decl && decl.name.simple == "Dictionary" then some .dictionary
  else none

def kindOfDecl? (framework : Framework) (table : SymbolTable) (decl : TypeDecl) :
    Option VariantKind :=
  match decl.kind with
  | .enumType => some .int
  | .structType =>
      if framework.isEngineType decl then VariantKind.ofEngineValueType? decl.name.simple
      else none
  | .classType | .interfaceType =>
      (framework.valueClassKind? decl).or
        (if framework.isEngineObject table decl then some .object else none)

/-- The array kind for arrays of a registered type. -/
def arrayKindOfDecl? (framework : Framework) (table : SymbolTable) (decl : TypeDecl) :
    Option VariantKind :=
  (if framework.isEngineType decl then VariantKind.arrayOfEngineType? decl.name.simple
    else none).or
    (if decl.isClass && framework.isEngineObject table decl then some .array else none)

/-- The array kind for arrays with the given elements; their annotations do not matter. -/
def arrayKind? (framework : Framework) (table : SymbolTable) : DeclaredType → Option VariantKind
  | .builtin type _ => VariantKind.packedOfBuiltin? type
  | .named name _ => (table.get? name).bind (framework.arrayKindOfDecl? table)
  | .void _ => none
  | .array .. => none

/-- Whether values of a kind of type are copied, so that a nullable one needs a wrapper. -/
def isValueKind : TypeKind → Bool
  | .structType | .enumType => true
  | .classType | .interfaceType => false

/-- The kind for values of a declared type; none if they cannot cross the boundary. -/
def variantKind? (framework : Framework) (table : SymbolTable) :
    DeclaredType → Option VariantKind
  | .void _ => none
  | .builtin type nullable =>
      if nullable && !type.isReference then none else VariantKind.ofBuiltin? type
  | .named name nullable =>
      (table.get? name).bind fun decl =>
        if nullable && isValueKind decl.kind then none else framework.kindOfDecl? table decl
  | .array element rank _ => if rank = 1 then framework.arrayKind? table element else none

end Framework
end NodeLifecycle
