/-!
# Variant kinds

The engine passes every value as a variant.  A kind says what a variant holds; it has a code, which
is part of the engine's interface, and a name.
-/

namespace NodeLifecycle

/-- What a variant holds. -/
inductive VariantKind where
  | nil
  | bool
  | int
  | float
  | string
  | vector2
  | vector2I
  | rect2
  | rect2I
  | vector3
  | vector3I
  | transform2D
  | vector4
  | vector4I
  | plane
  | quaternion
  | aabb
  | basis
  | transform3D
  | projection
  | color
  | stringName
  | nodePath
  | rid
  | object
  | callable
  | signal
  | dictionary
  | array
  | packedByteArray
  | packedInt32Array
  | packedInt64Array
  | packedFloat32Array
  | packedFloat64Array
  | packedStringArray
  | packedVector2Array
  | packedVector3Array
  | packedColorArray
  | packedVector4Array
deriving DecidableEq

namespace VariantKind

/-- Every kind; the position of a kind in this list is its code. -/
def all : List VariantKind :=
  [nil, bool, int, float, string, vector2, vector2I, rect2, rect2I, vector3, vector3I, transform2D,
    vector4, vector4I, plane, quaternion, aabb, basis, transform3D, projection, color, stringName,
    nodePath, rid, object, callable, signal, dictionary, array, packedByteArray, packedInt32Array,
    packedInt64Array, packedFloat32Array, packedFloat64Array, packedStringArray,
    packedVector2Array, packedVector3Array, packedColorArray, packedVector4Array]

def code (kind : VariantKind) : Nat :=
  all.idxOf kind

/-- The kind with the given code. -/
def ofCode? (code : Nat) : Option VariantKind :=
  all[code]?

/-- The text that is shown for a number that is no code. -/
def unknownCodeMessage (code : Nat) : String :=
  "No discriminant in enum `VariantType` matches the value `" ++ toString code ++ "`"

def name : VariantKind → String
  | nil => "Nil"
  | bool => "Bool"
  | int => "Int"
  | float => "Float"
  | string => "String"
  | vector2 => "Vector2"
  | vector2I => "Vector2I"
  | rect2 => "Rect2"
  | rect2I => "Rect2I"
  | vector3 => "Vector3"
  | vector3I => "Vector3I"
  | transform2D => "Transform2D"
  | vector4 => "Vector4"
  | vector4I => "Vector4I"
  | plane => "Plane"
  | quaternion => "Quaternion"
  | aabb => "Aabb"
  | basis => "Basis"
  | transform3D => "Transform3D"
  | projection => "Projection"
  | color => "Color"
  | stringName => "StringName"
  | nodePath => "NodePath"
  | rid => "Rid"
  | object => "Object"
  | callable => "Callable"
  | signal => "Signal"
  | dictionary => "Dictionary"
  | array => "Array"
  | packedByteArray => "PackedByteArray"
  | packedInt32Array => "PackedInt32Array"
  | packedInt64Array => "PackedInt64Array"
  | packedFloat32Array => "PackedFloat32Array"
  | packedFloat64Array => "PackedFloat64Array"
  | packedStringArray => "PackedStringArray"
  | packedVector2Array => "PackedVector2Array"
  | packedVector3Array => "PackedVector3Array"
  | packedColorArray => "PackedColorArray"
  | packedVector4Array => "PackedVector4Array"

def isPacked : VariantKind → Bool
  | packedByteArray | packedInt32Array | packedInt64Array | packedFloat32Array
  | packedFloat64Array | packedStringArray | packedVector2Array | packedVector3Array
  | packedColorArray | packedVector4Array => true
  | _ => false

/-- The kinds that are value types of the engine under their own names. -/
def engineValueKinds : List VariantKind :=
  [aabb, basis, callable, color, plane, projection, quaternion, rect2, rect2I, rid, signal,
    transform2D, transform3D, vector2, vector2I, vector3, vector3I, vector4, vector4I]

/-- The kind of the engine's value type with the given simple name.  The variant type itself may
hold anything, which is the first kind. -/
def ofEngineValueType? (simpleName : String) : Option VariantKind :=
  if simpleName = "Variant" then some nil
  else engineValueKinds.find? fun kind => kind.name == simpleName

@[simp] theorem ofCode?_code (kind : VariantKind) : ofCode? kind.code = some kind := by
  cases kind <;> rfl

end VariantKind
end NodeLifecycle
