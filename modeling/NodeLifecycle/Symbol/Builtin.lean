/-!
# Built-in types

The scalar types of the host language that have a keyword, together with `string` and `object`.
Each has a keyword and a name in the runtime library.
-/

namespace NodeLifecycle

/-- A type that is written as a keyword. -/
inductive Builtin where
  | boolean
  | char
  | sbyte
  | byte
  | int16
  | uint16
  | int32
  | uint32
  | int64
  | uint64
  | single
  | double
  | string
  | object
deriving DecidableEq

namespace Builtin

def all : List Builtin :=
  [boolean, char, sbyte, byte, int16, uint16, int32, uint32, int64, uint64, single, double, string,
    object]

def keyword : Builtin → String
  | boolean => "bool"
  | char => "char"
  | sbyte => "sbyte"
  | byte => "byte"
  | int16 => "short"
  | uint16 => "ushort"
  | int32 => "int"
  | uint32 => "uint"
  | int64 => "long"
  | uint64 => "ulong"
  | single => "float"
  | double => "double"
  | string => "string"
  | object => "object"

/-- The name of the type in the `System` namespace. -/
def runtimeName : Builtin → String
  | boolean => "Boolean"
  | char => "Char"
  | sbyte => "SByte"
  | byte => "Byte"
  | int16 => "Int16"
  | uint16 => "UInt16"
  | int32 => "Int32"
  | uint32 => "UInt32"
  | int64 => "Int64"
  | uint64 => "UInt64"
  | single => "Single"
  | double => "Double"
  | string => "String"
  | object => "Object"

def ofKeyword? (text : String) : Option Builtin :=
  all.find? fun builtin => builtin.keyword == text

/-- Characters and the whole-number types. -/
def isIntegral : Builtin → Bool
  | char | sbyte | byte | int16 | uint16 | int32 | uint32 | int64 | uint64 => true
  | _ => false

def isFloating : Builtin → Bool
  | single | double => true
  | _ => false

/-- Whether values of the type are references, which may be null without a separate wrapper. -/
def isReference : Builtin → Bool
  | string | object => true
  | _ => false

@[simp] theorem ofKeyword?_keyword (builtin : Builtin) :
    ofKeyword? builtin.keyword = some builtin := by
  cases builtin <;> decide

end Builtin
end NodeLifecycle
