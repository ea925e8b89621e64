import NodeLifecycle.Symbol.QualifiedName

/-!
# Generated units

A unit is a generated source text with the name under which the host files it.  Texts are made as
lists of lines; every line ends with a line feed.  All units open in the same way: a comment that
says what generated them, the namespace of the class, and the namespaces they use.  A text that
stands in a unit as a literal is put between quotes: quotes, backslashes and four control characters
are written as a backslash and a second character, and everything else stands for itself.
-/

namespace NodeLifecycle

/-! ## String literals -/

namespace Literal

/-- The second character of an escape, for the characters that are escaped. -/
def escape? : Char → Option Char
  | '"' => some '"'
  | '\\' => some '\\'
  | '\n' => some 'n'
  | '\r' => some 'r'
  | '\t' => some 't'
  | '\x00' => some '0'
  | _ => none

/-- A character as it stands inside a literal. -/
def encodeChar (char : Char) : List Char :=
  match escape? char with
  | some second => ['\\', second]
  | none => [char]

/-- The characters between the quotes. -/
def encode (text : List Char) : List Char :=
  text.flatMap encodeChar

def ofText (text : String) : String :=
  String.ofList ('"' :: encode text.toList ++ ['"'])

@[simp] theorem encode_cons (char : Char) (text : List Char) :
    encode (char :: text) = encodeChar char ++ encode text := rfl

@[simp] theorem toList_ofText (text : String) :
    (ofText text).toList = '"' :: encode text.toList ++ ['"'] := by
  simp [ofText]

end Literal

/-! ## Units -/

/-- A generated source text. -/
structure SourceUnit where
  /-- The name under which the unit is filed. -/
  hint : String
  /-- The whole text. -/
  text : String
deriving DecidableEq

namespace SourceUnit

/-- The text of a list of lines, each with a line feed after it. -/
def ofLines (lines : List String) : String :=
  String.join (lines.map fun line => line ++ "\n")

@[simp] theorem ofLines_nil : ofLines [] = "" := rfl

/-- The name under which a unit of a class is filed. -/
def hintName (type : QualifiedName) (shortName : String) : String :=
  type.display ++ "_" ++ shortName ++ ".generated.cs"

/-- The namespaces that a lifecycle unit uses. -/
def lifecycleUsings : List String :=
  ["System", "System.Collections.Generic", "System.Collections.Immutable",
    "System.Runtime.CompilerServices", "Godot"]

def scriptMethodsUsings : List String :=
  ["System", "System.Collections.Generic", "System.Collections.Immutable", "Godot.NativeInterop",
    "Godot"]

/-- The namespace line of a class and the blank line after it; nothing for a class in the global
namespace. -/
def namespaceLines (type : QualifiedName) : List String :=
  if type.isGlobal then [] else ["namespace " ++ type.scopeText ++ ";", ""]

/-- The opening lines of a unit. -/
def preamble (generatorNamespace generatorName : String) (type : QualifiedName)
    (usings : List String) : List String :=
  ["// Generated code via " ++ generatorNamespace ++ "." ++ generatorName] ++
    namespaceLines type ++
    usings.map (fun used => "using " ++ used ++ ";") ++
    ["", "#nullable enable", ""]

end SourceUnit
end NodeLifecycle
