import NodeLifecycle.Framework.Names
import NodeLifecycle.Symbol.SymbolTable

/-!
# The engine's types

The types of the runtime, the engine and the attribute library that every compilation refers to,
under the names that a host has given.  Where two of those names agree, the later type takes the
place of the earlier one, so a table of engine types always exists.
-/

namespace NodeLifecycle
namespace FrameworkNames

def runtimeAssembly : String := "System.Runtime"

def rootObject : QualifiedName := ⟨"Object", ["System"]⟩

def rootAttribute : QualifiedName := ⟨"Attribute", ["System"]⟩

/-- The simple names of the engine's value types. -/
def engineStructs : List String :=
  ["Aabb", "Basis", "Callable", "Color", "Plane", "Projection", "Quaternion", "Rect2", "Rect2I",
    "Rid", "Signal", "Transform2D", "Transform3D", "Variant", "Vector2", "Vector2I", "Vector3",
    "Vector3I", "Vector4", "Vector4I"]

/-- The engine's classes below its object class, each with its base class. -/
def engineClasses (names : FrameworkNames) : List (QualifiedName × QualifiedName) :=
  [(names.engineType "RefCounted", names.objectClass),
    (names.engineType "Resource", names.engineType "RefCounted"),
    (names.nodeClass, names.objectClass),
    (names.engineType "CanvasItem", names.engineType "Node"),
    (names.engineType "Node2D", names.engineType "CanvasItem"),
    (names.engineType "Camera2D", names.engineType "Node2D"),
    (names.engineType "Sprite2D", names.engineType "Node2D"),
    (names.engineType "Node3D", names.engineType "Node"),
    (names.engineType "Control", names.engineType "CanvasItem"),
    (names.engineType "Label", names.engineType "Control"),
    (names.engineType "Timer", names.engineType "Node")]

/-- A type of the engine's assembly. -/
def engineDecl (names : FrameworkNames) (name : QualifiedName) (kind : TypeKind) : TypeDecl :=
  .referenced name kind names.engineAssembly

/-- A class of the engine's assembly directly below the root whose instances have to be
released. -/
def disposableClass (names : FrameworkNames) (name : QualifiedName) : TypeDecl :=
  { names.engineDecl name .classType with
    base := some rootObject
    interfaces := [names.disposableInterface] }

def runtimeDecls (names : FrameworkNames) : List TypeDecl :=
  [.referenced rootObject .classType runtimeAssembly,
    { TypeDecl.referenced rootAttribute .classType runtimeAssembly with base := some rootObject },
    .referenced names.disposableInterface .interfaceType runtimeAssembly]

def engineDecls (names : FrameworkNames) : List TypeDecl :=
  names.disposableClass names.objectClass ::
    names.engineClasses.map (fun (name, base) =>
      { names.engineDecl name .classType with base := some base }) ++
    engineStructs.map (fun name => names.engineDecl (names.engineType name) .structType) ++
    ["StringName", "NodePath"].map (fun name => names.disposableClass (names.engineType name)) ++
    ["Array", "Dictionary"].map
      (fun name => names.disposableClass (names.collectionsType name)) ++
    [{ names.engineDecl names.toolAttribute .classType with base := some rootAttribute }]

/-- The attribute classes of the markers, and the enumeration that one of them takes. -/
def markerDecls (names : FrameworkNames) : List TypeDecl :=
  [names.onEnterTree, names.onExitTree, names.onReady, names.autoDispose, names.sceneUniqueName,
      names.ignore].map (fun name =>
    { TypeDecl.referenced name .classType names.attributesAssembly with
      base := some rootAttribute }) ++
    [.referenced names.accessibilityEnum .enumType names.attributesAssembly]

/-- All types that a compilation starts from. -/
def engineTypes (names : FrameworkNames) : List TypeDecl :=
  names.runtimeDecls ++ names.engineDecls ++ names.markerDecls

end FrameworkNames

/-- The table of the types that a compilation starts from. -/
def SymbolTable.ofEngineTypes (names : FrameworkNames) : SymbolTable :=
  names.engineTypes.foldl SymbolTable.put SymbolTable.empty

end NodeLifecycle
