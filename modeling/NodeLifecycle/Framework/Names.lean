import NodeLifecycle.Framework.Marker
import NodeLifecycle.Symbol.QualifiedName

/-!
# Names of the framework

The names under which the engine and the attribute library are known to a compilation.  A host may
give other names than the usual ones; every query goes through this record.
-/

namespace NodeLifecycle

/-- The names that the generator looks for in a compilation. -/
structure FrameworkNames where
  /-- Classes below this one take part in generation. -/
  nodeClass : QualifiedName
  /-- The root of the engine's own hierarchy. -/
  objectClass : QualifiedName
  /-- The attribute of classes that also run inside the editor. -/
  toolAttribute : QualifiedName
  /-- The interface of resources that have to be released. -/
  disposableInterface : QualifiedName
  /-- The assembly that holds the engine's types. -/
  engineAssembly : String
  /-- The namespace of the engine's types. -/
  engineNamespace : String
  /-- The namespace of the engine's collections. -/
  collectionsNamespace : String
  /-- The assembly that holds the marker attributes. -/
  attributesAssembly : String
  /-- The attribute class of enter-tree hooks. -/
  onEnterTree : QualifiedName
  /-- The attribute class of exit-tree hooks. -/
  onExitTree : QualifiedName
  /-- The attribute class of ready hooks. -/
  onReady : QualifiedName
  /-- The attribute class of producers whose result is disposed automatically. -/
  autoDispose : QualifiedName
  /-- The attribute class of members that are filled from the scene. -/
  sceneUniqueName : QualifiedName
  /-- The attribute class of methods that stay out of the method table. -/
  ignore : QualifiedName
  /-- The enumeration that names the accessibility of an updater. -/
  accessibilityEnum : QualifiedName
deriving DecidableEq

namespace FrameworkNames

def standard : FrameworkNames where
  nodeClass := ⟨"Node", ["Godot"]⟩
  objectClass := ⟨"GodotObject", ["Godot"]⟩
  toolAttribute := ⟨"ToolAttribute", ["Godot"]⟩
  disposableInterface := ⟨"IDisposable", ["System"]⟩
  engineAssembly := "GodotSharp"
  engineNamespace := "Godot"
  collectionsNamespace := "Godot.Collections"
  attributesAssembly := "GodotHat.Attributes"
  onEnterTree := ⟨"OnEnterTreeAttribute", ["GodotHat"]⟩
  onExitTree := ⟨"OnExitTreeAttribute", ["GodotHat"]⟩
  onReady := ⟨"OnReadyAttribute", ["GodotHat"]⟩
  autoDispose := ⟨"AutoDisposeAttribute", ["GodotHat"]⟩
  sceneUniqueName := ⟨"SceneUniqueNameAttribute", ["GodotHat"]⟩
  ignore := ⟨"GodotIgnoreAttribute", ["GodotHat"]⟩
  accessibilityEnum := ⟨"Accessibility", ["GodotHat"]⟩

def markerClass (names : FrameworkNames) : Marker → QualifiedName
  | .onEnterTree => names.onEnterTree
  | .onExitTree => names.onExitTree
  | .onReady => names.onReady
  | .autoDispose => names.autoDispose
  | .sceneUniqueName => names.sceneUniqueName
  | .ignore => names.ignore

def engineType (names : FrameworkNames) (name : String) : QualifiedName :=
  .ofText (names.engineNamespace ++ "." ++ name)

def collectionsType (names : FrameworkNames) (name : String) : QualifiedName :=
  .ofText (names.collectionsNamespace ++ "." ++ name)

/-- The names without which nothing can be generated, in the order in which they are resolved. -/
def required (names : FrameworkNames) : List QualifiedName :=
  [names.nodeClass, names.objectClass, names.toolAttribute, names.disposableInterface,
    names.onEnterTree, names.onExitTree, names.onReady, names.autoDispose, names.sceneUniqueName,
    names.ignore]

end FrameworkNames
end NodeLifecycle
