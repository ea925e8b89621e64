import NodeLifecycle.Framework.EngineTypes
import NodeLifecycle.Symbol.Ancestry

/-!
# The resolved framework

Before any class is looked at, every required name is resolved in the symbol table.  The handles
found are kept; from then on attributes and base classes are compared by handle.
-/

namespace NodeLifecycle

/-- Why a required name does not resolve. -/
inductive ResolutionError where
  /-- No type with the name that is displayed like this is registered. -/
  | missingType (name : String)
deriving DecidableEq

def ResolutionError.message : ResolutionError → String
  | missingType name => "failed to resolve " ++ name ++ ", is it in a referenced assembly?"

/-- The handle of a type that has to be registered. -/
def SymbolTable.resolve (table : SymbolTable) (name : QualifiedName) :
    Except ResolutionError Fingerprint :=
  match table.get? name with
  | none => .error (.missingType name.display)
  | some decl => .ok decl.fingerprint

/-- The framework's names together with the handles that they resolve to. -/
structure Framework where
  /-- The names that were resolved. -/
  names : FrameworkNames
  /-- The node class. -/
  node : Fingerprint
  /-- The engine's object class. -/
  object : Fingerprint
  /-- The attribute of classes that run inside the editor. -/
  tool : Fingerprint
  /-- The interface of resources that have to be released. -/
  disposable : Fingerprint
  /-- The attribute class of enter-tree hooks. -/
  onEnterTree : Fingerprint
  /-- The attribute class of exit-tree hooks. -/
  onExitTree : Fingerprint
  /-- The attribute class of ready hooks. -/
  onReady : Fingerprint
  /-- The attribute class of automatically disposed producers. -/
  autoDispose : Fingerprint
  /-- The attribute class of members that are filled from the scene. -/
  sceneUniqueName : Fingerprint
  /-- The attribute class of methods that stay out of the method table. -/
  ignore : Fingerprint
deriving DecidableEq

namespace Framework

/-- Resolve every required name; the first that is missing is the error. -/
def resolve (table : SymbolTable) (names : FrameworkNames) :
    Except ResolutionError Framework := do
  let node ← table.resolve names.nodeClass
  let object ← table.resolve names.objectClass
  let tool ← table.resolve names.toolAttribute
  let disposable ← table.resolve names.disposableInterface
  let onEnterTree ← table.resolve names.onEnterTree
  let onExitTree ← table.resolve names.onExitTree
  let onReady ← table.resolve names.onReady
  let autoDispose ← table.resolve names.autoDispose
  let sceneUniqueName ← table.resolve names.sceneUniqueName
  let ignore ← table.resolve names.ignore
  return {
    names, node, object, tool, disposable, onEnterTree, onExitTree, onReady, autoDispose,
    sceneUniqueName, ignore }

def handle (framework : Framework) : Marker → Fingerprint
  | .onEnterTree => framework.onEnterTree
  | .onExitTree => framework.onExitTree
  | .onReady => framework.onReady
  | .autoDispose => framework.autoDispose
  | .sceneUniqueName => framework.sceneUniqueName
  | .ignore => framework.ignore

def markerClassName (framework : Framework) (marker : Marker) : String :=
  (framework.names.markerClass marker).simple

/-- Whether an attribute list carries a marker. -/
def carries (framework : Framework) (attributes : List Attribute) (marker : Marker) : Bool :=
  attributes.any fun applied => applied.fingerprint == framework.handle marker

/-- The markers that an attribute list carries, each once and in their fixed order. -/
def markersOf (framework : Framework) (attributes : List Attribute) : List Marker :=
  Marker.all.filter (framework.carries attributes)

end Framework

namespace SymbolTable

theorem resolve_eq (table : SymbolTable) (name : QualifiedName) :
    table.resolve name =
      if name ∈ table.names then .ok name.fingerprint else .error (.missingType name.display) := by
  rw [resolve]
  cases found : table.get? name with
  | none => rw [if_neg (get?_eq_none_iff.mp found)]
  | some decl =>
      have named := name_eq_of_get?_eq_some found
      have listed := name_mem_names (mem_decls_of_get?_eq_some found)
      rw [← named, if_pos listed]
      rfl

end SymbolTable
end NodeLifecycle
