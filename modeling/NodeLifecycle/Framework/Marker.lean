/-!
# Markers

The marker attributes that the generator reacts to.  Three of them make a method a hook of a
lifecycle pass; the others ask for disposal, for a scene look-up, or to be left out of the method
table.
-/

namespace NodeLifecycle

/-- A marker attribute. -/
inductive Marker where
  /-- The method is called when the node enters the tree. -/
  | onEnterTree
  /-- The method is called when the node leaves the tree. -/
  | onExitTree
  /-- The method is called when the node is ready. -/
  | onReady
  /-- The method's result is replaced on demand and disposed when the node leaves the tree. -/
  | autoDispose
  /-- The field or property is filled from a node of the scene. -/
  | sceneUniqueName
  /-- The method is left out of the method table. -/
  | ignore
deriving DecidableEq

namespace Marker

/-- Every marker, in the order in which several on one member are considered. -/
def all : List Marker :=
  [onEnterTree, onExitTree, onReady, autoDispose, sceneUniqueName, ignore]

/-- The attribute's name as it is written on a member. -/
def shortName : Marker → String
  | onEnterTree => "OnEnterTree"
  | onExitTree => "OnExitTree"
  | onReady => "OnReady"
  | autoDispose => "AutoDispose"
  | sceneUniqueName => "SceneUniqueName"
  | ignore => "GodotIgnore"

def bit : Marker → Nat
  | onEnterTree => 1
  | onExitTree => 2
  | onReady => 4
  | autoDispose => 8
  | sceneUniqueName => 16
  | ignore => 32

/-- The bits of the markers in a list. -/
def bits (markers : List Marker) : Nat :=
  markers.foldl (fun bits marker => bits ||| marker.bit) 0

@[simp] theorem mem_all (marker : Marker) : marker ∈ all := by
  cases marker <;> simp [all]

end Marker
end NodeLifecycle
