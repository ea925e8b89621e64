import NodeLifecycle.Framework.Marker

/-!
# Lifecycle passes

Generation makes three passes over a class, one for each engine callback that it may override.  A
fourth unit registers the methods of the class with the engine.  A selection says which of the four
units are wanted.
-/

namespace NodeLifecycle

/-- An engine callback that may be overridden. -/
inductive Pass where
  /-- The node enters the tree. -/
  | enterTree
  /-- The node is ready. -/
  | ready
  /-- The node leaves the tree. -/
  | exitTree
deriving DecidableEq

namespace Pass

/-- The passes in the order in which they are made. -/
def all : List Pass :=
  [enterTree, ready, exitTree]

def name : Pass → String
  | enterTree => "EnterTree"
  | ready => "Ready"
  | exitTree => "ExitTree"

/-- The marker that makes a method a hook of the pass. -/
def marker : Pass → Marker
  | enterTree => .onEnterTree
  | ready => .onReady
  | exitTree => .onExitTree

/-- The attribute as users write it; it also names the generated unit. -/
def shortName (pass : Pass) : String :=
  pass.marker.shortName

/-- The engine callback that is overridden. -/
def overrideName : Pass → String
  | enterTree => "_EnterTree"
  | ready => "_Ready"
  | exitTree => "_ExitTree"

/-- The name under which the pass signs its unit. -/
def generatorName (pass : Pass) : String :=
  pass.shortName ++ "Generator"

/-- Whether hooks of the pass may return a resource that is released on exit. -/
def allowsResources : Pass → Bool
  | enterTree => true
  | ready => true
  | exitTree => false

def bit : Pass → Nat
  | enterTree => 1
  | ready => 2
  | exitTree => 4

@[simp] theorem mem_all (pass : Pass) : pass ∈ all := by
  cases pass <;> simp [all]

end Pass

/-- Which units are wanted. -/
structure UnitSelection where
  /-- The override for entering the tree. -/
  enterTree : Bool
  /-- The override for being ready. -/
  ready : Bool
  /-- The override for leaving the tree. -/
  exitTree : Bool
  /-- The registration of methods. -/
  scriptMethods : Bool
deriving DecidableEq

namespace UnitSelection

def none : UnitSelection := ⟨false, false, false, false⟩

def lifecycle : UnitSelection := ⟨true, true, true, false⟩

def methodsOnly : UnitSelection := ⟨false, false, false, true⟩

def all : UnitSelection := ⟨true, true, true, true⟩

/-- The override of one pass alone. -/
def only : Pass → UnitSelection
  | .enterTree => ⟨true, false, false, false⟩
  | .ready => ⟨false, true, false, false⟩
  | .exitTree => ⟨false, false, true, false⟩

/-- The units that are in one of two selections. -/
def union (left right : UnitSelection) : UnitSelection where
  enterTree := left.enterTree || right.enterTree
  ready := left.ready || right.ready
  exitTree := left.exitTree || right.exitTree
  scriptMethods := left.scriptMethods || right.scriptMethods

def includes (selection : UnitSelection) : Pass → Bool
  | .enterTree => selection.enterTree
  | .ready => selection.ready
  | .exitTree => selection.exitTree

def passes (selection : UnitSelection) : List Pass :=
  Pass.all.filter selection.includes

/-- The selection as a number: a bit for each pass, and one for the registration of methods. -/
def bits (selection : UnitSelection) : Nat :=
  selection.passes.foldl (fun bits pass => bits ||| pass.bit)
    (if selection.scriptMethods then 8 else 0)

@[simp] theorem mem_passes {selection : UnitSelection} {pass : Pass} :
    pass ∈ selection.passes ↔ selection.includes pass = true := by
  simp [passes]

end UnitSelection

/-- The short name of the unit that registers methods. -/
def scriptMethodsShortName : String := "ScriptMethods"

/-- The name under which the registration of methods is signed. -/
def scriptMethodsGeneratorName : String := "ScriptMethodsGenerator"

end NodeLifecycle
