import NodeLifecycle.Diagnostic.Report
import NodeLifecycle.Lifecycle.Model

/-!
# Class analyses

Everything that is found out about one class: a model for each pass, the disposal plan that ties the
passes together, the scene injections, the method table and the roles of the members.  Resources
that the first two passes acquire are released by the third.
-/

namespace NodeLifecycle

/-- What is found out about one class. -/
structure ClassAnalysis where
  /-- The class. -/
  type : QualifiedName
  /-- The override for entering the tree. -/
  enterTree : LifecycleModel
  /-- The override for being ready. -/
  ready : LifecycleModel
  /-- The override for leaving the tree. -/
  exitTree : LifecycleModel
  /-- The tracked resources. -/
  disposal : DisposalPlan
  /-- The members that are filled from the scene. -/
  scene : List SceneInjection
  /-- The methods that the engine can call; absent if they are not wanted or if the class cannot be
  continued. -/
  methodTable : Option MethodTable
  /-- The roles of the members, each once. -/
  roles : List MemberRole
  /-- What was noted on the way. -/
  notices : List Notice
deriving DecidableEq

namespace ClassAnalysis

def model (analysis : ClassAnalysis) : Pass → LifecycleModel
  | .enterTree => analysis.enterTree
  | .ready => analysis.ready
  | .exitTree => analysis.exitTree

/-- The three models in the order of the passes. -/
def models (analysis : ClassAnalysis) : List LifecycleModel :=
  [analysis.enterTree, analysis.ready, analysis.exitTree]

/-- What all passes report, each diagnostic once. -/
def diagnostics (analysis : ClassAnalysis) : Report :=
  .ofList (analysis.models.flatMap LifecycleModel.diagnostics)

/-- The roles of the members with the given name. -/
def rolesOf (analysis : ClassAnalysis) (member : String) : List MemberRole :=
  analysis.roles.filter fun role => role.member == member

end ClassAnalysis

namespace TypeDecl

/-! ## The passes -/

/-- The classifications of the members for a pass. -/
def classifications (decl : TypeDecl) (framework : Framework) (table : SymbolTable)
    (pass : Pass) : List Classification :=
  decl.members.filterMap
    (decl.classify? framework table [pass.marker] pass.allowsResources)

/-- The calls of the hooks of a pass, in the order of the members. -/
def hookCalls (decl : TypeDecl) (framework : Framework) (table : SymbolTable) (pass : Pass) :
    List HookCall :=
  (decl.classifications framework table pass).filterMap Classification.call?

def disposalPlan (decl : TypeDecl) (framework : Framework) (table : SymbolTable) : DisposalPlan :=
  .merge decl (decl.classifications framework table .enterTree)
    (decl.classifications framework table .ready)

/-- On entering the tree, members are filled from the scene before any hook is called. -/
def enterTreeModel (decl : TypeDecl) (framework : Framework) (table : SymbolTable) :
    LifecycleModel :=
  .ofParts framework decl .enterTree
    ((decl.sceneInjections framework).map (fun injection => .initFromScene injection.member) ++
      decl.hookCalls framework table .enterTree)
    ((decl.sceneInjections framework).map .sceneInit)
    (decl.classifications framework table .enterTree)

/-- When the node is ready, the hooks are called. -/
def readyModel (decl : TypeDecl) (framework : Framework) (table : SymbolTable) : LifecycleModel :=
  .ofParts framework decl .ready (decl.hookCalls framework table .ready) []
    (decl.classifications framework table .ready)

/-- The members that support a plan: the method that releases everything, and for each resource its
field, the method that replaces it if there is one, and the method that releases it. -/
def disposalHelpers (plan : DisposalPlan) : List Helper :=
  if plan.isEmpty then
    []
  else
    .disposeAll plan.resets ::
      plan.entries.flatMap fun entry =>
        if entry.isAuto then [.slot entry, .updater entry, .reset entry]
        else [.slot entry, .reset entry]

/-- On leaving the tree, the hooks are called before all resources are released. -/
def exitTreeModel (decl : TypeDecl) (framework : Framework) (table : SymbolTable) :
    LifecycleModel :=
  .ofParts framework decl .exitTree
    (decl.hookCalls framework table .exitTree ++
      if (decl.disposalPlan framework table).isEmpty then [] else [.disposeAll])
    (disposalHelpers (decl.disposalPlan framework table))
    (decl.classifications framework table .exitTree)

def lifecycleModel (decl : TypeDecl) (framework : Framework) (table : SymbolTable) :
    Pass → LifecycleModel
  | .enterTree => decl.enterTreeModel framework table
  | .ready => decl.readyModel framework table
  | .exitTree => decl.exitTreeModel framework table

/-! ## The whole class -/

/-- The overrides that are generated: those of the passes with work. -/
def generatedOverrides (decl : TypeDecl) (framework : Framework) (table : SymbolTable) :
    List String :=
  (Pass.all.filter fun pass => (decl.lifecycleModel framework table pass).hasWork).map
    Pass.overrideName

/-- The method table of the class; none unless it is wanted and the class can be continued. -/
def methodTable? (decl : TypeDecl) (framework : Framework) (table : SymbolTable)
    (marshalling : Bool) : Option MethodTable :=
  if marshalling && decl.isPartial then
    some (.build framework table decl (decl.generatedOverrides framework table))
  else
    none

/-- The roles of the members, in the order in which they are given and each once. -/
def memberRoles (decl : TypeDecl) (framework : Framework) (table : SymbolTable)
    (methods : Option MethodTable) : List MemberRole :=
  ((Pass.all.flatMap (decl.classifications framework table)).flatMap
      Classification.memberRoles ++
    (decl.sceneInjections framework).map MemberRole.sceneInjected ++
    ((methods.map MethodTable.declared).getD []).map MemberRole.marshalled).eraseDups

/-- Whether the class is one that generation is for: a class of the compilation below the node
class. -/
def isCandidate (decl : TypeDecl) (framework : Framework) (table : SymbolTable) : Bool :=
  decl.origin == .source && decl.isClass && table.extendsClass decl.name framework.node

/-- Find out everything about the class. -/
def analyze (decl : TypeDecl) (framework : Framework) (table : SymbolTable)
    (marshalling : Bool) : ClassAnalysis :=
  let methods := decl.methodTable? framework table marshalling
  { type := decl.name
    enterTree := decl.enterTreeModel framework table
    ready := decl.readyModel framework table
    exitTree := decl.exitTreeModel framework table
    disposal := decl.disposalPlan framework table
    scene := decl.sceneInjections framework
    methodTable := methods
    roles := decl.memberRoles framework table methods
    notices :=
      DisposalPlan.notices decl (decl.classifications framework table .enterTree)
        (decl.classifications framework table .ready) ++
        (methods.map MethodTable.notices).getD [] }

@[simp] theorem model_analyze (decl : TypeDecl) (framework : Framework) (table : SymbolTable)
    (marshalling : Bool) (pass : Pass) :
    (decl.analyze framework table marshalling).model pass =
      decl.lifecycleModel framework table pass := by
  cases pass <;> rfl

@[simp] theorem pass_lifecycleModel (decl : TypeDecl) (framework : Framework)
    (table : SymbolTable) (pass : Pass) :
    (decl.lifecycleModel framework table pass).pass = pass := by
  cases pass <;> rfl

@[simp] theorem descriptor_lifecycleModel (decl : TypeDecl) (framework : Framework)
    (table : SymbolTable) (pass : Pass) :
    (decl.lifecycleModel framework table pass).descriptor = .ofDecl framework decl pass := by
  cases pass <;> rfl

end TypeDecl
end NodeLifecycle
