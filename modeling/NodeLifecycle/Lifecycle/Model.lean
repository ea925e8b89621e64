import NodeLifecycle.Lifecycle.DisposalPlan
import NodeLifecycle.Lifecycle.Pass
import NodeLifecycle.Lifecycle.SceneInjection
import NodeLifecycle.MethodTable

/-!
# Lifecycle models

What one pass generates for a class: the calls of the override in order, the helper members that
these calls need, and what there is to report.  A pass with work is emitted only for a class that
can be continued in another file.
-/

namespace NodeLifecycle

/-- A generated member that supports an override. -/
inductive Helper where
  /-- The method that fills a member from the scene. -/
  | sceneInit (injection : SceneInjection)
  /-- The method that makes the given release calls in order. -/
  | disposeAll (resets : List String)
  /-- The field that holds a resource. -/
  | slot (entry : DisposalEntry)
  /-- The method that replaces a resource. -/
  | updater (entry : DisposalEntry)
  /-- The method that releases a resource. -/
  | reset (entry : DisposalEntry)
deriving DecidableEq

/-- A role that some pass gives to a member. -/
inductive MemberRole where
  /-- An override calls the method. -/
  | primary (method : String) (returnsResource : Bool)
  /-- The method's resource is replaced on demand. -/
  | autoDisposed (method : String) (access : Accessibility) (params : List Parameter)
  /-- The member is filled from the scene. -/
  | sceneInjected (injection : SceneInjection)
  /-- The engine can call the method. -/
  | marshalled (entry : MethodEntry)
deriving DecidableEq

def MemberRole.member : MemberRole → String
  | primary method _ => method
  | autoDisposed method _ _ => method
  | sceneInjected injection => injection.member
  | marshalled entry => entry.name

def Classification.memberRoles (classification : Classification) : List MemberRole :=
  (if classification.roles.isHook then
    [.primary classification.method classification.roles.disposesOnExit]
  else
    []) ++
    (if classification.roles.isAutoDisposed then
      [.autoDisposed classification.method classification.updaterAccess classification.params]
    else
      [])

/-- A class as one pass sees it. -/
structure ClassDescriptor where
  /-- The class's name. -/
  name : QualifiedName
  /-- The base class. -/
  base : Option QualifiedName
  /-- The modifiers as they are written. -/
  modifiers : String
  /-- Whether the class can be continued in another file. -/
  isPartial : Bool
  /-- Whether the class also runs inside the editor. -/
  isTool : Bool
  /-- Whether the class declares the override that the pass would generate. -/
  hasOverride : Bool
deriving DecidableEq

def ClassDescriptor.ofDecl (framework : Framework) (decl : TypeDecl) (pass : Pass) :
    ClassDescriptor where
  name := decl.name
  base := decl.base
  modifiers := decl.modifiersText
  isPartial := decl.isPartial
  isTool := decl.hasAttribute framework.tool
  hasOverride := decl.hasMember pass.overrideName

/-- What one pass generates for a class. -/
structure LifecycleModel where
  /-- The pass. -/
  pass : Pass
  /-- The class as the pass sees it. -/
  descriptor : ClassDescriptor
  /-- The calls of the override in order. -/
  calls : List HookCall
  /-- The members that support the override. -/
  helpers : List Helper
  /-- What there is to report. -/
  diagnostics : List Diagnostic
deriving DecidableEq

namespace LifecycleModel

def hasWork (model : LifecycleModel) : Bool :=
  !model.calls.isEmpty || !model.helpers.isEmpty

def shouldEmit (model : LifecycleModel) : Bool :=
  model.hasWork && model.descriptor.isPartial

/-- What keeps the class as a whole from being continued as it should: it cannot be continued at
all, or it declares the override itself. -/
def classFindings (pass : Pass) (descriptor : ClassDescriptor) : List Finding :=
  if !descriptor.isPartial then [.notPartial]
  else if descriptor.hasOverride then [.ownOverride pass.overrideName pass.shortName]
  else []

/-- The model of a pass from its calls and helpers.  The class is reported on only if there is
work; the reports of the classified methods follow. -/
def ofParts (framework : Framework) (decl : TypeDecl) (pass : Pass) (calls : List HookCall)
    (helpers : List Helper) (classifications : List Classification) : LifecycleModel where
  pass := pass
  descriptor := .ofDecl framework decl pass
  calls := calls
  helpers := helpers
  diagnostics :=
    (if calls.isEmpty && helpers.isEmpty then
      []
    else
      (classFindings pass (.ofDecl framework decl pass)).map fun finding =>
        finding.report decl.name.simple decl.name.scopeText) ++
      classifications.flatMap Classification.diagnostics

@[simp] theorem calls_ofParts (framework : Framework) (decl : TypeDecl) (pass : Pass)
    (calls : List HookCall) (helpers : List Helper) (classifications : List Classification) :
    (ofParts framework decl pass calls helpers classifications).calls = calls := rfl

@[simp] theorem helpers_ofParts (framework : Framework) (decl : TypeDecl) (pass : Pass)
    (calls : List HookCall) (helpers : List Helper) (classifications : List Classification) :
    (ofParts framework decl pass calls helpers classifications).helpers = helpers := rfl

end LifecycleModel
end NodeLifecycle
