import NodeLifecycle.Diagnostic.Basic
import NodeLifecycle.Framework.Handles
import NodeLifecycle.Lifecycle.HookCall

/-!
# Classifications

A method is classified for one pass: is it a hook, does it produce a resource that is released on
exit, is that resource replaced on demand?  A method of the wrong shape keeps the roles that still
make sense, and what is wrong with it is reported.
-/

namespace NodeLifecycle

/-- The roles of a method in one pass. -/
structure Roles where
  /-- The override calls the method. -/
  isHook : Bool
  /-- The method's result is released on exit. -/
  disposesOnExit : Bool
  /-- The method's result is replaced on demand. -/
  isAutoDisposed : Bool
deriving DecidableEq

def Roles.bits (roles : Roles) : Nat :=
  (if roles.isHook then 1 else 0) + (if roles.disposesOnExit then 2 else 0) +
    (if roles.isAutoDisposed then 4 else 0)

/-- What was found out about a method for one pass. -/
structure Classification where
  /-- The method's name. -/
  method : String
  /-- The roles of the method. -/
  roles : Roles
  /-- The parameters of the method. -/
  params : List Parameter
  /-- The accessibility of the method that replaces the resource. -/
  updaterAccess : Accessibility
  /-- What is wrong with the method. -/
  diagnostics : List Diagnostic
deriving DecidableEq

namespace Classification

/-- The call that the override makes for the method, if it is a hook. -/
def call? (classification : Classification) : Option HookCall :=
  if classification.roles.isHook then
    some
      (if classification.roles.isAutoDisposed then .update classification.method
      else if classification.roles.disposesOnExit then .acquire classification.method
      else .invoke classification.method)
  else
    none

/-- The field that holds the method's resource, if there is one. -/
def slotName? (classification : Classification) : Option String :=
  if classification.roles.disposesOnExit then
    some (GeneratedName.slot classification.method)
  else
    none

/-- The method that releases the resource, if there is one. -/
def resetName? (classification : Classification) : Option String :=
  if classification.roles.disposesOnExit then
    some (GeneratedName.reset classification.method classification.roles.isAutoDisposed)
  else
    none

end Classification

namespace Framework

/-- The marker that makes a member a hook: the first that it carries among the given ones. -/
def hookMarker? (framework : Framework) (hooks : List Marker) (member : Member) : Option Marker :=
  (framework.markersOf member.attributes).find? hooks.contains

/-- What is wrong with a hook.  `mayReturn` says whether its result is a resource that the pass
allows. -/
def hookFindings (framework : Framework) (marker : Marker) (mayReturn : Bool) (method : String)
    (signature : Signature) : List Finding :=
  let attributeName := framework.markerClassName marker
  (if signature.params.isEmpty then [] else [.takesParams attributeName method]) ++
    (if mayReturn || signature.returnsVoid then [] else [.returnsValue attributeName method])

def producerFindings (framework : Framework) (returnsResource : Bool) (member : Member) :
    List Finding :=
  let attributeName := framework.markerClassName .autoDispose
  (if member.access.isPrivate then [] else [.notPrivate attributeName member.name]) ++
    (if returnsResource then [] else [.notDisposable attributeName member.name])

/-- The accessibility that the first disposal marker of a member asks for; public by default. -/
def updaterAccess (framework : Framework) (member : Member) : Accessibility :=
  match (((member.attribute? framework.autoDispose).bind fun applied =>
      applied.argument? 0 "Accessibility").bind AttributeValue.memberName?) with
  | some name => .ofMemberName name
  | none => .publicAccess

/-- Whether a declared type is a resource that has to be released. -/
def isResource (framework : Framework) (table : SymbolTable) (type : DeclaredType) : Bool :=
  table.typeImplements type framework.disposable

end Framework

namespace TypeDecl

/-- The classification of a method of the class.  `hooks` are the markers that make a method a hook,
and `allowsResources` says whether hooks may return resources.  A method that carries none of these
markers and no disposal marker has no classification. -/
def classifyMethod? (decl : TypeDecl) (framework : Framework) (table : SymbolTable)
    (hooks : List Marker) (allowsResources : Bool) (member : Member) (signature : Signature) :
    Option Classification :=
  let hookMarker := framework.hookMarker? hooks member
  let isProducer := framework.carries member.attributes .autoDispose
  let returnsResource := framework.isResource table signature.returns
  if hookMarker.isNone && !isProducer then
    none
  else
    let hookFindings :=
      match hookMarker with
      | none => []
      | some marker =>
          framework.hookFindings marker (allowsResources && returnsResource) member.name signature
    let producerFindings :=
      if isProducer then framework.producerFindings returnsResource member else []
    some
      { method := member.name
        roles :=
          { isHook := hookMarker.isSome
            disposesOnExit :=
              returnsResource && (isProducer || hookMarker.isSome && allowsResources)
            isAutoDisposed := isProducer && returnsResource }
        params := signature.params
        updaterAccess := framework.updaterAccess member
        diagnostics := (hookFindings ++ producerFindings).map fun finding =>
          finding.report decl.name.simple decl.name.scopeText }

/-- The classification of a member of the class; only methods have one. -/
def classify? (decl : TypeDecl) (framework : Framework) (table : SymbolTable)
    (hooks : List Marker) (allowsResources : Bool) (member : Member) : Option Classification :=
  member.signature?.bind (decl.classifyMethod? framework table hooks allowsResources member)

end TypeDecl
end NodeLifecycle
