import NodeLifecycle.Framework.Handles
import NodeLifecycle.Lifecycle.HookCall

/-!
# Scene injections

Fields and properties with the scene marker are filled from a node of the scene when the node enters
the tree.  The first such attribute says which node, and whether it has to be there.
-/

namespace NodeLifecycle

/-- A field or property that is filled from the scene. -/
structure SceneInjection where
  /-- The member that is filled. -/
  member : String
  /-- The declared type of the member. -/
  type : DeclaredType
  /-- The path of the node. -/
  path : String
  /-- Whether a missing node is an error. -/
  isRequired : Bool
deriving DecidableEq

namespace SceneInjection

/-- The generated method that fills the member. -/
def initName (injection : SceneInjection) : String :=
  GeneratedName.sceneInit injection.member

/-- The engine's look-up of the node. -/
def lookupName (injection : SceneInjection) : String :=
  if injection.isRequired then "GetNode" else "GetNodeOrNull"

/-- The path that an attribute gives to a member: its own path, if that is a text with at least one
character, or else the member's name as a unique name of the scene. -/
def pathOf (applied : Attribute) (memberName : String) : String :=
  match (applied.argument? 0 "nodePath").bind AttributeValue.text? with
  | some path => if path.isEmpty then "%" ++ memberName else path
  | none => "%" ++ memberName

/-- Whether an attribute requires the node: as it says itself, or else unless the member may be
null. -/
def requiredBy (applied : Attribute) (type : DeclaredType) : Bool :=
  ((applied.argument? 1 "required").bind AttributeValue.bool?).getD (!type.isNullable)

/-- The injection that the framework's markers ask for on a member. -/
def ofMember? (framework : Framework) (member : Member) : Option SceneInjection := do
  let type ← member.valueType?
  let applied ← member.attribute? framework.sceneUniqueName
  return {
    member := member.name
    type
    path := pathOf applied member.name
    isRequired := requiredBy applied type }

end SceneInjection

/-- The injections of a class in the order of its members. -/
def TypeDecl.sceneInjections (decl : TypeDecl) (framework : Framework) : List SceneInjection :=
  decl.members.filterMap (SceneInjection.ofMember? framework)

end NodeLifecycle
