import NodeLifecycle.Symbol.Attribute
import NodeLifecycle.Symbol.DeclaredType

/-!
# Members

A member of a class is a method, a field or a property.  A method has a signature; a field or a
property has the type of its value.  There are four levels at which a member can be declared; an
attribute names a level by the member of an enumeration, and an unknown name means public.
-/

namespace NodeLifecycle

/-! ## Accessibility levels -/

/-- Who may use a member. -/
inductive Accessibility where
  | publicAccess
  | protectedAccess
  | internalAccess
  | privateAccess
deriving DecidableEq

namespace Accessibility

def all : List Accessibility :=
  [publicAccess, protectedAccess, internalAccess, privateAccess]

def keyword : Accessibility → String
  | publicAccess => "public"
  | protectedAccess => "protected"
  | internalAccess => "internal"
  | privateAccess => "private"

/-- The level that a member of the accessibility enumeration names. -/
def ofMemberName (name : String) : Accessibility :=
  if name = "Internal" then internalAccess
  else if name = "Private" then privateAccess
  else if name = "Protected" then protectedAccess
  else publicAccess

def isPrivate (level : Accessibility) : Bool :=
  level == privateAccess

end Accessibility

/-! ## Parameters -/

/-- How an argument reaches a parameter. -/
inductive PassingMode where
  | byValue
  | byRef
  | byOut
  | byIn
deriving DecidableEq

/-- The keyword of a passing mode with the blank after it; nothing for a plain value. -/
def PassingMode.keyword : PassingMode → String
  | byValue => ""
  | byRef => "ref "
  | byOut => "out "
  | byIn => "in "

structure Parameter where
  /-- The parameter's name. -/
  name : String
  /-- The declared type. -/
  type : DeclaredType
  /-- How the argument is passed. -/
  mode : PassingMode
deriving DecidableEq

/-- The parameter as it is written in a parameter list. -/
def Parameter.declaration (parameter : Parameter) : String :=
  parameter.mode.keyword ++ parameter.type.minimal ++ " " ++ parameter.name

inductive MethodKind where
  | ordinary
  | constructor
  | operator
  | accessor
deriving DecidableEq

namespace MethodKind

def all : List MethodKind :=
  [ordinary, constructor, operator, accessor]

def keyword : MethodKind → String
  | ordinary => "ordinary"
  | constructor => "constructor"
  | operator => "operator"
  | accessor => "accessor"

end MethodKind

/-- What a method takes and returns. -/
structure Signature where
  /-- The declared return type. -/
  returns : DeclaredType
  /-- The parameters in order. -/
  params : List Parameter
  /-- The kind of method. -/
  kind : MethodKind
  /-- Whether the method returns a reference to its result. -/
  returnsByRef : Bool
deriving DecidableEq

namespace Signature

def returnsVoid (signature : Signature) : Bool :=
  signature.returns.isVoid

def arity (signature : Signature) : Nat :=
  signature.params.length

end Signature

/-- What a member is. -/
inductive MemberShape where
  | method (signature : Signature)
  | field (type : DeclaredType)
  | property (type : DeclaredType)
deriving DecidableEq

def MemberShape.keyword : MemberShape → String
  | method _ => "method"
  | field _ => "field"
  | property _ => "property"

/-- A declared member of a class. -/
structure Member where
  /-- The member's name; overloads share it. -/
  name : String
  /-- Who may use the member. -/
  access : Accessibility
  /-- Whether the member belongs to the class and not to its instances. -/
  isStatic : Bool
  /-- Whether the member was declared by the host and not by the user. -/
  isImplicit : Bool
  /-- The attributes in order. -/
  attributes : List Attribute
  /-- What the member is. -/
  shape : MemberShape
deriving DecidableEq

namespace Member

def signature? (member : Member) : Option Signature :=
  match member.shape with
  | .method signature => some signature
  | _ => none

/-- The type of the value of a field or property. -/
def valueType? (member : Member) : Option DeclaredType :=
  match member.shape with
  | .method _ => none
  | .field type => some type
  | .property type => some type

def isMethod (member : Member) : Bool :=
  member.signature?.isSome

/-- The first attribute whose class has the given handle. -/
def attribute? (member : Member) (handle : Fingerprint) : Option Attribute :=
  member.attributes.find? fun applied => applied.fingerprint == handle

end Member
end NodeLifecycle
