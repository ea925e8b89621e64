import NodeLifecycle.Symbol.Member

/-!
# Type declarations

What the host knows about one named type: its kind, where it comes from, its place in the
hierarchy, its modifiers and its members.
-/

namespace NodeLifecycle

/-- The kinds of named type. -/
inductive TypeKind where
  | classType
  | structType
  | enumType
  | interfaceType
deriving DecidableEq

def TypeKind.all : List TypeKind :=
  [classType, structType, enumType, interfaceType]

def TypeKind.keyword : TypeKind → String
  | classType => "class"
  | structType => "struct"
  | enumType => "enum"
  | interfaceType => "interface"

/-- Where a type comes from. -/
inductive TypeOrigin where
  /-- Declared in the compilation itself. -/
  | source
  /-- Loaded from a referenced assembly. -/
  | metadata
deriving DecidableEq

def TypeOrigin.all : List TypeOrigin :=
  [source, metadata]

def TypeOrigin.keyword : TypeOrigin → String
  | source => "source"
  | metadata => "metadata"

inductive TypeModifier where
  /-- An accessibility level. -/
  | access (level : Accessibility)
  /-- The declaration may be continued elsewhere. -/
  | partialType
  | sealedType
  | abstractType
  | staticType
deriving DecidableEq

def TypeModifier.all : List TypeModifier :=
  Accessibility.all.map access ++ [partialType, sealedType, abstractType, staticType]

def TypeModifier.keyword : TypeModifier → String
  | access level => level.keyword
  | partialType => "partial"
  | sealedType => "sealed"
  | abstractType => "abstract"
  | staticType => "static"

/-- What the host knows about one named type. -/
structure TypeDecl where
  /-- The type's name. -/
  name : QualifiedName
  /-- The kind of type. -/
  kind : TypeKind
  /-- Where the type comes from. -/
  origin : TypeOrigin
  /-- The assembly that holds the type. -/
  assembly : String
  /-- The base class; absent at the root of a hierarchy. -/
  base : Option QualifiedName
  /-- The interfaces that are listed on the declaration. -/
  interfaces : List QualifiedName
  /-- The attributes in order. -/
  attributes : List Attribute
  /-- The modifiers in order. -/
  modifiers : List TypeModifier
  /-- The members in order. -/
  members : List Member
deriving DecidableEq

namespace TypeDecl

/-- A type of a referenced assembly with no base, interfaces or contents. -/
def referenced (name : QualifiedName) (kind : TypeKind) (assembly : String) : TypeDecl where
  name := name
  kind := kind
  origin := .metadata
  assembly := assembly
  base := none
  interfaces := []
  attributes := []
  modifiers := []
  members := []

def fingerprint (decl : TypeDecl) : Fingerprint :=
  decl.name.fingerprint

def isClass (decl : TypeDecl) : Bool :=
  decl.kind == .classType

def hasModifier (decl : TypeDecl) (modifier : TypeModifier) : Bool :=
  decl.modifiers.contains modifier

/-- Whether the declaration may be continued elsewhere. -/
def isPartial (decl : TypeDecl) : Bool :=
  decl.hasModifier .partialType

/-- The modifiers as they are written on the declaration. -/
def modifiersText (decl : TypeDecl) : String :=
  " ".intercalate (decl.modifiers.map TypeModifier.keyword)

def membersNamed (decl : TypeDecl) (name : String) : List Member :=
  decl.members.filter fun member => member.name == name

/-- Whether some member, of any kind, has the given name. -/
def hasMember (decl : TypeDecl) (name : String) : Bool :=
  decl.members.any fun member => member.name == name

/-- Whether the type carries an attribute whose class has the given handle. -/
def hasAttribute (decl : TypeDecl) (handle : Fingerprint) : Bool :=
  decl.attributes.any fun applied => applied.fingerprint == handle

/-- Whether the type lives in the given assembly, directly in the given dotted namespace. -/
def livesIn (decl : TypeDecl) (assembly namespaceText : String) : Bool :=
  decl.assembly == assembly && decl.name.livesIn namespaceText

end TypeDecl
end NodeLifecycle
