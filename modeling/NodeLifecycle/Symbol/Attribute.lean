import NodeLifecycle.Symbol.QualifiedName

/-!
# Attributes

An attribute is an application of an attribute class to a type or a member, with positional and
named constant arguments.  An argument is looked up by name first; a named `null` does not count.
-/

namespace NodeLifecycle

/-- A constant argument of an attribute. -/
inductive AttributeValue where
  | null
  | bool (value : Bool)
  | int (value : Int)
  | text (value : String)
  /-- A constant of an enumeration. -/
  | enumMember (enumeration : QualifiedName) (member : String)
deriving DecidableEq

namespace AttributeValue

def isNull : AttributeValue → Bool
  | null => true
  | _ => false

def bool? : AttributeValue → Option Bool
  | bool value => some value
  | _ => none

def text? : AttributeValue → Option String
  | text value => some value
  | _ => none

/-- The member's name, if the value is a constant of an enumeration. -/
def memberName? : AttributeValue → Option String
  | enumMember _ member => some member
  | _ => none

end AttributeValue

/-- One application of an attribute class. -/
structure Attribute where
  /-- The attribute class. -/
  type : QualifiedName
  /-- The constructor arguments in order. -/
  positional : List AttributeValue
  /-- The named arguments in order. -/
  named : List (String × AttributeValue)
deriving DecidableEq

namespace Attribute

def fingerprint (applied : Attribute) : Fingerprint :=
  applied.type.fingerprint

/-- Whether two names differ at most in the case of ASCII letters. -/
def sameUpToCase (left right : String) : Bool :=
  left.toList.map Char.toLower == right.toList.map Char.toLower

/-- The first non-null argument with the given name, or else the argument at the given position.
The case of ASCII letters does not matter, so a parameter and a property of one name are found
alike. -/
def argument? (applied : Attribute) (position : Nat) (name : String) : Option AttributeValue :=
  ((applied.named.find? fun argument =>
      sameUpToCase argument.1 name && !argument.2.isNull).map Prod.snd).or
    applied.positional[position]?

end Attribute
end NodeLifecycle
