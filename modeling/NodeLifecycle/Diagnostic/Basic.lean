import NodeLifecycle.Symbol.QualifiedName

/-!
# Diagnostics and notices

What the generator reports about a class.  A finding is the cause; it fixes the rule, the texts
and the member.  A diagnostic is a finding reported on a class: it is a record of texts, and two
diagnostics are equal when they read the same.  Two situations are not the fault of a single member
and break no rule, but are noted while a class is analyzed.  A notice names the class, and the
method where there is one.
-/

namespace NodeLifecycle

/-- How serious a diagnostic is. -/
inductive Severity where
  | error
  | warning
  | info
deriving DecidableEq, Hashable

def Severity.all : List Severity :=
  [error, warning, info]

def Severity.keyword : Severity → String
  | error => "error"
  | warning => "warning"
  | info => "info"

/-- The rules that a class can break. -/
inductive Rule where
  /-- A class with hooks can be continued elsewhere. -/
  | partialClass
  /-- A class leaves the overrides to the generator. -/
  | noOwnOverride
  /-- A hook takes no parameters. -/
  | noParams
  /-- A hook returns nothing, or a resource where the pass allows it. -/
  | noResult
  /-- An automatically disposed producer is private. -/
  | privateProducer
  /-- An automatically disposed producer returns a resource. -/
  | disposableResult
deriving DecidableEq, Hashable

namespace Rule

/-- Every rule, in the order of the codes. -/
def all : List Rule :=
  [partialClass, noOwnOverride, noParams, noResult, privateProducer, disposableResult]

/-- The code under which a rule is published. -/
def code : Rule → String
  | partialClass => "GH0001"
  | noOwnOverride => "GH0002"
  | noParams => "GH0003"
  | noResult => "GH0004"
  | privateProducer => "GH0005"
  | disposableResult => "GH0006"

end Rule

/-- A diagnostic as it is shown and compared. -/
structure Diagnostic where
  /-- How serious the diagnostic is. -/
  severity : Severity
  /-- The rule that is broken. -/
  rule : Rule
  /-- A summary of the rule. -/
  title : String
  /-- The whole message. -/
  message : String
  /-- The simple name of the class. -/
  typeName : String
  /-- The dotted namespace of the class; empty in the global namespace. -/
  namespaceText : String
  /-- The member that the diagnostic is about, if there is one. -/
  member : Option String
deriving DecidableEq, Hashable

/-- What the diagnostic is about: the class, or one of its members. -/
def Diagnostic.subject (diagnostic : Diagnostic) : String :=
  match diagnostic.member with
  | none => diagnostic.typeName
  | some member => diagnostic.typeName ++ "." ++ member

/-- The line that shows a diagnostic. -/
def Diagnostic.display (diagnostic : Diagnostic) : String :=
  diagnostic.subject ++ ": " ++ diagnostic.severity.keyword ++ " " ++ diagnostic.rule.code ++
    ": " ++ diagnostic.message

/-- Why something is reported. -/
inductive Finding where
  /-- The class cannot be continued elsewhere. -/
  | notPartial
  /-- The class declares the override that the attribute would generate. -/
  | ownOverride (override attributeName : String)
  /-- The method with the attribute takes parameters. -/
  | takesParams (attributeName method : String)
  /-- The method with the attribute returns something that it may not. -/
  | returnsValue (attributeName method : String)
  /-- The producer with the attribute is not private. -/
  | notPrivate (attributeName method : String)
  /-- The producer with the attribute does not return a resource. -/
  | notDisposable (attributeName method : String)
deriving DecidableEq

namespace Finding

def rule : Finding → Rule
  | notPartial => .partialClass
  | ownOverride .. => .noOwnOverride
  | takesParams .. => .noParams
  | returnsValue .. => .noResult
  | notPrivate .. => .privateProducer
  | notDisposable .. => .disposableResult

def member? : Finding → Option String
  | notPartial => none
  | ownOverride .. => none
  | takesParams _ method => some method
  | returnsValue _ method => some method
  | notPrivate _ method => some method
  | notDisposable _ method => some method

/-- The summary of the rule, with the attribute filled in. -/
def title : Finding → String
  | notPartial => "Node class with GodotHat attributes is not partial"
  | ownOverride .. => "Node class with GodotHat attributes already implements Godot override"
  | takesParams attributeName _ =>
      "Method with attribute [" ++ attributeName ++ "] must not take any parameters."
  | returnsValue attributeName _ =>
      "Method with attribute [" ++ attributeName ++ "] should return void."
  | notPrivate attributeName _ =>
      "Method with attribute [" ++ attributeName ++ "] should be private."
  | notDisposable attributeName _ =>
      "Method with attribute [" ++ attributeName ++ "] should return IDisposable."

/-- The message about the class with the given simple name. -/
def message (typeName : String) : Finding → String
  | notPartial =>
      typeName ++
        " class declaration should have partial modifier so source can be generated."
  | ownOverride override attributeName =>
      typeName ++ " class declaration should not have a " ++ override ++
        " function defined, so it can be generated instead. Use [" ++ attributeName ++
        "] attribute on an method instead, or remove the other [" ++ attributeName ++
        "] members."
  | takesParams _ method =>
      typeName ++ "." ++ method ++
        " method declaration should have an empty parameter list."
  | returnsValue _ method => typeName ++ "." ++ method ++ " should return void."
  | notPrivate _ method =>
      typeName ++ "." ++ method ++ " should be private. The generated Update" ++ method ++
        " method will be public"
  | notDisposable _ method =>
      typeName ++ "." ++ method ++ " should return IDisposable (or IDisposable?)."

/-- The finding reported on the class with the given simple name and dotted namespace.  Findings
are warnings: they never stop generation. -/
def report (finding : Finding) (typeName namespaceText : String) : Diagnostic where
  severity := .warning
  rule := finding.rule
  title := finding.title
  message := finding.message typeName
  typeName := typeName
  namespaceText := namespaceText
  member := finding.member?

end Finding

/-! ## Notices -/

/-- Something noted while a class is analyzed. -/
inductive Notice where
  /-- An overload of a producer has other parameters than the one whose resource is tracked. -/
  | sharedSlot (type : QualifiedName) (method : String)
  /-- The class has methods to dispatch but no base class in the engine. -/
  | noEngineBase (type : QualifiedName)
deriving DecidableEq

namespace Notice

def type : Notice → QualifiedName
  | sharedSlot type _ => type
  | noEngineBase type => type

/-- The method that the notice is about, if there is one. -/
def method? : Notice → Option String
  | sharedSlot _ method => some method
  | noEngineBase _ => none

def message : Notice → String
  | sharedSlot .. =>
      "overloaded producer shares a resource slot, only the first overload is tracked"
  | noEngineBase _ => "no engine base type, method table skipped"

end Notice
end NodeLifecycle
