/-!
# Hook calls

Every generated member is named after the member that it serves, so the same class always gets the
same names.  A generated override makes calls, in order; only what a call does to the resources of
the class tells the kinds apart.
-/

namespace NodeLifecycle

/-! ## Names of generated members -/

namespace GeneratedName

/-- The method that releases every resource of a class. -/
def disposeAll : String := "__DisposeOnExitTree"

/-- The field that holds the resource of a producer. -/
def slot (method : String) : String :=
  "__disposable_" ++ method

/-- The method that releases the resource of a producer.  For automatically disposed producers it
is part of the class's interface. -/
def reset (method : String) (auto : Bool) : String :=
  (if auto then "Dispose" else "__Dispose_") ++ method

/-- The method that replaces the resource of a producer. -/
def updater (method : String) : String :=
  "Update" ++ method

/-- The method that fills a member from the scene. -/
def sceneInit (member : String) : String :=
  "__InitFromScene_" ++ member

/-- The method that holds the hook calls of a class that also runs inside the editor. -/
def guardedBody (overrideName : String) : String :=
  "_" ++ overrideName ++ "Internal"

end GeneratedName

/-! ## Calls -/

/-- One call in a generated override. -/
inductive HookCall where
  /-- Fill a member from the scene. -/
  | initFromScene (member : String)
  /-- Call a method and ignore its result. -/
  | invoke (method : String)
  /-- Call a method and keep the resource that it returns. -/
  | acquire (method : String)
  /-- Release the resource of a method and get a new one. -/
  | update (method : String)
  /-- Release all resources of the class. -/
  | disposeAll
deriving DecidableEq

namespace HookCall

/-- The method whose resource the call creates. -/
def producer? : HookCall → Option String
  | acquire method => some method
  | update method => some method
  | _ => none

/-- The call as a statement, without the semicolon. -/
def statement : HookCall → String
  | initFromScene member => GeneratedName.sceneInit member ++ "()"
  | invoke method => method ++ "()"
  | acquire method => GeneratedName.slot method ++ " = " ++ method ++ "()"
  | update method => GeneratedName.updater method ++ "()"
  | disposeAll => GeneratedName.disposeAll ++ "()"

end HookCall
end NodeLifecycle
