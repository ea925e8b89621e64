import NodeLifecycle.Diagnostic.Basic
import NodeLifecycle.Text.Sorting
import NodeLifecycle.Variant.Mapping

/-!
# Method tables

The methods of a class that the engine can call.  A declared method has an entry if its parameters
and its result can cross the boundary to the engine; generated overrides have synthetic entries.
Entries are sorted by name, and those of one name keep the order of their declarations, so a call is
dispatched to the first declaration that fits.
-/

namespace NodeLifecycle

/-- A parameter whose values can cross the boundary. -/
structure WireParameter where
  /-- The parameter's name. -/
  name : String
  /-- The declared type. -/
  type : DeclaredType
  /-- The kind of variant that carries the values. -/
  kind : VariantKind
deriving DecidableEq

/-- A method that the engine can call. -/
structure MethodEntry where
  /-- The method's name; overloads share it. -/
  name : String
  /-- Tells the overloads of a name apart: nothing for the first, then their numbers. -/
  suffix : String
  /-- The declared return type. -/
  returns : DeclaredType
  /-- The kind of variant that carries the result; none for `void`. -/
  returnKind : Option VariantKind
  /-- The parameters in order. -/
  params : List WireParameter
  /-- Whether the entry stands for a generated override. -/
  isSynthetic : Bool
deriving DecidableEq

namespace MethodEntry

/-- The entry of a generated override. -/
def synthetic (name : String) : MethodEntry where
  name := name
  suffix := ""
  returns := .void false
  returnKind := none
  params := []
  isSynthetic := true

/-- The name of the field that registers the entry. -/
def infoName (entry : MethodEntry) : String :=
  entry.name ++ entry.suffix

def arity (entry : MethodEntry) : Nat :=
  entry.params.length

def returnsVoid (entry : MethodEntry) : Bool :=
  entry.returns.isVoid

/-- Whether the entry takes calls of the given name with the given number of arguments. -/
def answers (name : String) (arity : Nat) (entry : MethodEntry) : Bool :=
  entry.name == name && entry.arity == arity

end MethodEntry

namespace Framework

/-- A parameter, if its values can cross the boundary. -/
def wireParameter? (framework : Framework) (table : SymbolTable) (parameter : Parameter) :
    Option WireParameter :=
  (framework.variantKind? table parameter.type).map fun kind =>
    { name := parameter.name, type := parameter.type, kind }

/-- Whether a method may have an entry at all: an ordinary method of the instance that the user has
declared, with plain parameters and result, and without the marker that leaves it out. -/
def isDispatchable (framework : Framework) (member : Member) (signature : Signature) : Bool :=
  !member.isStatic && !member.isImplicit && signature.kind == .ordinary &&
    !signature.returnsByRef &&
    signature.params.all (fun parameter => parameter.mode == .byValue) &&
    !framework.carries member.attributes .ignore

/-- How a result crosses the boundary: not at all for `void`, and otherwise as a variant.  There is
no answer for a result that cannot cross. -/
def resultKind? (framework : Framework) (table : SymbolTable) (type : DeclaredType) :
    Option (Option VariantKind) :=
  if type.isVoid then some none else (framework.variantKind? table type).map some

/-- The entry of a declared method with the given signature. -/
def entryOfMethod? (framework : Framework) (table : SymbolTable) (member : Member)
    (signature : Signature) : Option MethodEntry :=
  if framework.isDispatchable member signature then
    (framework.resultKind? table signature.returns).bind fun returnKind =>
      (signature.params.mapM (framework.wireParameter? table)).map fun params =>
        { name := member.name
          suffix := ""
          returns := signature.returns
          returnKind
          params
          isSynthetic := false }
  else
    none

/-- The entry of a member; only methods have one. -/
def entryFor? (framework : Framework) (table : SymbolTable) (member : Member) :
    Option MethodEntry :=
  member.signature?.bind (framework.entryOfMethod? table member)

end Framework

/-- The methods of a class that the engine can call. -/
structure MethodTable where
  /-- The class. -/
  type : QualifiedName
  /-- The nearest base class in the engine. -/
  engineParent : Option QualifiedName
  /-- The entries in the order in which calls are matched. -/
  entries : List MethodEntry
deriving DecidableEq

namespace MethodTable

/-! ## Construction -/

/-- Add the entry of a generated override, unless a method of that name without parameters is there
already. -/
def addOverride (entries : List MethodEntry) (name : String) : List MethodEntry :=
  if entries.any (MethodEntry.answers name 0) then entries else entries ++ [.synthetic name]

/-- The suffix of an entry, from the number of entries of its name before it. -/
def overloadSuffix (before : Nat) : String :=
  if before = 0 then "" else toString (before + 1)

/-- Number the overloads of each name, given the names that have come before. -/
def numberFrom (before : List String) : List MethodEntry → List MethodEntry
  | [] => []
  | entry :: rest =>
      { entry with suffix := overloadSuffix (before.count entry.name) } ::
        numberFrom (entry.name :: before) rest

/-- Entries by name, those of one name in the order in which they were. -/
def sortByName (entries : List MethodEntry) : List MethodEntry :=
  StableSort.sortBy (fun left right => IdentifierOrder.le left.name right.name) entries

/-- The entries for the members of a class and for the generated overrides with the given names. -/
def entriesOf (framework : Framework) (table : SymbolTable) (members : List Member)
    (overrides : List String) : List MethodEntry :=
  sortByName (numberFrom []
    (overrides.foldl addOverride (members.filterMap (framework.entryFor? table))))

/-- The table of a class for which overrides with the given names are generated. -/
def build (framework : Framework) (table : SymbolTable) (decl : TypeDecl)
    (overrides : List String) : MethodTable where
  type := decl.name
  engineParent :=
    (table.firstBaseIn? decl.name framework.names.engineAssembly
      framework.names.engineNamespace).map TypeDecl.name
  entries := entriesOf framework table decl.members overrides

/-! ## Queries -/

def isEmpty (methods : MethodTable) : Bool :=
  methods.entries.isEmpty

def size (methods : MethodTable) : Nat :=
  methods.entries.length

/-- The entries that stand for declared methods. -/
def declared (methods : MethodTable) : List MethodEntry :=
  methods.entries.filter fun entry => !entry.isSynthetic

def methodNames (methods : MethodTable) : List String :=
  IdentifierOrder.sort (methods.entries.map MethodEntry.name).eraseDups

/-- The entry that a call is dispatched to: the first of that name and number of parameters. -/
def dispatch? (methods : MethodTable) (name : String) (arity : Nat) : Option MethodEntry :=
  methods.entries.find? (MethodEntry.answers name arity)

/-- What is noted about a table: entries without a base class in the engine lead to nothing. -/
def notices (methods : MethodTable) : List Notice :=
  if methods.engineParent.isNone && !methods.isEmpty then [.noEngineBase methods.type] else []

end MethodTable
end NodeLifecycle
