import NodeLifecycle.ClassAnalysis
import NodeLifecycle.Source.Lifecycle
import NodeLifecycle.Source.ScriptMethods

/-!
# Generation

A run resolves the framework, picks the candidate classes of a symbol table, and puts the units and
diagnostics of each together in registration order.  It fails if a required name is missing, or if
it was cancelled and there is a class to process; problems in the classes themselves are never
errors.
-/

namespace NodeLifecycle

/-- What a run is to do. -/
structure GenerationConfig where
  /-- The names of the framework. -/
  names : FrameworkNames
  /-- The namespace with which units are signed. -/
  generatorNamespace : String
  /-- The units that are wanted. -/
  selection : UnitSelection
  /-- Whether method tables are made. -/
  marshalling : Bool
deriving DecidableEq

namespace GenerationConfig

/-- The namespace with which units are usually signed. -/
def standardNamespace : String := "GodotHat.SourceGenerators"

/-- All units, under the usual names. -/
def standard : GenerationConfig where
  names := .standard
  generatorNamespace := standardNamespace
  selection := .all
  marshalling := true

/-- Whether method tables are made and registered. -/
def emitsScriptMethods (config : GenerationConfig) : Bool :=
  config.marshalling && config.selection.scriptMethods

end GenerationConfig

/-- Why a run has no output. -/
inductive GenerationError where
  /-- A required name does not resolve. -/
  | unresolved (error : ResolutionError)
  /-- The host has given up the run. -/
  | cancelled
deriving DecidableEq

def GenerationError.message : GenerationError → String
  | unresolved error => error.message
  | cancelled => "generation cancelled"

/-- The output of a run, or the share of one class in it. -/
structure GenerationOutput where
  /-- The units, those of one class next to each other and its lifecycle units first. -/
  sources : List SourceUnit
  /-- What there is to report, each diagnostic once. -/
  diagnostics : Report

namespace GenerationOutput

def empty : GenerationOutput where
  sources := []
  diagnostics := .empty

/-- Add the output for one class. -/
def append (output classOutput : GenerationOutput) : GenerationOutput where
  sources := output.sources ++ classOutput.sources
  diagnostics := output.diagnostics.extend classOutput.diagnostics.items

def hints (output : GenerationOutput) : List String :=
  output.sources.map SourceUnit.hint

/-- The first unit that is filed under the given name. -/
def source? (output : GenerationOutput) (hint : String) : Option SourceUnit :=
  output.sources.find? fun source => source.hint == hint

end GenerationOutput

namespace GenerationConfig

/-- The wanted lifecycle units of a class. -/
def lifecycleUnits (config : GenerationConfig) (analysis : ClassAnalysis) : List SourceUnit :=
  config.selection.passes.filterMap fun pass =>
    SourceUnit.ofModel? config.generatorNamespace (analysis.model pass)

/-- The unit that registers the methods of a class, if it is wanted. -/
def scriptMethodsUnit? (config : GenerationConfig) (analysis : ClassAnalysis) :
    Option SourceUnit :=
  if config.selection.scriptMethods then
    analysis.methodTable.bind
      (SourceUnit.ofMethodTable? config.generatorNamespace analysis.ready.descriptor)
  else
    none

/-- The output for one class.  Passes that are not wanted report nothing. -/
def render (config : GenerationConfig) (analysis : ClassAnalysis) : GenerationOutput where
  sources := config.lifecycleUnits analysis ++ (config.scriptMethodsUnit? analysis).toList
  diagnostics :=
    .ofList (config.selection.passes.flatMap fun pass => (analysis.model pass).diagnostics)

/-- The output for one class of a table. -/
def process (config : GenerationConfig) (framework : Framework) (table : SymbolTable)
    (decl : TypeDecl) : GenerationOutput :=
  config.render (decl.analyze framework table config.emitsScriptMethods)

/-- The output for one class, unless the host has given up the run before it. -/
def attempt (config : GenerationConfig) (framework : Framework) (table : SymbolTable)
    (cancelled : Bool) (decl : TypeDecl) : Except GenerationError GenerationOutput :=
  if cancelled then .error .cancelled else .ok (config.process framework table decl)

end GenerationConfig

def SymbolTable.candidates (table : SymbolTable) (framework : Framework) : List TypeDecl :=
  table.sourceClasses.filter fun decl => decl.isCandidate framework table

/-- Run the generator on a table.  `cancelled` says whether the host has given up the run before its
first class. -/
def generate (config : GenerationConfig) (table : SymbolTable) (cancelled : Bool) :
    Except GenerationError GenerationOutput := do
  let framework ← (Framework.resolve table config.names).mapError .unresolved
  let outputs ← (table.candidates framework).mapM (config.attempt framework table cancelled)
  return outputs.foldl .append .empty

namespace GenerationConfig

variable (config : GenerationConfig) (framework : Framework) (table : SymbolTable)

theorem mapM_attempt_false (decls : List TypeDecl) :
    decls.mapM (config.attempt framework table false) =
      .ok (decls.map (config.process framework table)) :=
  List.mapM_pure

theorem mapM_attempt_true (decls : List TypeDecl) :
    decls.mapM (config.attempt framework table true) =
      if decls.isEmpty then .ok [] else .error .cancelled := by
  cases decls with
  | nil => rfl
  | cons decl rest =>
      rw [List.mapM_cons]
      rfl

end GenerationConfig

/-- A run fails at the first missing name, or at its first class if it was given up.  Otherwise it
puts the outputs of all candidates together. -/
theorem generate_eq (config : GenerationConfig) (table : SymbolTable) (cancelled : Bool) :
    generate config table cancelled =
      match Framework.resolve table config.names with
      | .error error => .error (.unresolved error)
      | .ok framework =>
          if cancelled && !(table.candidates framework).isEmpty then
            .error .cancelled
          else
            .ok
              (((table.candidates framework).map (config.process framework table)).foldl
                GenerationOutput.append .empty) := by
  rw [generate]
  cases Framework.resolve table config.names with
  | error error => rfl
  | ok framework =>
      dsimp only [Except.mapError, bind, Except.bind]
      generalize table.candidates framework = decls
      cases cancelled with
      | false => rw [config.mapM_attempt_false]; rfl
      | true => rw [config.mapM_attempt_true]; cases decls <;> rfl

end NodeLifecycle
