import NodeLifecycle.Framework.Handles
import NodeLifecycle.Proofs.Symbol.Listing

/-!
# Resolved frameworks

A name resolves to its own fingerprint, so a framework that resolves in some table is determined by
its names alone and stays what it is among more types.  If it does not resolve, then the first name
that is missing is reported.  Whatever the names are, they resolve among the engine's types.  Tables
of these types and the types of a game, and a class of producers in it, serve as examples
elsewhere.
-/

namespace NodeLifecycle

/-- A name is the first of several names that is not registered. -/
def SymbolTable.FirstMissing (table : SymbolTable) (names : List QualifiedName)
    (missing : QualifiedName) : Prop :=
  ∃ before after, names = before ++ missing :: after ∧
    (∀ name ∈ before, name ∈ table.names) ∧ missing ∉ table.names

theorem SymbolTable.firstMissing_iff {table : SymbolTable} {names : List QualifiedName}
    {missing : QualifiedName} :
    table.FirstMissing names missing ↔
      names.find? (fun name => decide (name ∉ table.names)) = some missing := by
  simp only [FirstMissing, List.find?_eq_some_iff_append, decide_not, Bool.not_eq_true',
    decide_eq_false_iff_not, Bool.not_not, decide_eq_true_eq]
  constructor
  · rintro ⟨before, after, split, registered, absent⟩
    exact ⟨absent, before, after, split, registered⟩
  · rintro ⟨absent, before, after, split, registered⟩
    exact ⟨before, after, split, registered, absent⟩

theorem SymbolTable.exists_firstMissing_iff {table : SymbolTable} {names : List QualifiedName} :
    (∃ missing, table.FirstMissing names missing) ↔ ∃ name ∈ names, name ∉ table.names := by
  simp only [firstMissing_iff, ← Option.isSome_iff_exists, List.find?_isSome, decide_eq_true_eq]

namespace Framework

/-- The framework whose handles are the fingerprints of its names. -/
def ofNames (names : FrameworkNames) : Framework where
  names := names
  node := names.nodeClass.fingerprint
  object := names.objectClass.fingerprint
  tool := names.toolAttribute.fingerprint
  disposable := names.disposableInterface.fingerprint
  onEnterTree := names.onEnterTree.fingerprint
  onExitTree := names.onExitTree.fingerprint
  onReady := names.onReady.fingerprint
  autoDispose := names.autoDispose.fingerprint
  sceneUniqueName := names.sceneUniqueName.fingerprint
  ignore := names.ignore.fingerprint

/-- The fingerprints of the required names, in the order in which these are resolved. -/
def handles (framework : Framework) : List Fingerprint :=
  [framework.node, framework.object, framework.tool, framework.disposable,
    framework.onEnterTree, framework.onExitTree, framework.onReady, framework.autoDispose,
    framework.sceneUniqueName, framework.ignore]

private theorem resolve_bind {α : Type} (table : SymbolTable) (name : QualifiedName)
    (next : Fingerprint → Except ResolutionError α) :
    (table.resolve name).bind next =
      if name ∈ table.names then next name.fingerprint
      else .error (.missingType name.display) := by
  rw [SymbolTable.resolve_eq]
  split <;> rfl

private theorem foldr_registered {α : Type} (listed names : List QualifiedName) (result : α) :
    names.foldr (fun name (next : Except ResolutionError α) =>
        if name ∈ listed then next else .error (.missingType name.display)) (.ok result) =
      match names.find? fun name => decide (name ∉ listed) with
      | none => .ok result
      | some missing => .error (.missingType missing.display) := by
  induction names with
  | nil => rfl
  | cons name rest ih =>
      rw [List.foldr_cons, ih, List.find?_cons]
      by_cases registered : name ∈ listed <;> simp [registered]

/-- The first required name that is missing is the error.  If none is, then the framework does not
depend on the table. -/
theorem resolve_eq (table : SymbolTable) (names : FrameworkNames) :
    resolve table names =
      match names.required.find? fun name => decide (name ∉ table.names) with
      | none => .ok (ofNames names)
      | some missing => .error (.missingType missing.display) := by
  rw [← foldr_registered]
  simp only [resolve, bind, resolve_bind]
  rfl

theorem resolve_eq_ok_iff {table : SymbolTable} {names : FrameworkNames} {framework : Framework} :
    resolve table names = .ok framework ↔
      (∀ name ∈ names.required, name ∈ table.names) ∧ ofNames names = framework := by
  have registered : (∀ name ∈ names.required, name ∈ table.names) ↔
      names.required.find? (fun name => decide (name ∉ table.names)) = none := by
    simp only [List.find?_eq_none, decide_eq_true_eq, not_not]
  rw [registered, resolve_eq]
  cases names.required.find? fun name => decide (name ∉ table.names) <;> simp

theorem resolve_eq_error_iff {table : SymbolTable} {names : FrameworkNames}
    {error : ResolutionError} :
    resolve table names = .error error ↔
      ∃ missing, table.FirstMissing names.required missing ∧
        error = .missingType missing.display := by
  simp only [SymbolTable.firstMissing_iff, resolve_eq]
  cases names.required.find? fun name => decide (name ∉ table.names) <;> simp [eq_comm]

theorem resolve_eq_ok_of_subset {table larger : SymbolTable} {names : FrameworkNames}
    {framework : Framework} (resolved : resolve table names = .ok framework)
    (subset : table.names ⊆ larger.names) : resolve larger names = .ok framework := by
  obtain ⟨required, made⟩ := resolve_eq_ok_iff.mp resolved
  exact resolve_eq_ok_iff.mpr ⟨fun name wanted => subset (required name wanted), made⟩

theorem required_subset_engineTypes (names : FrameworkNames) :
    names.required ⊆ names.engineTypes.map TypeDecl.name := by
  simp [FrameworkNames.required, FrameworkNames.engineTypes, FrameworkNames.runtimeDecls,
    FrameworkNames.engineDecls, FrameworkNames.engineClasses, FrameworkNames.markerDecls,
    FrameworkNames.disposableClass, FrameworkNames.engineDecl, TypeDecl.referenced]

/-- A framework resolves among its engine's types, also when more types have been registered and
when some of its names agree. -/
theorem resolve_registerEach (names : FrameworkNames) (attempts : List TypeDecl) :
    resolve ((SymbolTable.ofEngineTypes names).registerEach attempts) names =
      .ok (ofNames names) := by
  refine resolve_eq_ok_iff.mpr ⟨fun name required => ?_, rfl⟩
  have listed := SymbolTable.names_registerEach_initial (some names) attempts
  rw [SymbolTable.initial, SymbolTable.seeds, List.map_append] at listed
  rw [listed, List.mem_eraseDups]
  exact List.mem_append_left _ (required_subset_engineTypes names required)

theorem resolve_ofEngineTypes_standard :
    resolve (.ofEngineTypes .standard) .standard = .ok (ofNames .standard) := by
  have resolved := resolve_registerEach .standard []
  rwa [SymbolTable.registerEach, List.foldl_nil] at resolved

end Framework

theorem SymbolTable.not_mem_names_ofEngineTypes {name : QualifiedName}
    (user : name.scope.head? = some "Game") : name ∉ (ofEngineTypes .standard).names := by
  have apart : ∀ known ∈ (ofEngineTypes .standard).names, known.scope.head? ≠ some "Game" := by
    decide +kernel
  exact fun listed => apart name listed user

/-- The engine's types, followed by the types of a game. -/
def SymbolTable.game (types : List TypeDecl) (distinct : (types.map TypeDecl.name).Nodup)
    (user : ∀ decl ∈ types, decl.name.scope.head? = some "Game") : SymbolTable :=
  (ofEngineTypes .standard).insertAll types distinct fun decl listed =>
    not_mem_names_ofEngineTypes (user decl listed)

section Game

variable {types : List TypeDecl} {distinct : (types.map TypeDecl.name).Nodup}
  {user : ∀ decl ∈ types, decl.name.scope.head? = some "Game"}

theorem SymbolTable.decls_game :
    (game types distinct user).decls = (ofEngineTypes .standard).decls ++ types :=
  decls_insertAll _ _ _ _

theorem SymbolTable.names_game :
    (game types distinct user).names =
      (ofEngineTypes .standard).names ++ types.map TypeDecl.name := by
  rw [← map_name_decls, ← map_name_decls, decls_game, List.map_append]

theorem Framework.resolve_game :
    resolve (.game types distinct user) .standard = .ok (ofNames .standard) := by
  apply resolve_eq_ok_of_subset resolve_ofEngineTypes_standard
  rw [SymbolTable.names_game]
  exact List.subset_append_left _ _

theorem SymbolTable.sourceClasses_game :
    (game types distinct user).sourceClasses =
      types.filter fun decl => decl.origin == .source && decl.isClass := by
  have engine : (ofEngineTypes .standard).decls.filter
      (fun decl => decl.origin == .source && decl.isClass) = [] := by
    decide +kernel
  rw [sourceClasses, decls_game, List.filter_append, engine, List.nil_append]

end Game

/-- A private method `Make` that returns a resource and carries the given markers. -/
def Member.make (markers : List Marker) (params : List Parameter) : Member where
  name := "Make"
  access := .privateAccess
  isStatic := false
  isImplicit := false
  attributes := markers.map fun marker => ⟨FrameworkNames.standard.markerClass marker, [], []⟩
  shape := .method
    { returns := .named FrameworkNames.standard.disposableInterface false
      params
      kind := .ordinary
      returnsByRef := false }

/-- A node class with the given members. -/
def TypeDecl.player (members : List Member) : TypeDecl where
  name := ⟨"Player", ["Game"]⟩
  kind := .classType
  origin := .source
  assembly := "Game"
  base := some FrameworkNames.standard.nodeClass
  interfaces := []
  attributes := []
  modifiers := [.access .publicAccess, .partialType]
  members := members

end NodeLifecycle
