import NodeLifecycle.Proofs.Generation.Hints
import NodeLifecycle.Proofs.Symbol.BaseChains

/-!
# Parents in the engine

A class is a candidate if the handle of the node class comes up on its base chain, while its parent
in the engine is looked for by assembly and namespace.  The two fit together: the node class is one
of the types that a compilation starts from, no registration takes its place, and if no two types
share a handle, then its handle stands for it alone.  So every candidate has a parent in the engine,
and a method table never goes without a unit for want of one.
-/

namespace NodeLifecycle

/-! ## Registered node classes -/

/-- The node class and the place of the engine's types have the usual names; the others are free. -/
structure FrameworkNames.HasUsualEngine (names : FrameworkNames) : Prop where
  /-- The node class has its usual name. -/
  nodeClass : names.nodeClass = standard.nodeClass
  /-- The engine's types are in the usual assembly. -/
  engineAssembly : names.engineAssembly = standard.engineAssembly
  /-- The engine's types are in the usual namespace. -/
  engineNamespace : names.engineNamespace = standard.engineNamespace

namespace SymbolTable

variable {table : SymbolTable} {names : FrameworkNames}

theorem mem_decls_registerEach {decl : TypeDecl} (listed : decl ∈ table.decls)
    (attempts : List TypeDecl) : decl ∈ (table.registerEach attempts).decls := by
  induction attempts generalizing table with
  | nil => exact listed
  | cons attempt rest induction =>
      have kept : decl ∈ (table.registerType attempt).2.decls := by
        rw [decls_registerType, Listing.add]
        split
        · exact listed
        · exact List.mem_append_left _ listed
      exact induction kept

/-- The node class is registered where the engine's types are. -/
def HasNodeClass (table : SymbolTable) (names : FrameworkNames) : Prop :=
  ∃ node ∈ table.decls, node.name = names.nodeClass ∧
    node.livesIn names.engineAssembly names.engineNamespace = true

/-- The usual node class is there from the start, and it stays. -/
theorem hasNodeClass_registerEach (usual : names.HasUsualEngine) (attempts : List TypeDecl) :
    ((ofEngineTypes .standard).registerEach attempts).HasNodeClass names := by
  have seeded : (ofEngineTypes .standard).HasNodeClass .standard := by
    rw [HasNodeClass]
    decide +kernel
  obtain ⟨node, listed, named, placed⟩ := seeded
  refine ⟨node, mem_decls_registerEach listed attempts, ?_, ?_⟩
  · rw [usual.nodeClass, named]
  · rw [usual.engineAssembly, usual.engineNamespace, placed]

/-- The nearest ancestor in the engine, and how far away it is. -/
structure IsEngineParent (table : SymbolTable) (names : FrameworkNames) (name : QualifiedName)
    (distance : Nat) (parent : TypeDecl) : Prop where
  /-- The parent is reached from the name. -/
  reached : table.AncestorAt name distance parent
  /-- The parent is a type of the engine. -/
  engine : parent.livesIn names.engineAssembly names.engineNamespace = true
  /-- No nearer ancestor is a type of the engine. -/
  nearest : ∀ nearer < distance, ∀ other, table.AncestorAt name nearer other →
    other.livesIn names.engineAssembly names.engineNamespace = false

/-- A candidate descends from the node class, so there is a type of the engine among its ancestors,
and the nearest one is found. -/
theorem exists_isEngineParent (distinct : table.DistinctHandles)
    (registered : table.HasNodeClass names) {decl : TypeDecl}
    (candidate : decl.isCandidate (.ofNames names) table = true) :
    ∃ distance parent, table.IsEngineParent names decl.name distance parent ∧
      table.firstBaseIn? decl.name names.engineAssembly names.engineNamespace = some parent := by
  rw [TypeDecl.isCandidate, Bool.and_eq_true, extendsClass_iff distinct] at candidate
  obtain ⟨-, far, ancestor, reached, same⟩ := candidate
  obtain ⟨node, listed, named, placed⟩ := registered
  have handle : node.fingerprint = ancestor.fingerprint := by
    rw [same, TypeDecl.fingerprint, named]
    rfl
  obtain rfl := distinct.eq_of_fingerprint_eq listed reached.mem_decls handle
  cases found : table.firstBaseIn? decl.name names.engineAssembly names.engineNamespace with
  | none =>
      rw [(find?_baseChain_eq_none_iff distinct).mp found far node reached] at placed
      cases placed
  | some parent =>
      obtain ⟨distance, parent_reached, engine, nearest⟩ := exists_nearest_of_find?_baseChain found
      exact ⟨distance, parent, ⟨parent_reached, engine, nearest⟩, rfl⟩

end SymbolTable

/-! ## Notices -/

/-- What the analyses of a run note, in the order of the candidates.  A run that is given up notes a
part of this, and a run whose framework does not resolve notes nothing. -/
def GenerationConfig.notices (config : GenerationConfig) (table : SymbolTable) : List Notice :=
  match Framework.resolve table config.names with
  | .error _ => []
  | .ok framework =>
      (table.candidates framework).flatMap fun decl =>
        (decl.analyze framework table config.emitsScriptMethods).notices

theorem TypeDecl.firstBaseIn?_eq_none_of_mem_notices {decl : TypeDecl} {framework : Framework}
    {table : SymbolTable} {marshalling : Bool} {type : QualifiedName}
    (noted : .noEngineBase type ∈ (decl.analyze framework table marshalling).notices) :
    table.firstBaseIn? decl.name framework.names.engineAssembly framework.names.engineNamespace =
      none := by
  obtain shared | missing := List.mem_append.mp noted
  · obtain ⟨classification, -, other⟩ := List.mem_map.mp shared
    cases other
  · rw [methodTable?] at missing
    split at missing
    · change _ ∈ MethodTable.notices _ at missing
      rw [MethodTable.notices] at missing
      split at missing
      · rename_i unused
        rw [Bool.and_eq_true, Option.isNone_iff_eq_none] at unused
        exact Option.map_eq_none_iff.mp unused.1
      · cases missing
    · cases missing

/-! ## Units -/

theorem SourceUnit.isSome_ofMethodTable?_iff {generatorNamespace : String}
    {descriptor : ClassDescriptor} {methods : MethodTable} :
    (ofMethodTable? generatorNamespace descriptor methods).isSome = true ↔
      methods.entries ≠ [] ∧ descriptor.isPartial = true ∧ methods.engineParent.isSome = true := by
  rw [ofMethodTable?]
  split
  · rename_i unfit
    rw [Bool.or_eq_true, Bool.not_eq_true', MethodTable.isEmpty, List.isEmpty_iff] at unfit
    refine iff_of_false Bool.false_ne_true ?_
    rintro ⟨inhabited, continued, -⟩
    exact unfit.elim inhabited fun closed => Bool.false_ne_true (closed.symm.trans continued)
  · rename_i fit
    rw [Bool.or_eq_true, Bool.not_eq_true', not_or, MethodTable.isEmpty, List.isEmpty_iff,
      Bool.not_eq_false] at fit
    rw [Option.isSome_map, and_iff_right fit.1, and_iff_right fit.2]

namespace GenerationConfig

variable {config : GenerationConfig} {framework : Framework} {table : SymbolTable}
  {decl : TypeDecl}

/-- The unit that registers methods is made if it is wanted, if the class can be continued, if there
are methods to register, and if the class has a parent in the engine. -/
theorem isSome_scriptMethodsUnit?_iff :
    (config.scriptMethodsUnit?
        (decl.analyze framework table config.emitsScriptMethods)).isSome = true ↔
      config.emitsScriptMethods = true ∧ decl.isPartial = true ∧
        (MethodTable.build framework table decl
          (decl.generatedOverrides framework table)).entries ≠ [] ∧
        (table.firstBaseIn? decl.name framework.names.engineAssembly
          framework.names.engineNamespace).isSome = true := by
  have tabled : (decl.analyze framework table config.emitsScriptMethods).methodTable =
      if config.emitsScriptMethods && decl.isPartial then
        some (.build framework table decl (decl.generatedOverrides framework table))
      else
        none := rfl
  rw [scriptMethodsUnit?, tabled, ← and_assoc, ← Bool.and_eq_true]
  by_cases made : (config.emitsScriptMethods && decl.isPartial) = true
  · obtain ⟨emitted, continued⟩ := Bool.and_eq_true_iff.mp made
    have wanted : config.selection.scriptMethods = true := (Bool.and_eq_true_iff.mp emitted).2
    rw [if_pos wanted, if_pos made, Option.bind_some, SourceUnit.isSome_ofMethodTable?_iff,
      MethodTable.build, Option.isSome_map, and_iff_right made]
    exact and_congr_right fun _ => and_iff_right continued
  · rw [if_neg made, Option.bind_none, ite_self]
    exact iff_of_false Bool.false_ne_true fun fit => made fit.1

theorem scriptMethods_mem_hints_process_iff :
    SourceUnit.hintName decl.name scriptMethodsShortName ∈
        (config.process framework table decl).hints ↔
      (config.scriptMethodsUnit?
        (decl.analyze framework table config.emitsScriptMethods)).isSome = true := by
  rw [GenerationOutput.hints, process, render, List.map_append, List.mem_append]
  constructor
  · rintro (lifecycle | registered)
    · obtain ⟨shortName, listed, same⟩ := List.mem_map.mp
        ((config.hints_lifecycleUnits_sublist framework table decl).subset lifecycle)
      obtain ⟨-, rfl⟩ := SourceUnit.display_eq_of_hintName_eq
        (List.mem_append_left _ listed) (by decide) same
      exact absurd listed (by decide)
    · obtain ⟨unit, made, -⟩ := List.mem_map.mp registered
      rw [Option.mem_toList.mp made]
      rfl
  · intro made
    obtain ⟨unit, found⟩ := Option.isSome_iff_exists.mp made
    have filed := (config.hints_scriptMethodsUnit?_sublist framework table decl).subset
    rw [found, Option.toList_some, List.map_singleton] at filed ⊢
    exact Or.inr (List.mem_singleton.mp (filed (List.mem_singleton_self _)) ▸
      List.mem_singleton_self _)

/-- If no two types share a handle, then the unit that is filed under the name of a unit of a
candidate comes from this candidate. -/
theorem mem_hints_gather_iff (distinct : table.DistinctHandles)
    (candidate : decl ∈ table.candidates framework) {shortName : String}
    (listed : shortName ∈ unitNames) :
    SourceUnit.hintName decl.name shortName ∈
        (GenerationOutput.gather
          ((table.candidates framework).map (config.process framework table))).hints ↔
      SourceUnit.hintName decl.name shortName ∈ (config.process framework table decl).hints := by
  rw [GenerationOutput.hints_gather, List.flatMap_map, List.mem_flatMap]
  refine ⟨?_, fun filed => ⟨decl, candidate, filed⟩⟩
  rintro ⟨other, other_candidate, filed⟩
  obtain ⟨unit, unit_listed, same⟩ := List.mem_map.mp
    ((config.hints_process_sublist framework table other).subset filed)
  have displays := (SourceUnit.display_eq_of_hintName_eq unit_listed listed same).1
  have handles : other.fingerprint = decl.fingerprint := congrArg Fingerprint.ofText displays
  rw [SymbolTable.candidates_eq_filter] at candidate other_candidate
  rwa [distinct.eq_of_fingerprint_eq (List.mem_of_mem_filter other_candidate)
    (List.mem_of_mem_filter candidate) handles] at filed

end GenerationConfig

/-! ## Candidates -/

namespace SymbolTable

variable {table : SymbolTable} {names : FrameworkNames}

/-- Every candidate has a parent in the engine, and no run finds otherwise. -/
structure HasEngineParents (table : SymbolTable) (names : FrameworkNames) : Prop where
  /-- A method table knows the nearest ancestor in the engine. -/
  parent : ∀ decl : TypeDecl, decl.isCandidate (.ofNames names) table = true → ∀ overrides,
    ∃ distance parent, table.IsEngineParent names decl.name distance parent ∧
      (MethodTable.build (.ofNames names) table decl overrides).engineParent = some parent.name
  /-- No run notes that a parent is missing. -/
  silent : ∀ config : GenerationConfig, config.names = names →
    ∀ type, .noEngineBase type ∉ config.notices table

theorem isCandidate_of_mem_candidates {framework : Framework} {decl : TypeDecl}
    (candidate : decl ∈ table.candidates framework) : decl.isCandidate framework table = true :=
  (List.mem_filter.mp candidate).2

/-- A node class in its place is all that the candidates need. -/
theorem hasEngineParents (distinct : table.DistinctHandles)
    (registered : table.HasNodeClass names) : table.HasEngineParents names where
  parent decl candidate overrides := by
    obtain ⟨distance, parent, nearest, found⟩ :=
      exists_isEngineParent distinct registered candidate
    exact ⟨distance, parent, nearest, congrArg (Option.map TypeDecl.name) found⟩
  silent := by
    rintro config rfl type noted
    rw [GenerationConfig.notices] at noted
    split at noted
    · cases noted
    · rename_i framework resolved
      obtain ⟨-, rfl⟩ := Framework.resolve_eq_ok_iff.mp resolved
      obtain ⟨decl, listed, missing⟩ := List.mem_flatMap.mp noted
      obtain ⟨distance, parent, -, found⟩ :=
        exists_isEngineParent distinct registered (isCandidate_of_mem_candidates listed)
      have none_found := TypeDecl.firstBaseIn?_eq_none_of_mem_notices missing
      cases found.symm.trans none_found

theorem scriptMethods_mem_hints_iff {config : GenerationConfig} (distinct : table.DistinctHandles)
    (registered : table.HasNodeClass config.names) {output : GenerationOutput}
    (done : generate config table false = .ok output) {decl : TypeDecl}
    (candidate : decl ∈ table.candidates (.ofNames config.names)) :
    SourceUnit.hintName decl.name scriptMethodsShortName ∈ output.hints ↔
      config.emitsScriptMethods = true ∧ decl.isPartial = true ∧
        (MethodTable.build (.ofNames config.names) table decl
          (decl.generatedOverrides (.ofNames config.names) table)).entries ≠ [] := by
  obtain ⟨framework, resolved, -, rfl⟩ := generate_eq_ok_iff.mp done
  obtain ⟨-, rfl⟩ := Framework.resolve_eq_ok_iff.mp resolved
  obtain ⟨distance, parent, -, found⟩ :=
    exists_isEngineParent distinct registered (isCandidate_of_mem_candidates candidate)
  rw [GenerationConfig.mem_hints_gather_iff distinct candidate (by decide),
    GenerationConfig.scriptMethods_mem_hints_process_iff,
    GenerationConfig.isSome_scriptMethodsUnit?_iff]
  refine and_congr_right fun _ => and_congr_right fun _ => and_iff_left ?_
  exact Option.isSome_iff_exists.mpr ⟨parent, found⟩

/-- If no two types share a handle, then all candidates of a compilation that starts from the usual
types have a parent in the engine.  The usual run registers the methods of a candidate exactly if
the class can be continued and has methods to register. -/
theorem hasEngineParents_registerEach {attempts : List TypeDecl}
    (distinct : ((ofEngineTypes .standard).registerEach attempts).DistinctHandles) :
    let table := (ofEngineTypes .standard).registerEach attempts
    let framework := Framework.ofNames .standard
    (∀ names : FrameworkNames, names.HasUsualEngine → table.HasEngineParents names) ∧
      Framework.resolve table .standard = .ok framework ∧
      ∃ output, generate .standard table false = .ok output ∧
        ∀ decl ∈ table.candidates framework,
          (SourceUnit.hintName decl.name scriptMethodsShortName ∈ output.hints ↔
            decl.isPartial = true ∧
              (MethodTable.build framework table decl
                (decl.generatedOverrides framework table)).entries ≠ []) := by
  intro table framework
  have resolved : Framework.resolve table .standard = .ok framework :=
    Framework.resolve_registerEach .standard attempts
  have done : generate .standard table false = .ok _ := generate_of_resolve_eq_ok resolved
  refine ⟨fun names usual => hasEngineParents distinct (hasNodeClass_registerEach usual attempts),
    resolved, _, done, fun decl candidate => ?_⟩
  have registered := hasNodeClass_registerEach ⟨rfl, rfl, rfl⟩ attempts
  rw [scriptMethods_mem_hints_iff distinct registered done candidate]
  exact and_iff_right rfl

/-- A boss is a player, and a player is a node.  The boss is registered first, and a second node
class is refused. -/
theorem hasEngineParents_boss :
    let player := TypeDecl.player [.make [.onReady] []]
    let boss := { player with name := ⟨"Boss", ["Game"]⟩, base := some player.name }
    let impostor := { player with name := FrameworkNames.standard.nodeClass }
    let table := (ofEngineTypes .standard).registerEach [boss, impostor, player]
    let framework := Framework.ofNames .standard
    table.DistinctHandles ∧ table.candidates framework = [boss, player] ∧
      (∀ names : FrameworkNames, names.HasUsualEngine → table.HasEngineParents names) ∧
      Framework.resolve table .standard = .ok framework ∧
      ∃ output, generate .standard table false = .ok output ∧
        ∀ decl ∈ table.candidates framework,
          (SourceUnit.hintName decl.name scriptMethodsShortName ∈ output.hints ↔
            decl.isPartial = true ∧
              (MethodTable.build framework table decl
                (decl.generatedOverrides framework table)).entries ≠ []) := by
  intro player boss impostor table framework
  have distinct : table.DistinctHandles := by
    rw [DistinctHandles]
    decide +kernel
  exact ⟨distinct, by decide +kernel, hasEngineParents_registerEach distinct⟩

end SymbolTable
end NodeLifecycle
