import NodeLifecycle.Generation
import NodeLifecycle.Proofs.Framework.Resolution
import NodeLifecycle.Proofs.Symbol.Agreement

/-!
# Isolation of classes

The analysis of a class asks the symbol table about the names that the class mentions, and each
question is a search.  Tables that agree on these names thus give the same analysis, down to the
text of the units.  In particular the members, attributes, modifiers and origins of other types and
the order of registration have no influence on a class.
-/

namespace NodeLifecycle

/-- The names in a declared type, at any depth of arrays. -/
def DeclaredType.names : DeclaredType → List QualifiedName
  | void _ => []
  | builtin _ _ => []
  | named name _ => [name]
  | array element _ _ => element.names

/-- The names in the type of a field or property, or in the result and the parameters of a
method. -/
def Member.typeNames (member : Member) : List QualifiedName :=
  match member.shape with
  | .method signature =>
      signature.returns.names ++ signature.params.flatMap fun parameter => parameter.type.names
  | .field type => type.names
  | .property type => type.names

/-- The names that a type mentions as its parents or in its members. -/
def TypeDecl.mentioned (decl : TypeDecl) : List QualifiedName :=
  decl.parents ++ decl.members.flatMap Member.typeNames

theorem DeclaredType.mem_names_of_name?_eq_some {type : DeclaredType} {name : QualifiedName}
    (named : type.name? = some name) : name ∈ type.names := by
  obtain ⟨nullable, rfl⟩ := name?_eq_some_iff.mp named
  exact List.mem_singleton_self name

theorem Member.typeNames_of_signature?_eq_some {member : Member} {signature : Signature}
    (method : member.signature? = some signature) :
    member.typeNames =
      signature.returns.names ++
        signature.params.flatMap fun parameter => parameter.type.names := by
  rw [signature?] at method
  rw [typeNames]
  split at method
  · rename_i shape
    rw [shape, Option.some.inj method]
  · cases method

namespace SymbolTable.AgreeOn

variable {left right : SymbolTable} {known : QualifiedName → Prop}
  (agree : left.AgreeOn right known) (framework : Framework)

include agree

/-! ## Classifications -/

theorem isResource_eq {type : DeclaredType} (start : ∀ name ∈ type.names, known name) :
    framework.isResource left type = framework.isResource right type := by
  rw [Framework.isResource, Framework.isResource, typeImplements, typeImplements]
  cases named : type.name? with
  | none => rfl
  | some name =>
      have first := start name (DeclaredType.mem_names_of_name?_eq_some named)
      exact agree.implementsInterface_eq first framework.disposable

theorem classify?_eq (decl : TypeDecl) (hooks : List Marker) (allowsResources : Bool)
    {member : Member} (start : ∀ name ∈ member.typeNames, known name) :
    decl.classify? framework left hooks allowsResources member =
      decl.classify? framework right hooks allowsResources member := by
  rw [TypeDecl.classify?, TypeDecl.classify?]
  cases method : member.signature? with
  | none => rfl
  | some signature =>
      rw [Member.typeNames_of_signature?_eq_some method] at start
      have resource : framework.isResource left signature.returns =
          framework.isResource right signature.returns :=
        agree.isResource_eq framework fun name inside => start name (List.mem_append_left _ inside)
      simp only [Option.bind_some, TypeDecl.classifyMethod?, resource]

theorem classifications_eq {decl : TypeDecl}
    (start : ∀ member ∈ decl.members, ∀ name ∈ member.typeNames, known name) (pass : Pass) :
    decl.classifications framework left pass = decl.classifications framework right pass :=
  List.filterMap_congr fun member declared =>
    agree.classify?_eq framework decl _ _ (start member declared)

/-! ## Kinds of values -/

section Declarations

variable {decl other : TypeDecl} (outlined : decl.outline = other.outline)

include outlined

omit agree in
theorem isEngineType_eq :
    framework.isEngineType decl = framework.isEngineType other :=
  TypeDecl.livesIn_eq_of_outline_eq outlined _ _

omit agree in
theorem valueClassKind?_eq :
    framework.valueClassKind? decl = framework.valueClassKind? other := by
  have names : decl.name = other.name := congrArg TypeOutline.name outlined
  have collection : framework.isCollection decl = framework.isCollection other :=
    TypeDecl.livesIn_eq_of_outline_eq outlined _ _
  rw [Framework.valueClassKind?, Framework.valueClassKind?, collection, names,
    isEngineType_eq framework outlined]

variable (start : known decl.name)

include start

theorem isEngineObject_eq :
    framework.isEngineObject left decl = framework.isEngineObject right other := by
  have names : decl.name = other.name := congrArg TypeOutline.name outlined
  rw [Framework.isEngineObject, Framework.isEngineObject, ← names, agree.extendsClass_eq start]

theorem kindOfDecl?_eq :
    framework.kindOfDecl? left decl = framework.kindOfDecl? right other := by
  have names : decl.name = other.name := congrArg TypeOutline.name outlined
  have kinds : decl.kind = other.kind := congrArg TypeOutline.kind outlined
  rw [Framework.kindOfDecl?, Framework.kindOfDecl?, kinds, names,
    isEngineType_eq framework outlined,
    valueClassKind?_eq framework outlined,
    agree.isEngineObject_eq framework outlined start]

theorem arrayKindOfDecl?_eq :
    framework.arrayKindOfDecl? left decl = framework.arrayKindOfDecl? right other := by
  have names : decl.name = other.name := congrArg TypeOutline.name outlined
  have classes : decl.isClass = other.isClass :=
    congrArg (fun outline => outline.kind == .classType) outlined
  rw [Framework.arrayKindOfDecl?, Framework.arrayKindOfDecl?, names, classes,
    isEngineType_eq framework outlined,
    agree.isEngineObject_eq framework outlined start]

end Declarations

theorem arrayKind?_eq {element : DeclaredType} (start : ∀ name ∈ element.names, known name) :
    framework.arrayKind? left element = framework.arrayKind? right element := by
  cases element with
  | void nullable | builtin type nullable | array element rank nullable => rfl
  | named name nullable =>
      have first : known name := start name (List.mem_singleton_self name)
      rw [Framework.arrayKind?, Framework.arrayKind?]
      apply agree.bind_get?_eq first
      rintro decl other rfl outlined
      exact agree.arrayKindOfDecl?_eq framework outlined first

theorem variantKind?_eq {type : DeclaredType} (start : ∀ name ∈ type.names, known name) :
    framework.variantKind? left type = framework.variantKind? right type := by
  cases type with
  | void nullable | builtin type nullable => rfl
  | array element rank nullable =>
      have inner : ∀ name ∈ element.names, known name := start
      rw [Framework.variantKind?, Framework.variantKind?, agree.arrayKind?_eq framework inner]
  | named name nullable =>
      have first : known name := start name (List.mem_singleton_self name)
      rw [Framework.variantKind?, Framework.variantKind?]
      apply agree.bind_get?_eq first
      rintro decl other rfl outlined
      have kinds : decl.kind = other.kind := congrArg TypeOutline.kind outlined
      rw [kinds, agree.kindOfDecl?_eq framework outlined first]

/-! ## Method tables -/

theorem mapM_wireParameter?_eq {params : List Parameter}
    (start : ∀ parameter ∈ params, ∀ name ∈ parameter.type.names, known name) :
    params.mapM (framework.wireParameter? left) = params.mapM (framework.wireParameter? right) := by
  induction params with
  | nil => rfl
  | cons first rest induction =>
      obtain ⟨start_first, start_rest⟩ := List.forall_mem_cons.mp start
      have same : framework.wireParameter? left first = framework.wireParameter? right first := by
        rw [Framework.wireParameter?, Framework.wireParameter?,
          agree.variantKind?_eq framework start_first]
      rw [List.mapM_cons, List.mapM_cons, same, induction start_rest]

theorem entryFor?_eq {member : Member} (start : ∀ name ∈ member.typeNames, known name) :
    framework.entryFor? left member = framework.entryFor? right member := by
  rw [Framework.entryFor?, Framework.entryFor?]
  cases method : member.signature? with
  | none => rfl
  | some signature =>
      rw [Member.typeNames_of_signature?_eq_some method, List.forall_mem_append] at start
      have result : framework.resultKind? left signature.returns =
          framework.resultKind? right signature.returns := by
        rw [Framework.resultKind?, Framework.resultKind?, agree.variantKind?_eq framework start.1]
      have params := agree.mapM_wireParameter?_eq framework fun parameter taken name inside =>
        start.2 name (List.mem_flatMap.mpr ⟨parameter, taken, inside⟩)
      simp only [Option.bind_some, Framework.entryOfMethod?, result, params]

theorem build_eq {decl : TypeDecl} (own : known decl.name)
    (start : ∀ member ∈ decl.members, ∀ name ∈ member.typeNames, known name)
    (overrides : List String) :
    MethodTable.build framework left decl overrides =
      MethodTable.build framework right decl overrides := by
  have entries : decl.members.filterMap (framework.entryFor? left) =
      decl.members.filterMap (framework.entryFor? right) :=
    List.filterMap_congr fun member declared =>
      agree.entryFor?_eq framework (start member declared)
  rw [MethodTable.build, MethodTable.build, MethodTable.entriesOf, MethodTable.entriesOf, entries,
    agree.map_name_firstBaseIn? own]

/-! ## Whole classes -/

omit framework in
theorem resolve_eq {name : QualifiedName} (start : known name) :
    left.resolve name = right.resolve name := by
  rw [resolve, resolve]
  cases found : left.get? name with
  | none => rw [agree.get?_eq_none start found]
  | some decl =>
      obtain ⟨other, other_found, outlined⟩ := agree.exists_get?_eq_some start found
      rw [other_found]
      exact congrArg Except.ok (TypeDecl.fingerprint_eq_of_outline_eq outlined)

theorem isCandidate_eq {decl : TypeDecl} (own : known decl.name) :
    decl.isCandidate framework left = decl.isCandidate framework right := by
  rw [TypeDecl.isCandidate, TypeDecl.isCandidate, agree.extendsClass_eq own]

/-- The analysis of a class depends only on what the table says about the names that the class
mentions, and about its own name. -/
theorem analyze_eq {decl : TypeDecl} (own : known decl.name)
    (start : ∀ name ∈ decl.mentioned, known name) (marshalling : Bool) :
    decl.analyze framework left marshalling = decl.analyze framework right marshalling := by
  have members : ∀ member ∈ decl.members, ∀ name ∈ member.typeNames, known name :=
    fun member declared name inside => start name
      (List.mem_append_right _ (List.mem_flatMap.mpr ⟨member, declared, inside⟩))
  have classified := agree.classifications_eq framework members
  have plans : decl.disposalPlan framework left = decl.disposalPlan framework right := by
    simp only [TypeDecl.disposalPlan, classified]
  have models (pass : Pass) : decl.lifecycleModel framework left pass =
      decl.lifecycleModel framework right pass := by
    cases pass <;>
      simp only [TypeDecl.lifecycleModel, TypeDecl.enterTreeModel, TypeDecl.readyModel,
        TypeDecl.exitTreeModel, TypeDecl.hookCalls, plans, classified]
  have methods : decl.methodTable? framework left marshalling =
      decl.methodTable? framework right marshalling := by
    simp only [TypeDecl.methodTable?, TypeDecl.generatedOverrides, models,
      agree.build_eq framework own members]
  have given : decl.classifications framework left = decl.classifications framework right :=
    funext classified
  simp only [TypeDecl.analyze, TypeDecl.memberRoles, methods, plans, given]
  congr 1
  · exact models .enterTree
  · exact models .ready
  · exact models .exitTree

end SymbolTable.AgreeOn

/-! ## What a class cannot see -/

namespace TypeDecl

/-- Tables with the same hierarchy resolve the same framework.  A class is one that generation is
for in both or in neither, and its analysis, its diagnostics and its output are the same. -/
theorem analyze_eq_of_sameHierarchy {left right : SymbolTable} (same : left.SameHierarchy right)
    (decl : TypeDecl) (config : GenerationConfig) :
    Framework.resolve left config.names = Framework.resolve right config.names ∧
      ∀ (framework : Framework) (marshalling : Bool),
        let analysis := decl.analyze framework left marshalling
        let other := decl.analyze framework right marshalling
        decl.isCandidate framework left = decl.isCandidate framework right ∧
          analysis = other ∧
          analysis.diagnostics = other.diagnostics ∧
          (config.render analysis).sources = (config.render other).sources ∧
          (config.render analysis).diagnostics = (config.render other).diagnostics := by
  have agree := same.agreeOn
  constructor
  · simp only [Framework.resolve, agree.resolve_eq trivial]
  · intro framework marshalling analysis other
    have equal : analysis = other :=
      agree.analyze_eq framework trivial (fun _ _ => trivial) marshalling
    refine ⟨agree.isCandidate_eq framework trivial, equal, ?_, ?_, ?_⟩ <;> rw [equal]

/-- A class of resources with the given members, attributes and origin. -/
def handle (members : List Member) (attributes : List Attribute) (origin : TypeOrigin) :
    TypeDecl where
  name := ⟨"Handle", ["Game"]⟩
  kind := .classType
  origin := origin
  assembly := "Game"
  base := none
  interfaces := [FrameworkNames.standard.disposableInterface]
  attributes := attributes
  modifiers := []
  members := members

/-- A node class that keeps the handle it opens when the node is ready. -/
def opener : TypeDecl :=
  .player
    [{ Member.make [.onReady] [] with
      shape := .method
        { returns := .named (handle [] [] .source).name false
          params := []
          kind := .ordinary
          returnsByRef := false } }]

/-- The handle is registered before the class or after it, and may hold anything. -/
theorem analyze_opener_eq :
    let left := SymbolTable.game [handle [] [] .source, opener] (by decide) (by decide)
    let right := SymbolTable.game
      [opener, handle [.make [] []] [⟨FrameworkNames.standard.toolAttribute, [], []⟩] .metadata]
      (by decide) (by decide)
    left.SameHierarchy right ∧
      Framework.resolve left .standard = Framework.resolve right .standard ∧
      ∀ (framework : Framework) (marshalling : Bool),
        let analysis := opener.analyze framework left marshalling
        let other := opener.analyze framework right marshalling
        opener.isCandidate framework left = opener.isCandidate framework right ∧
          analysis = other ∧
          analysis.diagnostics = other.diagnostics ∧
          (GenerationConfig.standard.render analysis).sources =
            (GenerationConfig.standard.render other).sources ∧
          (GenerationConfig.standard.render analysis).diagnostics =
            (GenerationConfig.standard.render other).diagnostics := by
  intro left right
  have same : left.SameHierarchy right := by
    apply SymbolTable.sameHierarchy_of_perm
    rw [SymbolTable.decls_game, SymbolTable.decls_game, List.map_append, List.map_append]
    exact (List.Perm.swap _ _ _).append_left _
  exact ⟨same, analyze_eq_of_sameHierarchy same opener .standard⟩

end TypeDecl
end NodeLifecycle
