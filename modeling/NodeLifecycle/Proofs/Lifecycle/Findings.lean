import NodeLifecycle.Proofs.Lifecycle.HookCalls

/-!
# What is reported

Every diagnostic of a class comes from a finding that applies to the class or to one of its methods,
and every finding that applies is reported.  A pass looks at its own hooks and at all producers that
are replaced on demand, so the latter are found again in each pass and reported once.
-/

namespace NodeLifecycle

/-! ## Texts -/

/-- The names of a pass are of a length of their own. -/
theorem Pass.eq_of_length_eq {left right : Pass}
    (same : left.overrideName.length + left.shortName.length + left.shortName.length =
      right.overrideName.length + right.shortName.length + right.shortName.length) :
    left = right := by
  revert same
  cases left <;> cases right <;> decide

namespace Finding

theorem eq_of_message_ownOverride_eq {left right : Pass} {typeName : String}
    (same : (ownOverride left.overrideName left.shortName).message typeName =
      (ownOverride right.overrideName right.shortName).message typeName) : left = right := by
  have lengths := congrArg String.length same
  simp only [message, String.length_append] at lengths
  apply Pass.eq_of_length_eq
  omega

theorem enclosed_injective {opening closing left right : String}
    (same : opening ++ left ++ closing = opening ++ right ++ closing) : left = right :=
  (String.append_right_inj opening).mp ((String.append_left_inj closing).mp same)

/-- The report of a finding about a method tells the attribute and the method. -/
theorem eq_of_report_eq {left right : Finding} {typeName namespaceText : String}
    (about : left.member? ≠ none)
    (same : left.report typeName namespaceText = right.report typeName namespaceText) :
    left = right := by
  have rules : left.rule = right.rule := congrArg Diagnostic.rule same
  have titles : left.title = right.title := congrArg Diagnostic.title same
  have members : left.member? = right.member? := congrArg Diagnostic.member same
  cases left with
  | notPartial => exact absurd rfl about
  | ownOverride override attributeName => exact absurd rfl about
  | takesParams attributeName method | returnsValue attributeName method
  | notPrivate attributeName method | notDisposable attributeName method =>
      cases right <;> cases rules
      rw [enclosed_injective titles, Option.some.inj members]

end Finding

namespace Diagnostic

/-- A diagnostic about a method with an attribute, which has to be as the end of the title says. -/
structure DemandsOf (diagnostic : Diagnostic) (rule : Rule) (attributeName method demand : String) :
    Prop where
  rule : diagnostic.rule = rule
  member : diagnostic.member = some method
  title : diagnostic.title = "Method with attribute [" ++ attributeName ++ demand

/-- The fields by which a diagnostic tells a finding: the rule, the member and the text that names
the attribute.  Findings about the class as a whole have no member, and if there is an attribute to
use, the message names it. -/
def Tells (diagnostic : Diagnostic) : Finding → Prop
  | .notPartial => diagnostic.rule = .partialClass ∧ diagnostic.member = none
  | .ownOverride override attributeName =>
      diagnostic.rule = .noOwnOverride ∧ diagnostic.member = none ∧
        diagnostic.message = diagnostic.typeName ++
          " class declaration should not have a " ++ override ++
          " function defined, so it can be generated instead. Use [" ++ attributeName ++
          "] attribute on an method instead, or remove the other [" ++ attributeName ++
          "] members."
  | .takesParams attributeName method =>
      diagnostic.DemandsOf .noParams attributeName method "] must not take any parameters."
  | .returnsValue attributeName method =>
      diagnostic.DemandsOf .noResult attributeName method "] should return void."
  | .notPrivate attributeName method =>
      diagnostic.DemandsOf .privateProducer attributeName method "] should be private."
  | .notDisposable attributeName method =>
      diagnostic.DemandsOf .disposableResult attributeName method "] should return IDisposable."

end Diagnostic

theorem Finding.tells_report (finding : Finding) (typeName namespaceText : String) :
    (finding.report typeName namespaceText).Tells finding := by
  cases finding with
  | notPartial => exact ⟨rfl, rfl⟩
  | ownOverride | takesParams | returnsValue | notPrivate | notDisposable => exact ⟨rfl, rfl, rfl⟩

/-! ## What a pass finds out -/

namespace Framework

/-- What a pass finds out about the shape of a member. -/
def memberFindings (framework : Framework) (table : SymbolTable) (pass : Pass) (member : Member) :
    List Finding :=
  match member.signature? with
  | none => []
  | some signature =>
      (if framework.carries member.attributes pass.marker then
        framework.hookFindings pass.marker
          (pass.allowsResources && framework.isResource table signature.returns) member.name
          signature
      else
        []) ++
        if framework.carries member.attributes .autoDispose then
          framework.producerFindings (framework.isResource table signature.returns) member
        else
          []

variable {framework : Framework} {table : SymbolTable} {pass : Pass} {member : Member}
  {finding : Finding}

theorem mem_hookFindings {marker : Marker} {mayReturn : Bool} {method : String}
    {signature : Signature} :
    finding ∈ framework.hookFindings marker mayReturn method signature ↔
      (signature.params ≠ [] ∧ .takesParams (framework.markerClassName marker) method = finding) ∨
        (mayReturn = false ∧ signature.returns.isVoid = false ∧
          .returnsValue (framework.markerClassName marker) method = finding) := by
  rw [hookFindings, List.mem_append, Signature.returnsVoid]
  refine or_congr ?_ ?_
  · cases signature.params <;> simp [eq_comm]
  · cases mayReturn <;> cases signature.returns.isVoid <;> simp [eq_comm]

theorem mem_producerFindings {returnsResource : Bool} :
    finding ∈ framework.producerFindings returnsResource member ↔
      (member.access.isPrivate = false ∧
          .notPrivate (framework.markerClassName .autoDispose) member.name = finding) ∨
        (returnsResource = false ∧
          .notDisposable (framework.markerClassName .autoDispose) member.name = finding) := by
  rw [producerFindings, List.mem_append]
  refine or_congr ?_ ?_
  · cases member.access.isPrivate <;> simp [eq_comm]
  · cases returnsResource <;> simp [eq_comm]

theorem mem_memberFindings :
    finding ∈ framework.memberFindings table pass member ↔
      ∃ signature, member.signature? = some signature ∧
        ((framework.carries member.attributes pass.marker = true ∧
            finding ∈ framework.hookFindings pass.marker
              (pass.allowsResources && framework.isResource table signature.returns) member.name
              signature) ∨
          (framework.carries member.attributes .autoDispose = true ∧
            finding ∈ framework.producerFindings
              (framework.isResource table signature.returns) member)) := by
  rw [memberFindings]
  cases member.signature? with
  | none => simp
  | some signature =>
      simp only [List.mem_append, Option.some.injEq, exists_eq_left']
      refine or_congr ?_ ?_
      · cases framework.carries member.attributes pass.marker <;> simp
      · cases framework.carries member.attributes .autoDispose <;> simp

end Framework

theorem LifecycleModel.mem_classFindings {framework : Framework} {decl : TypeDecl} {pass : Pass}
    {finding : Finding} :
    finding ∈ classFindings pass (.ofDecl framework decl pass) ↔
      (decl.isPartial = false ∧ .notPartial = finding) ∨
        (decl.isPartial = true ∧ decl.hasMember pass.overrideName = true ∧
          .ownOverride pass.overrideName pass.shortName = finding) := by
  simp only [classFindings, ClassDescriptor.ofDecl]
  by_cases continued : decl.isPartial = true <;>
    by_cases overridden : decl.hasMember pass.overrideName = true <;>
      simp [continued, overridden, eq_comm]

namespace TypeDecl

def reportOf (decl : TypeDecl) (finding : Finding) : Diagnostic :=
  finding.report decl.name.simple decl.name.scopeText

/-- What a pass finds out about a class and its members. -/
def passFindings (decl : TypeDecl) (framework : Framework) (table : SymbolTable) (pass : Pass) :
    List Finding :=
  (if (decl.lifecycleModel framework table pass).hasWork then
    LifecycleModel.classFindings pass (.ofDecl framework decl pass)
  else
    []) ++
    decl.members.flatMap (framework.memberFindings table pass)

/-- A finding that applies to a class or to one of its methods. -/
inductive Applies (decl : TypeDecl) (framework : Framework) (table : SymbolTable) :
    Finding → Prop where
  /-- There is an override to generate, but the class cannot be continued. -/
  | notPartial (pass : Pass) (closed : decl.isPartial = false)
      (work : (decl.lifecycleModel framework table pass).hasWork = true) :
      Applies decl framework table .notPartial
  /-- The class has a member of the name of an override that is to be generated. -/
  | ownOverride (pass : Pass) (member : Member) (continued : decl.isPartial = true)
      (work : (decl.lifecycleModel framework table pass).hasWork = true)
      (declared : member ∈ decl.members) (named : member.name = pass.overrideName) :
      Applies decl framework table (.ownOverride pass.overrideName pass.shortName)
  /-- A hook takes parameters. -/
  | takesParams (pass : Pass) (member : Member) (signature : Signature)
      (declared : member ∈ decl.members) (method : member.signature? = some signature)
      (marked : framework.carries member.attributes pass.marker = true)
      (taken : signature.params ≠ []) :
      Applies decl framework table
        (.takesParams (framework.names.markerClass pass.marker).simple member.name)
  /-- A hook returns a value, other than a resource in a pass that keeps resources. -/
  | returnsValue (pass : Pass) (member : Member) (signature : Signature)
      (declared : member ∈ decl.members) (method : member.signature? = some signature)
      (marked : framework.carries member.attributes pass.marker = true)
      (value : signature.returns.isVoid = false)
      (lost : ¬((pass = .enterTree ∨ pass = .ready) ∧
        framework.isResource table signature.returns = true)) :
      Applies decl framework table
        (.returnsValue (framework.names.markerClass pass.marker).simple member.name)
  /-- A producer that is replaced on demand is not private. -/
  | notPrivate (member : Member) (signature : Signature)
      (declared : member ∈ decl.members) (method : member.signature? = some signature)
      (marked : framework.carries member.attributes .autoDispose = true)
      (exposed : member.access.isPrivate = false) :
      Applies decl framework table
        (.notPrivate (framework.names.markerClass .autoDispose).simple member.name)
  /-- A producer that is replaced on demand returns no resource. -/
  | notDisposable (member : Member) (signature : Signature)
      (declared : member ∈ decl.members) (method : member.signature? = some signature)
      (marked : framework.carries member.attributes .autoDispose = true)
      (other : framework.isResource table signature.returns = false) :
      Applies decl framework table
        (.notDisposable (framework.names.markerClass .autoDispose).simple member.name)

variable {decl : TypeDecl} {framework : Framework} {table : SymbolTable} {pass : Pass}
  {finding : Finding}

/-! ## From findings to diagnostics -/

theorem diagnostics_classify? (decl : TypeDecl) (framework : Framework) (table : SymbolTable)
    (pass : Pass) (member : Member) :
    ((decl.classify? framework table [pass.marker] pass.allowsResources member).map
        Classification.diagnostics).getD [] =
      (framework.memberFindings table pass member).map decl.reportOf := by
  rw [classify?, Framework.memberFindings]
  cases found : member.signature? with
  | none => rfl
  | some signature =>
      simp only [Option.bind_some, classifyMethod?, Framework.hookMarker?_singleton]
      cases framework.carries member.attributes pass.marker <;>
        cases framework.carries member.attributes .autoDispose <;> rfl

theorem flatMap_diagnostics_classifications (decl : TypeDecl) (framework : Framework)
    (table : SymbolTable) (pass : Pass) :
    (decl.classifications framework table pass).flatMap Classification.diagnostics =
      (decl.members.flatMap (framework.memberFindings table pass)).map decl.reportOf := by
  rw [classifications]
  induction decl.members with
  | nil => rfl
  | cons member rest ih =>
      have first := decl.diagnostics_classify? framework table pass member
      rw [List.flatMap_cons, List.map_append, ← first, ← ih, List.filterMap_cons]
      cases decl.classify? framework table [pass.marker] pass.allowsResources member with
      | none => rfl
      | some classification => rfl

theorem exists_lifecycleModel_eq_ofParts (decl : TypeDecl) (framework : Framework)
    (table : SymbolTable) (pass : Pass) :
    ∃ calls helpers, decl.lifecycleModel framework table pass =
      .ofParts framework decl pass calls helpers (decl.classifications framework table pass) := by
  cases pass <;> exact ⟨_, _, rfl⟩

/-- The diagnostics of a pass are the reports of what it finds out. -/
theorem diagnostics_lifecycleModel (decl : TypeDecl) (framework : Framework) (table : SymbolTable)
    (pass : Pass) :
    (decl.lifecycleModel framework table pass).diagnostics =
      (decl.passFindings framework table pass).map decl.reportOf := by
  obtain ⟨calls, helpers, made⟩ := decl.exists_lifecycleModel_eq_ofParts framework table pass
  rw [passFindings, List.map_append, ← flatMap_diagnostics_classifications, made,
    LifecycleModel.hasWork]
  simp only [LifecycleModel.ofParts, ← Bool.not_and]
  by_cases idle : (calls.isEmpty && helpers.isEmpty) = true
  · rw [idle]
    rfl
  · rw [Bool.not_eq_true] at idle
    rw [idle]
    rfl

theorem mem_models_analyze {marshalling : Bool} {model : LifecycleModel} :
    model ∈ (decl.analyze framework table marshalling).models ↔
      ∃ pass, decl.lifecycleModel framework table pass = model := by
  simp only [ClassAnalysis.models, List.mem_cons, List.not_mem_nil, or_false]
  constructor
  · rintro (rfl | rfl | rfl)
    · exact ⟨.enterTree, rfl⟩
    · exact ⟨.ready, rfl⟩
    · exact ⟨.exitTree, rfl⟩
  · rintro ⟨pass, rfl⟩
    cases pass with
    | enterTree => exact Or.inl rfl
    | ready => exact Or.inr (Or.inl rfl)
    | exitTree => exact Or.inr (Or.inr rfl)

theorem mem_diagnostics_analyze {marshalling : Bool} {diagnostic : Diagnostic} :
    diagnostic ∈ (decl.analyze framework table marshalling).diagnostics.items ↔
      ∃ pass, ∃ finding ∈ decl.passFindings framework table pass,
        decl.reportOf finding = diagnostic := by
  have gathered : diagnostic ∈ (decl.analyze framework table marshalling).diagnostics.items ↔
      ∃ model ∈ (decl.analyze framework table marshalling).models,
        diagnostic ∈ model.diagnostics := by
    rw [ClassAnalysis.diagnostics, Report.mem_items_ofList, List.mem_flatMap]
  simp only [gathered, mem_models_analyze, exists_exists_eq_and, diagnostics_lifecycleModel,
    List.mem_map]

/-! ## From passes to findings -/

theorem mem_passFindings :
    finding ∈ decl.passFindings framework table pass ↔
      ((decl.lifecycleModel framework table pass).hasWork = true ∧
          finding ∈ LifecycleModel.classFindings pass (.ofDecl framework decl pass)) ∨
        ∃ member ∈ decl.members, finding ∈ framework.memberFindings table pass member := by
  rw [passFindings, List.mem_append, List.mem_flatMap, List.mem_ite_nil_right]

theorem applies_of_mem_classFindings
    (work : (decl.lifecycleModel framework table pass).hasWork = true)
    (found : finding ∈ LifecycleModel.classFindings pass (.ofDecl framework decl pass)) :
    decl.Applies framework table finding := by
  obtain ⟨closed, rfl⟩ | ⟨continued, overridden, rfl⟩ := LifecycleModel.mem_classFindings.mp found
  · exact .notPartial pass closed work
  · obtain ⟨member, declared, named⟩ := List.any_eq_true.mp overridden
    exact .ownOverride pass member continued work declared (beq_iff_eq.mp named)

theorem applies_of_mem_memberFindings {member : Member} (declared : member ∈ decl.members)
    (found : finding ∈ framework.memberFindings table pass member) :
    decl.Applies framework table finding := by
  obtain ⟨signature, method, hook | producer⟩ := Framework.mem_memberFindings.mp found
  · obtain ⟨marked, hook⟩ := hook
    obtain ⟨taken, rfl⟩ | ⟨forbidden, value, rfl⟩ := Framework.mem_hookFindings.mp hook
    · exact .takesParams pass member signature declared method marked taken
    · refine .returnsValue pass member signature declared method marked value ?_
      rintro ⟨keeping, resource⟩
      rw [resource, Bool.and_true] at forbidden
      obtain rfl | rfl := keeping <;> cases forbidden
  · obtain ⟨marked, producer⟩ := producer
    obtain ⟨exposed, rfl⟩ | ⟨other, rfl⟩ := Framework.mem_producerFindings.mp producer
    · exact .notPrivate member signature declared method marked exposed
    · exact .notDisposable member signature declared method marked other

theorem applies_of_mem_passFindings (found : finding ∈ decl.passFindings framework table pass) :
    decl.Applies framework table finding := by
  obtain ⟨work, found⟩ | ⟨member, declared, found⟩ := mem_passFindings.mp found
  · exact applies_of_mem_classFindings work found
  · exact applies_of_mem_memberFindings declared found

/-! ## From findings to passes -/

section Members

variable {member : Member} {signature : Signature} (declared : member ∈ decl.members)
  (method : member.signature? = some signature)

include declared method

theorem mem_passFindings_of_hook (marked : framework.carries member.attributes pass.marker = true)
    (found : finding ∈ framework.hookFindings pass.marker
      (pass.allowsResources && framework.isResource table signature.returns) member.name
      signature) :
    finding ∈ decl.passFindings framework table pass :=
  mem_passFindings.mpr (Or.inr ⟨member, declared,
    Framework.mem_memberFindings.mpr ⟨signature, method, Or.inl ⟨marked, found⟩⟩⟩)

/-- Producers that are replaced on demand are looked at in every pass. -/
theorem mem_passFindings_of_producer
    (marked : framework.carries member.attributes .autoDispose = true)
    (found : finding ∈ framework.producerFindings
      (framework.isResource table signature.returns) member) (pass : Pass) :
    finding ∈ decl.passFindings framework table pass :=
  mem_passFindings.mpr (Or.inr ⟨member, declared,
    Framework.mem_memberFindings.mpr ⟨signature, method, Or.inr ⟨marked, found⟩⟩⟩)

end Members

theorem exists_mem_passFindings_of_applies (applies : decl.Applies framework table finding) :
    ∃ pass, finding ∈ decl.passFindings framework table pass := by
  cases applies with
  | notPartial pass closed work =>
      refine ⟨pass, mem_passFindings.mpr (Or.inl ⟨work, ?_⟩)⟩
      exact LifecycleModel.mem_classFindings.mpr (Or.inl ⟨closed, rfl⟩)
  | ownOverride pass member continued work declared named =>
      have overridden : decl.hasMember pass.overrideName = true :=
        List.any_eq_true.mpr ⟨member, declared, beq_iff_eq.mpr named⟩
      refine ⟨pass, mem_passFindings.mpr (Or.inl ⟨work, ?_⟩)⟩
      exact LifecycleModel.mem_classFindings.mpr (Or.inr ⟨continued, overridden, rfl⟩)
  | takesParams pass member signature declared method marked taken =>
      refine ⟨pass, mem_passFindings_of_hook declared method marked ?_⟩
      exact Framework.mem_hookFindings.mpr (Or.inl ⟨taken, rfl⟩)
  | returnsValue pass member signature declared method marked value lost =>
      have forbidden :
          (pass.allowsResources && framework.isResource table signature.returns) = false := by
        cases resource : framework.isResource table signature.returns with
        | false => exact Bool.and_false _
        | true =>
            rw [Bool.and_true]
            cases pass with
            | enterTree => exact absurd ⟨Or.inl rfl, resource⟩ lost
            | ready => exact absurd ⟨Or.inr rfl, resource⟩ lost
            | exitTree => rfl
      refine ⟨pass, mem_passFindings_of_hook declared method marked ?_⟩
      exact Framework.mem_hookFindings.mpr (Or.inr ⟨forbidden, value, rfl⟩)
  | notPrivate member signature declared method marked exposed =>
      refine ⟨.enterTree, mem_passFindings_of_producer declared method marked ?_ _⟩
      exact Framework.mem_producerFindings.mpr (Or.inl ⟨exposed, rfl⟩)
  | notDisposable member signature declared method marked other =>
      refine ⟨.enterTree, mem_passFindings_of_producer declared method marked ?_ _⟩
      exact Framework.mem_producerFindings.mpr (Or.inr ⟨other, rfl⟩)

/-! ## Different findings -/

theorem eq_of_reportOf_eq {other : Finding} (applies : decl.Applies framework table finding)
    (other_applies : decl.Applies framework table other)
    (same : decl.reportOf finding = decl.reportOf other) : finding = other := by
  by_cases about : finding.member? = none
  · have rules : finding.rule = other.rule := congrArg Diagnostic.rule same
    have messages : finding.message decl.name.simple = other.message decl.name.simple :=
      congrArg Diagnostic.message same
    -- only the class as a whole breaks the first two rules
    cases applies with
    | notPartial =>
        cases other_applies with
        | notPartial => rfl
        | ownOverride | takesParams | returnsValue | notPrivate | notDisposable => cases rules
    | ownOverride pass =>
        cases other_applies with
        | ownOverride other_pass => rw [Finding.eq_of_message_ownOverride_eq messages]
        | notPartial | takesParams | returnsValue | notPrivate | notDisposable => cases rules
    | takesParams | returnsValue | notPrivate | notDisposable => cases about
  · exact Finding.eq_of_report_eq about same

/-- The diagnostics of a class are the reports of the findings that apply, one for each and each
once.  They are warnings under the name and the namespace of the class, and each tells its finding
by the rule, the member and the attribute. -/
theorem diagnostics_analyze (decl : TypeDecl) (framework : Framework) (table : SymbolTable)
    (marshalling : Bool) :
    let items := (decl.analyze framework table marshalling).diagnostics.items
    let report := fun finding : Finding => finding.report decl.name.simple decl.name.scopeText
    items.Nodup ∧
      (∀ diagnostic, diagnostic ∈ items ↔
        ∃ finding, decl.Applies framework table finding ∧ report finding = diagnostic) ∧
      (∀ left right, decl.Applies framework table left → decl.Applies framework table right →
        report left = report right → left = right) ∧
      (∀ finding, (report finding).Tells finding) ∧
      ∀ diagnostic ∈ items, diagnostic.severity = .warning ∧
        diagnostic.typeName = decl.name.simple ∧
        diagnostic.namespaceText = decl.name.scopeText := by
  intro items report
  have exact_items (diagnostic : Diagnostic) : diagnostic ∈ items ↔
      ∃ finding, decl.Applies framework table finding ∧ report finding = diagnostic := by
    refine mem_diagnostics_analyze.trans ⟨?_, ?_⟩
    · rintro ⟨pass, finding, found, reported⟩
      exact ⟨finding, applies_of_mem_passFindings found, reported⟩
    · rintro ⟨finding, applies, reported⟩
      obtain ⟨pass, found⟩ := exists_mem_passFindings_of_applies applies
      exact ⟨pass, finding, found, reported⟩
  refine ⟨Report.nodup_items _, exact_items, fun _ _ => eq_of_reportOf_eq,
    fun finding => finding.tells_report _ _, ?_⟩
  intro diagnostic listed
  obtain ⟨finding, -, rfl⟩ := (exact_items diagnostic).mp listed
  exact ⟨rfl, rfl, rfl⟩

end TypeDecl
end NodeLifecycle
