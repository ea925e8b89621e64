import NodeLifecycle.Proofs.Lifecycle.TrackedProducers

/-!
# The order of releases

The overrides call producers in one place and release the resources in another.  The two agree for
every class: the plan acquires the called producers in the order of their first calls and then the
producers that no override calls, and everything is released in the exact reverse.
-/

namespace NodeLifecycle

/-- The plan of a class follows the calls of its overrides, and the releases undo the plan from its
end.  `classified` are the classifications that the plan is made from. -/
structure ReleasesInReverse (classified : List Classification) (analysis : ClassAnalysis) :
    Prop where
  /-- No two entries are for the same method. -/
  distinct : (analysis.disposal.entries.map DisposalEntry.method).Nodup
  /-- The methods with an entry are those that some pass found to be released on exit. -/
  tracked : ∀ method, method ∈ analysis.disposal.entries.map DisposalEntry.method ↔
    ∃ classification ∈ classified,
      classification.roles.disposesOnExit = true ∧ classification.method = method
  /-- Every entry is acquired once. -/
  complete : analysis.disposal.acquisitionOrder.Perm analysis.disposal.entries
  /-- The called producers come first, in the order of their first calls; the others follow in the
  order of their declarations. -/
  order : analysis.disposal.acquisitionOrder.map DisposalEntry.method =
    analysis.calledProducers.eraseDups ++
      (analysis.disposal.entries.filter fun entry =>
        !analysis.calledProducers.contains entry.method).map DisposalEntry.method
  /-- What no override calls is replaced on demand. -/
  uncalled : ∀ entry ∈ analysis.disposal.entries,
    entry.method ∉ analysis.calledProducers → entry.isAuto = true
  /-- The one list of releases is the acquisition order from its end. -/
  reversed : analysis.releaseLists =
    if analysis.disposal.entries = [] then []
    else [(analysis.disposal.acquisitionOrder.map DisposalEntry.resetName).reverse]
  /-- No release is listed twice. -/
  once : (analysis.disposal.acquisitionOrder.map DisposalEntry.resetName).Nodup

namespace TypeDecl

variable {decl : TypeDecl} {framework : Framework} {table : SymbolTable}

theorem isHook_or_isAutoDisposed {pass : Pass} {classification : Classification}
    (listed : classification ∈ decl.classifications framework table pass)
    (disposes : classification.roles.disposesOnExit = true) :
    classification.roles.isHook = true ∨ classification.roles.isAutoDisposed = true := by
  obtain ⟨member, -, -, -, roles_eq⟩ := exists_member_of_mem_classifications listed
  rw [roles_eq] at disposes ⊢
  cases updatable : framework.isUpdatable table member with
  | true => exact Or.inr updatable
  | false =>
      have called := (Framework.callsProducer_of_not_isUpdatable disposes updatable).1
      exact Or.inl (Framework.callsProducer_iff.mp called).1

/-- An entry that no override calls is replaced on demand. -/
theorem isAuto_of_not_mem_hooked {entry : DisposalEntry}
    (listed : entry ∈ (decl.disposalPlan framework table).entries)
    (uncalled : entry.method ∉ DisposalPlan.hooked
      (decl.classifications framework table .enterTree ++
        decl.classifications framework table .ready)) :
    entry.isAuto = true := by
  obtain ⟨first, found, rfl⟩ := DisposalPlan.mem_entriesOf.mp listed
  have classified := List.mem_of_find?_eq_some found
  have disposes := (DisposalPlan.tracked_of_find?_eq_some found).1
  have roles : first.roles.isHook = true ∨ first.roles.isAutoDisposed = true := by
    obtain enter | ready := List.mem_append.mp classified
    · exact isHook_or_isAutoDisposed enter disposes
    · exact isHook_or_isAutoDisposed ready disposes
  refine roles.resolve_left fun hook => uncalled ?_
  have tracked := DisposalPlan.mem_eligible.mpr ⟨classified, disposes⟩
  exact List.mem_map.mpr ⟨first, List.mem_filter.mpr ⟨tracked, hook⟩, rfl⟩

theorem nodup_resetNames (decl : TypeDecl) (framework : Framework) (table : SymbolTable) :
    ((decl.disposalPlan framework table).entries.map DisposalEntry.resetName).Nodup := by
  have distinct := DisposalPlan.nodup_methods_entriesOf decl
    (decl.classifications framework table .enterTree ++ decl.classifications framework table .ready)
  rw [List.Nodup, List.pairwise_map] at distinct ⊢
  exact distinct.imp fun apart same => apart (GeneratedName.reset_injective same)

/-- Every class releases its resources in the reverse of the order in which its overrides acquire
them. -/
theorem releasesInReverse_analyze (decl : TypeDecl) (framework : Framework) (table : SymbolTable)
    (marshalling : Bool) :
    ReleasesInReverse
      (decl.classifications framework table .enterTree ++
        decl.classifications framework table .ready)
      (decl.analyze framework table marshalling) where
  distinct := DisposalPlan.nodup_methods_entriesOf decl _
  tracked _ := DisposalPlan.mem_methods_entriesOf
  complete := decl.acquisitionOrder_disposalPlan_perm framework table
  order := by
    obtain ⟨called, called_eq, order_eq⟩ := DisposalPlan.exists_acquisitionOrder_merge decl
      (decl.classifications framework table .enterTree)
      (decl.classifications framework table .ready)
    rw [calledProducers_analyze, ← called_eq, ← List.map_append]
    exact congrArg (List.map DisposalEntry.method) order_eq
  uncalled entry listed uncalled := by
    rw [calledProducers_analyze] at uncalled
    exact isAuto_of_not_mem_hooked listed uncalled
  reversed := by
    rw [releaseLists_analyze, DisposalPlan.isEmpty, DisposalPlan.resets,
      DisposalPlan.disposalOrder_eq_reverse, List.map_reverse]
    simp only [List.isEmpty_iff]
    rfl
  once :=
    ((decl.acquisitionOrder_disposalPlan_perm framework table).map
      DisposalEntry.resetName).nodup_iff.mpr (nodup_resetNames decl framework table)

end TypeDecl
end NodeLifecycle
