import NodeLifecycle.Proofs.Lifecycle.DisposalPlan
import NodeLifecycle.Proofs.Lifecycle.PassModels

/-!
# Tracked producers

The plan of a class, its calls and its helpers are read off the members.  A name has an entry if
some member of that name is tracked on entering the tree or on being ready, and the first such
member decides whether the entry is replaced on demand.  In every pass, a call that creates a
resource is for a method with an entry.
-/

namespace NodeLifecycle

namespace GeneratedName

/-- Methods that differ are released by methods that differ, whichever of them are replaced on
demand. -/
theorem reset_injective {left right : String} {leftAuto rightAuto : Bool}
    (same : reset left leftAuto = reset right rightAuto) : left = right := by
  have letters := congrArg String.toList same
  cases leftAuto <;> cases rightAuto <;> simp [reset] at letters <;>
    exact String.toList_inj.mp letters

end GeneratedName

/-- The producers that entering the tree and being ready call, in the order of the calls. -/
def ClassAnalysis.calledProducers (analysis : ClassAnalysis) : List String :=
  (analysis.enterTree.calls ++ analysis.ready.calls).filterMap HookCall.producer?

namespace TypeDecl

variable {decl : TypeDecl} {framework : Framework} {table : SymbolTable} {pass : Pass}
  {plan : DisposalPlan} {method : String}

/-! ## Entries -/

theorem acquisitionOrder_disposalPlan_perm (decl : TypeDecl) (framework : Framework)
    (table : SymbolTable) :
    (decl.disposalPlan framework table).acquisitionOrder.Perm
      (decl.disposalPlan framework table).entries :=
  DisposalPlan.acquisitionOrder_merge_perm decl _ _

theorem disposalOrder_disposalPlan_perm (decl : TypeDecl) (framework : Framework)
    (table : SymbolTable) :
    (decl.disposalPlan framework table).disposalOrder.Perm
      (decl.disposalPlan framework table).entries :=
  (DisposalPlan.disposalOrder_perm _).trans
    (decl.acquisitionOrder_disposalPlan_perm framework table)

theorem exists_pass_of_mem_append {classification : Classification}
    (listed : classification ∈ decl.classifications framework table .enterTree ++
      decl.classifications framework table .ready) :
    ∃ pass, classification ∈ decl.classifications framework table pass := by
  obtain enter | ready := List.mem_append.mp listed
  · exact ⟨.enterTree, enter⟩
  · exact ⟨.ready, ready⟩

/-- The member that decides on the entry of a name. -/
def firstTracked? (decl : TypeDecl) (framework : Framework) (table : SymbolTable) (name : String) :
    Option Member :=
  (decl.members.find? fun member =>
    framework.tracks table .enterTree member && member.name == name).or
      (decl.members.find? fun member =>
        framework.tracks table .ready member && member.name == name)

theorem find?_classifications_append (decl : TypeDecl) (framework : Framework)
    (table : SymbolTable) (name : String) :
    ((decl.classifications framework table .enterTree ++
        decl.classifications framework table .ready).find? fun classification =>
          classification.roles.disposesOnExit && classification.method == name).map
            (fun first => first.roles.isAutoDisposed) =
      (decl.firstTracked? framework table name).map (framework.isUpdatable table) := by
  have by_pass (pass : Pass) :
      ((decl.classifications framework table pass).find? fun classification =>
        classification.roles.disposesOnExit && classification.method == name).map
          (fun first => first.roles.isAutoDisposed) =
      (decl.members.find? fun member =>
        framework.tracks table pass member && member.name == name).map
          (framework.isUpdatable table) := by
    have roles := congrArg (Option.map Roles.isAutoDisposed)
      (find?_classifications decl framework table pass name)
    rw [Option.map_map, Option.map_map] at roles
    exact roles
  rw [List.find?_append, Option.map_or, firstTracked?, Option.map_or]
  exact congrArg₂ Option.or (by_pass .enterTree) (by_pass .ready)

/-- An entry is replaced on demand exactly if the deciding member is. -/
theorem exists_firstTracked?_of_mem_entries {entry : DisposalEntry}
    (listed : entry ∈ (decl.disposalPlan framework table).entries) :
    ∃ first, decl.firstTracked? framework table entry.method = some first ∧
      entry.isAuto = framework.isUpdatable table first := by
  obtain ⟨classification, found, rfl⟩ := DisposalPlan.mem_entriesOf.mp listed
  have deciding := find?_classifications_append decl framework table classification.method
  rw [DisposalEntry.method_ofClassification] at found ⊢
  rw [found, Option.map_some] at deciding
  obtain ⟨first, first_eq, auto_eq⟩ := Option.map_eq_some_iff.mp deciding.symm
  exact ⟨first, first_eq, auto_eq.symm⟩

theorem isUpdatable_of_firstTracked? {first : Member}
    (found : decl.firstTracked? framework table method = some first) :
    framework.isUpdatable table first = framework.carries first.attributes .autoDispose := by
  have produced : framework.produces table first = true := by
    rw [firstTracked?, Option.or_eq_some_iff] at found
    obtain enter | ⟨-, ready⟩ := found
    · have tracked := List.find?_some enter
      rw [Bool.and_eq_true] at tracked
      exact Framework.produces_of_tracks tracked.1
    · have tracked := List.find?_some ready
      rw [Bool.and_eq_true] at tracked
      exact Framework.produces_of_tracks tracked.1
  rw [Framework.isUpdatable, produced, Bool.true_and]

theorem mem_methods_entries_iff :
    method ∈ (decl.disposalPlan framework table).entries.map DisposalEntry.method ↔
      (decl.firstTracked? framework table method).isSome = true := by
  have deciding := congrArg Option.isSome
    (find?_classifications_append decl framework table method)
  rw [Option.isSome_map, Option.isSome_map] at deciding
  rw [← deciding, List.find?_isSome]
  simp only [Bool.and_eq_true, beq_iff_eq]
  exact DisposalPlan.mem_methods_entriesOf

theorem exists_entry_of_tracks {member : Member} (declared : member ∈ decl.members)
    (tracked : framework.tracks table .enterTree member = true ∨
      framework.tracks table .ready member = true) :
    ∃ entry ∈ (decl.disposalPlan framework table).entries, entry.method = member.name := by
  rw [← List.mem_map, mem_methods_entries_iff, firstTracked?, Option.isSome_or, Bool.or_eq_true,
    List.find?_isSome, List.find?_isSome]
  refine tracked.imp ?_ ?_ <;>
    exact fun tracked => ⟨member, declared, by simp [tracked]⟩

/-- What is replaced on demand has an entry, even if no pass calls it. -/
theorem exists_entry_of_isUpdatable {member : Member} (declared : member ∈ decl.members)
    (updatable : framework.isUpdatable table member = true) :
    ∃ entry ∈ (decl.disposalPlan framework table).entries, entry.method = member.name :=
  exists_entry_of_tracks declared (Or.inl (Framework.tracks_of_isUpdatable updatable .enterTree))

/-- Whatever pass calls a producer, there is an entry for it. -/
theorem exists_entry_of_callsProducer {member : Member} (declared : member ∈ decl.members)
    (called : framework.callsProducer table pass member = true) :
    ∃ entry ∈ (decl.disposalPlan framework table).entries, entry.method = member.name := by
  have tracked := (Framework.callsProducer_iff.mp called).2
  cases pass with
  | enterTree => exact exists_entry_of_tracks declared (Or.inl tracked)
  | ready => exact exists_entry_of_tracks declared (Or.inr tracked)
  | exitTree =>
      exact exists_entry_of_isUpdatable declared
        (Framework.isUpdatable_of_tracks_of_not_allowsResources tracked rfl)

/-- Whatever pass creates a resource, there is an entry for its slot. -/
theorem exists_entry_of_mem_calls {call : HookCall}
    (listed : call ∈ (decl.lifecycleModel framework table pass).calls)
    (produced : call.producer? = some method) :
    ∃ entry ∈ (decl.disposalPlan framework table).entries, entry.method = method := by
  cases call with
  | initFromScene filled => cases produced
  | invoke invoked => cases produced
  | acquire acquired =>
      obtain ⟨member, declared, called, -, same⟩ := acquire_mem_calls_iff.mp listed
      rw [← Option.some.inj produced, ← same]
      exact exists_entry_of_callsProducer declared called
  | update updated =>
      obtain ⟨member, declared, -, updatable, same⟩ := update_mem_calls_iff.mp listed
      rw [← Option.some.inj produced, ← same]
      exact exists_entry_of_isUpdatable declared updatable
  | disposeAll => cases produced

theorem acquire_not_mem_calls_exitTree (method : String) :
    .acquire method ∉ (decl.lifecycleModel framework table .exitTree).calls := by
  intro listed
  obtain ⟨member, -, called, fixed, -⟩ := acquire_mem_calls_iff.mp listed
  have tracked := (Framework.callsProducer_iff.mp called).2
  rw [Framework.isUpdatable_of_tracks_of_not_allowsResources tracked rfl] at fixed
  cases fixed

/-! ## The producers that the overrides call -/

/-- The plan of a class takes exactly those producers to be called that the overrides call. -/
theorem calledProducers_analyze (decl : TypeDecl) (framework : Framework)
    (table : SymbolTable) (marshalling : Bool) :
    (decl.analyze framework table marshalling).calledProducers =
      DisposalPlan.hooked (decl.classifications framework table .enterTree ++
        decl.classifications framework table .ready) := by
  have enter := filterMap_producer?_calls decl framework table .enterTree
  have ready := filterMap_producer?_calls decl framework table .ready
  rw [← hooked_classifications] at enter ready
  rw [DisposalPlan.hooked, DisposalPlan.eligible, List.filter_append, List.filter_append,
    List.map_append, ClassAnalysis.calledProducers, List.filterMap_append]
  exact congrArg₂ (· ++ ·) enter ready

end TypeDecl
end NodeLifecycle
