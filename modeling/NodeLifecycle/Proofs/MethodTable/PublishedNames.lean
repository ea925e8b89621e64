import NodeLifecycle.Proofs.MethodTable.Arrangement

/-!
# Published names

A table publishes each name of its entries once, in the order of identifiers.  The order is strict
and total, so the published list is determined by the set of names.  The entries of a table that was
built are in the same order already, and the list is what remains of their names without
repetitions.
-/

namespace NodeLifecycle

/-- A comparison puts every text in a place of its own, in one line, and leaves nothing else between
texts that differ in the case of ASCII letters only. -/
structure IdentifierOrder.IsStrictTotal (compare : String → String → Ordering) : Prop where
  /-- Only equal texts are in the same place. -/
  eq_iff : ∀ left right, compare left right = .eq ↔ left = right
  /-- Swapping the texts turns the answer around. -/
  swapped : ∀ left right, compare right left = (compare left right).swap
  /-- What comes before an earlier text comes before a later one. -/
  trans : ∀ first second third, compare first second = .lt → compare second third = .lt →
    compare first third = .lt
  /-- What stands between two texts that differ in case only differs from them in case only. -/
  together : ∀ left between right, Attribute.sameUpToCase left right = true →
    compare left between = .lt → compare between right = .lt →
      Attribute.sameUpToCase left between = true

theorem IdentifierOrder.sameUpToCase_iff {left right : String} :
    Attribute.sameUpToCase left right = true ↔ compareFolded left right = .eq := by
  rw [Attribute.sameUpToCase, beq_iff_eq, compareFolded_eq_iff]

theorem IdentifierOrder.isStrictTotal_compare : IsStrictTotal compare where
  eq_iff _ _ := Std.LawfulEqCmp.compare_eq_iff_eq
  swapped _ _ := Std.OrientedCmp.eq_swap
  trans _ _ _ := Std.TransCmp.lt_trans
  together left between right same after_left before_right := by
    rw [sameUpToCase_iff] at same ⊢
    exact compareFolded_eq_of_between same after_left before_right

namespace MethodTable

/-- What a table publishes of its entries. -/
structure PublishesNames (methods : MethodTable) : Prop where
  /-- Each name comes before all that follow. -/
  increasing : methods.methodNames.Pairwise fun left right =>
    IdentifierOrder.compare left right = .lt
  /-- The names are those of the entries. -/
  complete : ∀ name, name ∈ methods.methodNames ↔ ∃ entry ∈ methods.entries, entry.name = name
  /-- Tables publish the same list exactly if they have the same set of names. -/
  determined : ∀ other : MethodTable, other.methodNames = methods.methodNames ↔
    ∀ name, (∃ entry ∈ other.entries, entry.name = name) ↔
      ∃ entry ∈ methods.entries, entry.name = name

theorem pairwise_methodNames (methods : MethodTable) :
    methods.methodNames.Pairwise fun left right => IdentifierOrder.compare left right = .lt :=
  IdentifierOrder.pairwise_sort (FirstOccurrences.nodup_eraseDups _)

theorem publishesNames (methods : MethodTable) : methods.PublishesNames where
  increasing := methods.pairwise_methodNames
  complete _ := mem_methodNames
  determined other := by
    simp only [← mem_methodNames]
    constructor
    · intro same name
      rw [same]
    · exact IdentifierOrder.eq_of_pairwise other.pairwise_methodNames methods.pairwise_methodNames

theorem methodNames_build (framework : Framework) (table : SymbolTable) (decl : TypeDecl)
    (overrides : List String) :
    (build framework table decl overrides).methodNames =
      ((build framework table decl overrides).entries.map MethodEntry.name).eraseDups := by
  have sorted : ((build framework table decl overrides).entries.map MethodEntry.name).Pairwise
      fun left right => IdentifierOrder.le left right = true :=
    List.pairwise_map.mpr (sorted_sortByName _)
  have increasing := IdentifierOrder.pairwise_lt_of_nodup
    (sorted.sublist (FirstOccurrences.eraseDups_sublist _)) (FirstOccurrences.nodup_eraseDups _)
  refine IdentifierOrder.eq_of_pairwise (pairwise_methodNames _) increasing fun name => ?_
  rw [mem_methodNames, List.mem_eraseDups, List.mem_map]

/-- The order of identifiers is strict and total, and every table publishes its names in it.  A
table that was built has its entries in this order. -/
theorem publishes_in_order :
    IdentifierOrder.IsStrictTotal IdentifierOrder.compare ∧
      (∀ methods : MethodTable, methods.PublishesNames) ∧
      ∀ (framework : Framework) (table : SymbolTable) (decl : TypeDecl) (overrides : List String),
        (build framework table decl overrides).methodNames =
          ((build framework table decl overrides).entries.map MethodEntry.name).eraseDups :=
  ⟨IdentifierOrder.isStrictTotal_compare, publishesNames, methodNames_build⟩

end MethodTable
end NodeLifecycle
