import NodeLifecycle.Proofs.Framework.Resolution
import NodeLifecycle.Proofs.MethodTable.Arrangement
import NodeLifecycle.Proofs.Symbol.Growth

/-!
# What registering types keeps

Whatever a table says about base classes, about the kinds of values and about the methods that the
engine can call, it still says after more types have been registered, also if some of these were
mentioned and missing before.  Where no two types share a handle, this holds of interfaces too.
-/

namespace NodeLifecycle

private theorem filterMap_sublist_filterMap {α β : Type} {find find' : α → Option β}
    (kept : ∀ element result, find element = some result → find' element = some result)
    (elements : List α) : (elements.filterMap find).Sublist (elements.filterMap find') := by
  induction elements with
  | nil => exact List.Sublist.refl []
  | cons first rest ih =>
      rw [List.filterMap_cons, List.filterMap_cons]
      cases found : find first with
      | some result =>
          rw [kept first result found]
          exact ih.cons_cons result
      | none =>
          cases find' first with
          | none => exact ih
          | some result => exact ih.cons result

private theorem or_ite_of_imp {α : Type} {first : Option α} {second result : α}
    {narrow wide : Bool} (implies : narrow = true → wide = true)
    (found : first.or (if narrow then some second else none) = some result) :
    first.or (if wide then some second else none) = some result := by
  cases first with
  | some first => exact found
  | none =>
      rw [Option.none_or, Option.ite_none_right_eq_some] at found ⊢
      exact found.imp_left implies

namespace SymbolTable.Within

variable {framework : Framework} {table larger : SymbolTable} (within : table.Within larger)

include within

/-! ## Kinds of values -/

theorem isEngineObject {decl : TypeDecl} (object : framework.isEngineObject table decl = true) :
    framework.isEngineObject larger decl = true :=
  within.extendsClass object

theorem kindOfDecl? {decl : TypeDecl} {kind : VariantKind}
    (found : framework.kindOfDecl? table decl = some kind) :
    framework.kindOfDecl? larger decl = some kind := by
  rw [Framework.kindOfDecl?] at found ⊢
  cases shape : decl.kind with
  | enumType => rwa [shape] at found
  | structType => rwa [shape] at found
  | classType =>
      rw [shape] at found
      exact or_ite_of_imp within.isEngineObject found
  | interfaceType =>
      rw [shape] at found
      exact or_ite_of_imp within.isEngineObject found

theorem arrayKindOfDecl? {decl : TypeDecl} {kind : VariantKind}
    (found : framework.arrayKindOfDecl? table decl = some kind) :
    framework.arrayKindOfDecl? larger decl = some kind := by
  refine or_ite_of_imp ?_ found
  rw [Bool.and_eq_true, Bool.and_eq_true]
  exact And.imp_right within.isEngineObject

theorem arrayKind? {type : DeclaredType} {kind : VariantKind}
    (found : framework.arrayKind? table type = some kind) :
    framework.arrayKind? larger type = some kind := by
  cases type with
  | void nullable => exact found
  | builtin type nullable => exact found
  | array element rank nullable => exact found
  | named name nullable =>
      rw [Framework.arrayKind?, Option.bind_eq_some_iff] at found ⊢
      obtain ⟨decl, registered, found⟩ := found
      exact ⟨decl, within name decl registered, within.arrayKindOfDecl? found⟩

theorem variantKind? {type : DeclaredType} {kind : VariantKind}
    (found : framework.variantKind? table type = some kind) :
    framework.variantKind? larger type = some kind := by
  cases type with
  | void nullable => exact found
  | builtin type nullable => exact found
  | named name nullable =>
      rw [Framework.variantKind?, Option.bind_eq_some_iff] at found ⊢
      obtain ⟨decl, registered, found⟩ := found
      rw [Option.ite_none_left_eq_some] at found
      refine ⟨decl, within name decl registered, ?_⟩
      rw [Option.ite_none_left_eq_some]
      exact ⟨found.1, within.kindOfDecl? found.2⟩
  | array element rank nullable =>
      rw [Framework.variantKind?, Option.ite_none_right_eq_some] at found ⊢
      exact ⟨found.1, within.arrayKind? found.2⟩

/-! ## Entries -/

theorem resultKind? {type : DeclaredType} {kind : Option VariantKind}
    (found : framework.resultKind? table type = some kind) :
    framework.resultKind? larger type = some kind := by
  rw [Framework.resultKind?] at found ⊢
  split at found
  · rename_i isVoid
    rwa [if_pos isVoid]
  · rename_i value
    obtain ⟨known, mapped, rfl⟩ := Option.map_eq_some_iff.mp found
    rw [if_neg value, within.variantKind? mapped, Option.map_some]

theorem mapM_wireParameter? {params : List Parameter} {wired : List WireParameter}
    (found : params.mapM (framework.wireParameter? table) = some wired) :
    params.mapM (framework.wireParameter? larger) = some wired := by
  induction params generalizing wired with
  | nil => exact found
  | cons first rest ih =>
      rw [List.mapM_cons] at found ⊢
      obtain ⟨head, first_wired, remaining⟩ := Option.bind_eq_some_iff.mp found
      obtain ⟨tail, rest_wired, made⟩ := Option.bind_eq_some_iff.mp remaining
      obtain ⟨kind, mapped, rfl⟩ := Option.map_eq_some_iff.mp first_wired
      have first_kept : framework.wireParameter? larger first =
          some { name := first.name, type := first.type, kind } := by
        rw [Framework.wireParameter?, within.variantKind? mapped, Option.map_some]
      rw [first_kept, ih rest_wired]
      exact made

/-- A method that the engine can call keeps its entry. -/
theorem entryFor? {member : Member} {entry : MethodEntry}
    (found : framework.entryFor? table member = some entry) :
    framework.entryFor? larger member = some entry := by
  obtain ⟨signature, method, made⟩ := Option.bind_eq_some_iff.mp found
  rw [Framework.entryOfMethod?, Option.ite_none_right_eq_some] at made
  obtain ⟨returnKind, returned, mapped⟩ := Option.bind_eq_some_iff.mp made.2
  obtain ⟨params, wired, rfl⟩ := Option.map_eq_some_iff.mp mapped
  rw [Framework.entryFor?, method, Option.bind_some, Framework.entryOfMethod?, if_pos made.1,
    within.resultKind? returned, Option.bind_some, within.mapM_wireParameter? wired,
    Option.map_some]

end SymbolTable.Within

namespace MethodTable

/-- But for their numbers, the entries that stand for declared methods are those of the members. -/
theorem declared_build_perm (framework : Framework) (table : SymbolTable) (decl : TypeDecl)
    (overrides : List String) :
    (((build framework table decl overrides).entries.filter fun entry =>
        !entry.isSynthetic).map MethodEntry.unnumbered).Perm
      (decl.members.filterMap (framework.entryFor? table)) := by
  have sources := (isArranged_build framework table decl overrides).sources.filter
    fun entry => !entry.isSynthetic
  have methods : (decl.members.filterMap (framework.entryFor? table)).filter
      (fun entry => !entry.isSynthetic) = decl.members.filterMap (framework.entryFor? table) := by
    rw [List.filter_eq_self]
    intro entry listed
    obtain ⟨member, -, found⟩ := List.mem_filterMap.mp listed
    rw [(Framework.outline_of_entryFor?_eq_some found).2.2, Bool.not_false]
  have added (names : List String) :
      (names.map MethodEntry.synthetic).filter (fun entry => !entry.isSynthetic) = [] := by
    simp [MethodEntry.synthetic]
  rw [List.filter_append, methods, added, List.append_nil, List.filter_map] at sources
  exact sources

end MethodTable

/-- What is found out with the first table is found out with the second one as well. -/
structure SymbolTable.Grows (table larger : SymbolTable) : Prop where
  /-- A framework that resolves stays the same. -/
  resolved : ∀ names framework, Framework.resolve table names = .ok framework →
    Framework.resolve larger names = .ok framework
  /-- A base chain may only go on at its end. -/
  chain : ∀ name, table.baseChain name <+: larger.baseChain name
  /-- A class has the ancestors that it had. -/
  ancestor : ∀ name ancestor, table.extendsClass name ancestor = true →
    larger.extendsClass name ancestor = true
  /-- A type that crosses the boundary crosses it in the same way. -/
  kind : ∀ (framework : Framework) type kind, framework.variantKind? table type = some kind →
    framework.variantKind? larger type = some kind
  /-- A method that the engine can call keeps its entry. -/
  entry : ∀ (framework : Framework) member entry,
    framework.entryFor? table member = some entry → framework.entryFor? larger member = some entry
  /-- No declared method loses its entry in a table, whatever overrides are generated. -/
  declared : ∀ framework decl overrides otherOverrides,
    (((MethodTable.build framework table decl overrides).entries.filter fun entry =>
        !entry.isSynthetic).map MethodEntry.unnumbered).Subperm
      (((MethodTable.build framework larger decl otherOverrides).entries.filter fun entry =>
        !entry.isSynthetic).map MethodEntry.unnumbered)
  /-- Where no two types share a handle, a type implements what it implemented. -/
  interface : larger.DistinctHandles → ∀ name wanted,
    table.implementsInterface name wanted = true → larger.implementsInterface name wanted = true

namespace SymbolTable

/-- Registering types only ever adds to what a table says. -/
theorem grows_of_registerAll {table extended : SymbolTable} {decls : List TypeDecl}
    (registered : table.registerAll decls = .ok extended) : table.Grows extended := by
  have within := Within.of_registerAll registered
  refine ⟨fun names framework resolved => ?_, within.baseChain_prefix,
    fun name ancestor => within.extendsClass, fun framework type kind => within.variantKind?,
    fun framework member entry => within.entryFor?,
    fun framework decl overrides otherOverrides => ?_,
    fun distinct name wanted => within.implementsInterface distinct⟩
  · exact Framework.resolve_eq_ok_of_subset resolved within.names_subset
  · have kept : (decl.members.filterMap (framework.entryFor? table)).Sublist
        (decl.members.filterMap (framework.entryFor? extended)) :=
      filterMap_sublist_filterMap (fun member entry => within.entryFor?) decl.members
    have before := MethodTable.declared_build_perm framework table decl overrides
    have after := MethodTable.declared_build_perm framework extended decl otherOverrides
    exact (before.subperm.trans kept.subperm).trans after.symm.subperm

/-- The base class of a boss is missing at first.  When it is registered, the chain goes on behind
the boss, and what crossed the boundary before still does. -/
theorem grows_of_creature :
    let boss := classBelow "Boss" "Creature"
    let creature : TypeDecl :=
      { classBelow "Creature" "Node" with base := some FrameworkNames.standard.nodeClass }
    let table := game [boss] (by decide) (by decide)
    let larger := game [boss, creature] (by decide) (by decide)
    table.registerAll [creature] = .ok larger ∧ table.Grows larger ∧
      table.baseChain boss.name = [boss] ∧ creature ∈ larger.baseChain boss.name := by
  intro boss creature table larger
  have listed : larger.decls = table.decls ++ [creature] := by
    rw [decls_game, decls_game, List.append_assoc, List.singleton_append]
  have registered : table.registerAll [creature] = .ok larger :=
    registerAll_eq_ok_iff.mpr ⟨listed ▸ larger.nodup_map_name_decls, listed⟩
  exact ⟨registered, grows_of_registerAll registered, by decide +kernel, by decide +kernel⟩

end SymbolTable
end NodeLifecycle
