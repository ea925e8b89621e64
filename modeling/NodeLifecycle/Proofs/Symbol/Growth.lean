import NodeLifecycle.Proofs.Symbol.InterfaceSearch

/-!
# Growing tables

Registering types changes nothing about the names that are known.  A search that found its way
through a table finds the same way through a larger one: a base chain may only go on where its last
base was missing, and what an interface search reaches stays in reach.
-/

namespace NodeLifecycle
namespace SymbolTable

theorem registerAll_eq_ok_iff {table extended : SymbolTable} {decls : List TypeDecl} :
    table.registerAll decls = .ok extended ↔
      ((table.decls ++ decls).map TypeDecl.name).Nodup ∧
        extended.decls = table.decls ++ decls := by
  induction decls generalizing table with
  | nil =>
      rw [registerAll, List.foldlM_nil, List.append_nil, and_iff_right table.nodup_map_name_decls]
      exact ⟨fun same => by cases same; rfl, fun listed => by rw [eq_of_decls_eq listed]; rfl⟩
  | cons decl rest ih =>
      have split : table.decls ++ decl :: rest = table.decls ++ [decl] ++ rest :=
        List.append_cons _ _ _
      by_cases known : decl.name ∈ table.names
      · rw [registerAll, List.foldlM_cons, register_of_mem known]
        refine iff_of_false (nomatch ·) fun registered => ?_
        obtain ⟨-, -, apart⟩ := List.nodup_append.mp (List.map_append ▸ registered.1)
        rw [map_name_decls] at apart
        exact apart _ known _ (List.mem_map_of_mem List.mem_cons_self) rfl
      · have first := register_of_not_mem known
        have listed := (register_eq_ok_iff.mp first).2
        have step : table.registerAll (decl :: rest) =
            (table.insert decl known).registerAll rest := by
          rw [registerAll, List.foldlM_cons, first]
          rfl
        rw [step, ih, listed, ← split]

/-- A table finds everything that another one does. -/
def Within (table larger : SymbolTable) : Prop :=
  ∀ name decl, table.get? name = some decl → larger.get? name = some decl

namespace Within

theorem of_registerAll {table extended : SymbolTable} {decls : List TypeDecl}
    (registered : table.registerAll decls = .ok extended) : table.Within extended := by
  intro name decl found
  rw [get?_eq_find?] at found ⊢
  rw [(registerAll_eq_ok_iff.mp registered).2, List.find?_append, found, Option.some_or]

variable {table larger : SymbolTable} (within : table.Within larger)

include within

theorem names_subset : table.names ⊆ larger.names := by
  intro name listed
  by_contra missing
  cases found : table.get? name with
  | none => exact get?_eq_none_iff.mp found listed
  | some decl =>
      have kept := within name decl found
      rw [get?_eq_none_iff.mpr missing] at kept
      cases kept

theorem decls_subset : table.decls ⊆ larger.decls := fun decl listed =>
  mem_decls_iff.mpr (within decl.name decl (mem_decls_iff.mp listed))

theorem distinctHandles (distinct : larger.DistinctHandles) : table.DistinctHandles := by
  refine List.Nodup.map_on ?_ table.nodup_map_name_decls.of_map
  intro left left_listed right right_listed same
  exact distinct.eq_of_fingerprint_eq (within.decls_subset left_listed)
    (within.decls_subset right_listed) same

/-! ## Base chains -/

/-- Among more types, a chain begins as it was. -/
theorem baseChainFrom_prefix (seen : List Fingerprint) (name : QualifiedName) :
    table.baseChainFrom seen name <+: larger.baseChainFrom seen name := by
  induction seen, name using baseChainFrom.induct table with
  | case1 seen name missing =>
      rw [baseChainFrom_of_get?_eq_none missing]
      exact List.nil_prefix
  | case2 seen name decl found repeated =>
      rw [baseChainFrom_of_mem found repeated]
      exact List.nil_prefix
  | case3 seen name decl found fresh ih =>
      -- both chains have passed the same handles, so neither stops before the other here
      rw [baseChainFrom_of_not_mem found fresh,
        baseChainFrom_of_not_mem (within name decl found) fresh, List.prefix_cons_inj]
      cases decl.base with
      | none => exact List.prefix_rfl
      | some base =>
          rw [Option.toList_some, List.flatMap_singleton, List.flatMap_singleton]
          exact ih base

theorem baseChain_prefix (name : QualifiedName) :
    table.baseChain name <+: larger.baseChain name :=
  within.baseChainFrom_prefix [] name

theorem extendsClass {name : QualifiedName} {ancestor : Fingerprint}
    (reached : table.extendsClass name ancestor = true) :
    larger.extendsClass name ancestor = true := by
  rw [SymbolTable.extendsClass, List.any_eq_true] at reached ⊢
  obtain ⟨decl, visited, same⟩ := reached
  exact ⟨decl, (within.baseChain_prefix name).subset visited, same⟩

/-! ## Interfaces -/

theorem ancestorAt {name : QualifiedName} {distance : Nat} {decl : TypeDecl}
    (reached : table.AncestorAt name distance decl) : larger.AncestorAt name distance decl := by
  induction reached with
  | self found => exact .self (within _ _ found)
  | base _ declared found ih => exact .base ih declared (within _ _ found)

theorem listsInterface {decl next : TypeDecl} (listed : table.ListsInterface decl next) :
    larger.ListsInterface decl next := by
  obtain ⟨name, declared, found⟩ := listed
  exact ⟨name, declared, within name next found⟩

theorem implements {name : QualifiedName} {wanted : Fingerprint}
    (reached : table.Implements name wanted) : larger.Implements name wanted := by
  obtain ⟨distance, ancestor, target, above, listed, same⟩ := reached
  exact ⟨distance, ancestor, target, within.ancestorAt above,
    Relation.ReflTransGen.mono (fun _ _ => within.listsInterface) _ _ listed, same⟩

/-- Without shared handles, a search that succeeds does so among more types too. -/
theorem implementsInterface (distinct : larger.DistinctHandles) {name : QualifiedName}
    {wanted : Fingerprint} (found : table.implementsInterface name wanted = true) :
    larger.implementsInterface name wanted = true := by
  rw [implementsInterface_iff (within.distinctHandles distinct)] at found
  rw [implementsInterface_iff distinct]
  exact within.implements found

end Within
end SymbolTable
end NodeLifecycle
