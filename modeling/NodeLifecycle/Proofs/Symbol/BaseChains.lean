import Mathlib.Data.List.Perm.Subperm
import NodeLifecycle.Proofs.Symbol.Listing
import NodeLifecycle.Symbol.Ancestry

/-!
# Base chains and ancestors

The base chain of a name visits every handle at most once, so it ends in every table, also in one
whose classes are below each other in a circle.  If no two types share a handle, the cut at a handle
that comes up again hides nothing: the chain holds exactly the ancestors, the nearer ones first.
-/

namespace NodeLifecycle
namespace SymbolTable

/-- No two registered types have the same handle. -/
def DistinctHandles (table : SymbolTable) : Prop :=
  (table.decls.map TypeDecl.fingerprint).Nodup

/-- A type is reached from a name in some number of steps, each to the declared base class.  The
type of the name itself and all types on the way are registered. -/
inductive AncestorAt (table : SymbolTable) (name : QualifiedName) : Nat → TypeDecl → Prop where
  | self {decl : TypeDecl} (found : table.get? name = some decl) : AncestorAt table name 0 decl
  | base {distance : Nat} {decl next : TypeDecl} {base : QualifiedName}
      (reached : AncestorAt table name distance decl) (declared : decl.base = some base)
      (found : table.get? base = some next) : AncestorAt table name (distance + 1) next

namespace AncestorAt

variable {table : SymbolTable} {name : QualifiedName} {distance : Nat} {decl : TypeDecl}

theorem mem_decls (reached : table.AncestorAt name distance decl) : decl ∈ table.decls := by
  cases reached with
  | self found => exact mem_decls_of_get?_eq_some found
  | base reached declared found => exact mem_decls_of_get?_eq_some found

theorem unique (reached : table.AncestorAt name distance decl) {other : TypeDecl}
    (also_reached : table.AncestorAt name distance other) : decl = other := by
  induction reached generalizing other with
  | self found =>
      cases also_reached with
      | self also_found => exact Option.some.inj (found.symm.trans also_found)
  | base reached declared found ih =>
      cases also_reached with
      | base also_reached also_declared also_found =>
          obtain rfl := ih also_reached
          obtain rfl := Option.some.inj (declared.symm.trans also_declared)
          exact Option.some.inj (found.symm.trans also_found)

theorem of_base {first : TypeDecl} {base : QualifiedName} (found : table.get? name = some first)
    (declared : first.base = some base) (reached : table.AncestorAt base distance decl) :
    table.AncestorAt name (distance + 1) decl := by
  induction reached with
  | self found_base => exact .base (.self found) declared found_base
  | base _ declared_next found_next ih => exact .base ih declared_next found_next

end AncestorAt

variable {table : SymbolTable}

theorem DistinctHandles.eq_of_fingerprint_eq (distinct : table.DistinctHandles)
    {left right : TypeDecl} (left_mem : left ∈ table.decls) (right_mem : right ∈ table.decls)
    (same : left.fingerprint = right.fingerprint) : left = right :=
  List.inj_on_of_nodup_map distinct left_mem right_mem same

/-! ## What a chain visits -/

/-- The type at each place of a chain is reached in as many steps. -/
theorem ancestorAt_of_getElem?_baseChainFrom {seen : List Fingerprint} {name : QualifiedName}
    {index : Nat} {decl : TypeDecl}
    (visited : (table.baseChainFrom seen name)[index]? = some decl) :
    table.AncestorAt name index decl := by
  induction seen, name using baseChainFrom.induct table generalizing index with
  | case1 seen name missing => simp [baseChainFrom_of_get?_eq_none missing] at visited
  | case2 seen name first found repeated => simp [baseChainFrom_of_mem found repeated] at visited
  | case3 seen name first found fresh ih =>
      rw [baseChainFrom_of_not_mem found fresh] at visited
      cases index with
      | zero =>
          obtain rfl : first = decl := by simpa using visited
          exact .self found
      | succ index =>
          cases declared : first.base with
          | none => simp [declared] at visited
          | some base =>
              refine .of_base found declared (ih base ?_)
              simpa [declared] using visited

/-- A chain visits no handle twice, and none that has come up before. -/
theorem nodup_append_baseChainFrom (seen : List Fingerprint) (name : QualifiedName) :
    ((table.baseChainFrom seen name).map TypeDecl.fingerprint).Nodup ∧
      ∀ decl ∈ table.baseChainFrom seen name, decl.fingerprint ∉ seen := by
  induction seen, name using baseChainFrom.induct table with
  | case1 seen name missing => simp [baseChainFrom_of_get?_eq_none missing]
  | case2 seen name first found repeated => simp [baseChainFrom_of_mem found repeated]
  | case3 seen name first found fresh ih =>
      rw [baseChainFrom_of_not_mem found fresh]
      cases declared : first.base with
      | none => simpa [declared] using fresh
      | some base =>
          obtain ⟨nodup, apart⟩ := ih base
          simp only [Option.toList_some, List.flatMap_singleton, List.map_cons, List.nodup_cons,
            List.forall_mem_cons]
          refine ⟨⟨?_, nodup⟩, fresh, fun decl visited old => ?_⟩
          · intro again
            obtain ⟨decl, visited, same⟩ := List.mem_map.mp again
            exact apart decl visited (same ▸ List.mem_cons_self)
          · exact apart decl visited (List.mem_cons_of_mem _ old)

theorem fingerprint_mem_of_base {seen : List Fingerprint} {name base : QualifiedName}
    {decl next : TypeDecl} (visited : decl ∈ table.baseChainFrom seen name)
    (declared : decl.base = some base) (found : table.get? base = some next) :
    next.fingerprint ∈ seen ++ (table.baseChainFrom seen name).map TypeDecl.fingerprint := by
  induction seen, name using baseChainFrom.induct table with
  | case1 seen name missing => simp [baseChainFrom_of_get?_eq_none missing] at visited
  | case2 seen name first found_first repeated =>
      simp [baseChainFrom_of_mem found_first repeated] at visited
  | case3 seen name first found_first fresh ih =>
      rw [baseChainFrom_of_not_mem found_first fresh] at visited ⊢
      rcases List.mem_cons.mp visited with rfl | later
      · -- the base class of the first type is where the rest of the chain starts
        by_cases repeated : next.fingerprint ∈ decl.fingerprint :: seen
        · rcases List.mem_cons.mp repeated with same | old
          · simp [same]
          · exact List.mem_append_left _ old
        · simp [declared, baseChainFrom_of_not_mem found repeated]
      · obtain ⟨start, first_base, later⟩ := List.mem_flatMap.mp later
        have known := ih start later
        rw [Option.mem_toList] at first_base
        rw [first_base, Option.toList_some, List.flatMap_singleton, List.map_cons]
        simp only [List.mem_append, List.mem_cons] at known ⊢
        tauto

/-- Without shared handles, the chain visits every ancestor. -/
theorem mem_baseChain_of_ancestorAt (distinct : table.DistinctHandles) {name : QualifiedName}
    {distance : Nat} {decl : TypeDecl} (reached : table.AncestorAt name distance decl) :
    decl ∈ table.baseChain name := by
  induction reached with
  | self found => exact List.mem_of_head? (head?_baseChain.trans found)
  | base reached declared found ih =>
      have known := fingerprint_mem_of_base ih declared found
      rw [List.nil_append] at known
      obtain ⟨visited, listed, same⟩ := List.mem_map.mp known
      obtain ⟨index, at_index⟩ := List.mem_iff_getElem?.mp listed
      have registered := (ancestorAt_of_getElem?_baseChainFrom at_index).mem_decls
      rwa [← distinct.eq_of_fingerprint_eq registered (mem_decls_of_get?_eq_some found) same]

theorem mem_baseChain_iff (distinct : table.DistinctHandles) {name : QualifiedName}
    {decl : TypeDecl} :
    decl ∈ table.baseChain name ↔ ∃ distance, table.AncestorAt name distance decl := by
  constructor
  · intro visited
    obtain ⟨index, at_index⟩ := List.mem_iff_getElem?.mp visited
    exact ⟨index, ancestorAt_of_getElem?_baseChainFrom at_index⟩
  · rintro ⟨distance, reached⟩
    exact mem_baseChain_of_ancestorAt distinct reached

theorem length_baseChain_le (table : SymbolTable) (name : QualifiedName) :
    (table.baseChain name).length ≤ table.size := by
  have nodup : (table.baseChain name).Nodup := (nodup_append_baseChainFrom [] name).1.of_map
  have registered : table.baseChain name ⊆ table.decls := by
    intro decl visited
    obtain ⟨index, at_index⟩ := List.mem_iff_getElem?.mp visited
    exact (ancestorAt_of_getElem?_baseChainFrom at_index).mem_decls
  rw [table.answersAs_decls.size_eq]
  exact (List.subperm_of_subset nodup registered).length_le

/-! ## Queries -/

theorem extendsClass_iff (distinct : table.DistinctHandles) {name : QualifiedName}
    {handle : Fingerprint} :
    table.extendsClass name handle = true ↔
      ∃ distance decl, table.AncestorAt name distance decl ∧ decl.fingerprint = handle := by
  simp only [extendsClass, List.any_eq_true, beq_iff_eq, mem_baseChain_iff distinct]
  exact ⟨fun ⟨decl, ⟨distance, reached⟩, same⟩ => ⟨distance, decl, reached, same⟩,
    fun ⟨distance, decl, reached, same⟩ => ⟨decl, ⟨distance, reached⟩, same⟩⟩

theorem exists_nearest_of_find?_baseChain {name : QualifiedName} {wanted : TypeDecl → Bool}
    {decl : TypeDecl} (first : (table.baseChain name).find? wanted = some decl) :
    ∃ distance, table.AncestorAt name distance decl ∧ wanted decl = true ∧
      ∀ nearer < distance, ∀ other, table.AncestorAt name nearer other → wanted other = false := by
  obtain ⟨hit, index, inside, rfl, missed⟩ := List.find?_eq_some_iff_getElem.mp first
  refine ⟨index, ancestorAt_of_getElem?_baseChainFrom (List.getElem?_eq_getElem inside), hit,
    fun nearer before other reached => ?_⟩
  have visited := ancestorAt_of_getElem?_baseChainFrom
    (List.getElem?_eq_getElem (Nat.lt_trans before inside))
  rw [reached.unique visited]
  simpa using missed nearer before

/-- Without shared handles, it is the nearest of all ancestors that have the property. -/
theorem find?_baseChain_eq_some_iff (distinct : table.DistinctHandles) {name : QualifiedName}
    {wanted : TypeDecl → Bool} {decl : TypeDecl} :
    (table.baseChain name).find? wanted = some decl ↔
      ∃ distance, table.AncestorAt name distance decl ∧ wanted decl = true ∧
        ∀ nearer < distance, ∀ other, table.AncestorAt name nearer other →
          wanted other = false := by
  refine ⟨exists_nearest_of_find?_baseChain, ?_⟩
  rintro ⟨distance, reached, hit, nearest⟩
  cases first : (table.baseChain name).find? wanted with
  | none =>
      have missed := List.find?_eq_none.mp first decl
        (mem_baseChain_of_ancestorAt distinct reached)
      exact absurd hit missed
  | some other =>
      obtain ⟨place, other_reached, other_hit, other_nearest⟩ :=
        exists_nearest_of_find?_baseChain first
      rcases Nat.lt_trichotomy place distance with closer | rfl | farther
      · rw [nearest place closer other other_reached] at other_hit
        cases other_hit
      · rw [other_reached.unique reached]
      · rw [other_nearest distance farther decl reached] at hit
        cases hit

theorem find?_baseChain_eq_none_iff (distinct : table.DistinctHandles) {name : QualifiedName}
    {wanted : TypeDecl → Bool} :
    (table.baseChain name).find? wanted = none ↔
      ∀ distance decl, table.AncestorAt name distance decl → wanted decl = false := by
  simp only [List.find?_eq_none, Bool.not_eq_true, mem_baseChain_iff distinct, forall_exists_index]
  exact forall_comm

/-- Base chains end in every table, after as many types at most as are registered and without a
repeated handle.  If no two types share a handle, the queries on them are about the ancestors of a
name, however far they are and whether or not bases are missing or go round in a circle. -/
theorem baseChain_visits_ancestors (table : SymbolTable) :
    (∀ name, ((table.baseChain name).map TypeDecl.fingerprint).Nodup ∧
      (table.baseChain name).length ≤ table.size) ∧
    (table.DistinctHandles → ∀ name,
      (∀ handle, table.extendsClass name handle = true ↔
        ∃ distance decl, table.AncestorAt name distance decl ∧ decl.fingerprint = handle) ∧
      ∀ assembly namespaceText,
        (∀ decl, table.firstBaseIn? name assembly namespaceText = some decl ↔
          ∃ distance, table.AncestorAt name distance decl ∧
            decl.livesIn assembly namespaceText = true ∧
            ∀ nearer < distance, ∀ other, table.AncestorAt name nearer other →
              other.livesIn assembly namespaceText = false) ∧
        (table.firstBaseIn? name assembly namespaceText = none ↔
          ∀ distance decl, table.AncestorAt name distance decl →
            decl.livesIn assembly namespaceText = false)) := by
  refine ⟨fun name => ⟨(nodup_append_baseChainFrom [] name).1, length_baseChain_le table name⟩,
    fun distinct name => ⟨fun handle => extendsClass_iff distinct, fun assembly text => ?_⟩⟩
  exact ⟨fun decl => find?_baseChain_eq_some_iff distinct, find?_baseChain_eq_none_iff distinct⟩

def classBelow (name base : String) : TypeDecl :=
  { TypeDecl.referenced ⟨name, ["Game"]⟩ .classType "Game" with base := some ⟨base, ["Game"]⟩ }

/-- Three classes are below each other in a circle, and the base class of a fourth is missing.  Each
of the three is an ancestor of the first one, and the fourth is not. -/
theorem baseChain_visits_circle :
    let first : QualifiedName := ⟨"First", ["Game"]⟩
    let table := empty.registerEach
      [classBelow "First" "Second", classBelow "Second" "Third", classBelow "Third" "First",
        classBelow "Fourth" "Missing"]
    table.DistinctHandles ∧
      (∀ decl ∈ [classBelow "First" "Second", classBelow "Third" "First"],
        ∃ distance ancestor, table.AncestorAt first distance ancestor ∧
          ancestor.fingerprint = decl.fingerprint) ∧
      (¬∃ distance ancestor, table.AncestorAt first distance ancestor ∧
        ancestor.fingerprint = (classBelow "Fourth" "Missing").fingerprint) ∧
      ∃ distance, table.AncestorAt first distance (classBelow "First" "Second") ∧
        (classBelow "First" "Second").livesIn "Game" "Game" = true ∧
        ∀ nearer < distance, ∀ other, table.AncestorAt first nearer other →
          other.livesIn "Game" "Game" = false := by
  intro first table
  have distinct : table.DistinctHandles := by
    rw [DistinctHandles]
    decide +kernel
  obtain ⟨extends_iff, nearest⟩ := (baseChain_visits_ancestors table).2 distinct first
  refine ⟨distinct, ?_, ?_, ((nearest "Game" "Game").1 _).mp (by decide +kernel)⟩
  · simp only [List.forall_mem_cons, List.not_mem_nil, false_implies, implies_true, and_true]
    exact ⟨(extends_iff _).mp (by decide +kernel), (extends_iff _).mp (by decide +kernel)⟩
  · exact mt (extends_iff _).mpr (by decide +kernel)

end SymbolTable
end NodeLifecycle
