import Mathlib.Data.List.Basic
import NodeLifecycle.Proofs.FirstOccurrences
import NodeLifecycle.Symbol.Ancestry

/-!
# Tables that agree

A search looks at the name, the kind, the assembly and the parents of the types that it comes
across, and at nothing else.  Two tables that agree on these for a set of names which contains the
parents of its types answer every search that starts in the set alike, whatever order they list
their types in and whatever else the types hold.
-/

namespace NodeLifecycle

/-- What searches look at in a type. -/
structure TypeOutline where
  /-- The type's name. -/
  name : QualifiedName
  /-- The kind of type. -/
  kind : TypeKind
  /-- The assembly that holds the type. -/
  assembly : String
  /-- The base class. -/
  base : Option QualifiedName
  /-- The interfaces that are listed on the declaration. -/
  interfaces : List QualifiedName
deriving DecidableEq

def TypeDecl.outline (decl : TypeDecl) : TypeOutline where
  name := decl.name
  kind := decl.kind
  assembly := decl.assembly
  base := decl.base
  interfaces := decl.interfaces

theorem TypeDecl.fingerprint_eq_of_outline_eq {left right : TypeDecl}
    (same : left.outline = right.outline) : left.fingerprint = right.fingerprint :=
  congrArg (fun outline => outline.name.fingerprint) same

theorem TypeDecl.livesIn_eq_of_outline_eq {left right : TypeDecl}
    (same : left.outline = right.outline) (assembly namespaceText : String) :
    left.livesIn assembly namespaceText = right.livesIn assembly namespaceText :=
  congrArg (fun outline : TypeOutline =>
    outline.assembly == assembly && outline.name.livesIn namespaceText) same

/-- The base class and the interfaces of a type. -/
def TypeDecl.parents (decl : TypeDecl) : List QualifiedName :=
  decl.base.toList ++ decl.interfaces

namespace SymbolTable

/-- Two tables agree on a set of names that contains the parents of its types. -/
structure AgreeOn (left right : SymbolTable) (known : QualifiedName → Prop) : Prop where
  /-- A known name is registered in both tables with the same outline, or in neither. -/
  outline_eq : ∀ name, known name →
    (left.get? name).map TypeDecl.outline = (right.get? name).map TypeDecl.outline
  /-- The parents of known types are known. -/
  closed : ∀ name decl, known name → left.get? name = some decl →
    ∀ parent ∈ decl.parents, known parent

namespace AgreeOn

variable {left right : SymbolTable} {known : QualifiedName → Prop}
  (agree : left.AgreeOn right known)

include agree

theorem get?_eq_none {name : QualifiedName} (start : known name) (missing : left.get? name = none) :
    right.get? name = none := by
  have same := agree.outline_eq name start
  rw [missing, Option.map_none] at same
  exact Option.map_eq_none_iff.mp same.symm

theorem exists_get?_eq_some {name : QualifiedName} {decl : TypeDecl} (start : known name)
    (found : left.get? name = some decl) :
    ∃ other, right.get? name = some other ∧ decl.outline = other.outline := by
  have same := agree.outline_eq name start
  rw [found, Option.map_some] at same
  obtain ⟨other, other_found, outlined⟩ := Option.map_eq_some_iff.mp same.symm
  exact ⟨other, other_found, outlined.symm⟩

/-- What is asked about a known name has the same answer if it depends on the outline only. -/
theorem bind_get?_eq {α : Type} {name : QualifiedName} (start : known name)
    {answer other_answer : TypeDecl → Option α}
    (same : ∀ decl other, decl.name = name → decl.outline = other.outline →
      answer decl = other_answer other) :
    (left.get? name).bind answer = (right.get? name).bind other_answer := by
  cases found : left.get? name with
  | none => rw [agree.get?_eq_none start found]; rfl
  | some decl =>
      obtain ⟨other, other_found, outlined⟩ := agree.exists_get?_eq_some start found
      rw [other_found]
      exact same decl other (name_eq_of_get?_eq_some found) outlined

/-! ## Base chains -/

theorem known_of_mem_baseChainFrom {seen : List Fingerprint} {name : QualifiedName}
    (start : known name) {decl : TypeDecl} (listed : decl ∈ left.baseChainFrom seen name) :
    known decl.name := by
  induction seen, name using baseChainFrom.induct left with
  | case1 seen name missing => simp [baseChainFrom_of_get?_eq_none missing] at listed
  | case2 seen name first found repeated =>
      simp [baseChainFrom_of_mem found repeated] at listed
  | case3 seen name first found fresh induction =>
      rw [baseChainFrom_of_not_mem found fresh, List.mem_cons, List.mem_flatMap] at listed
      rcases listed with rfl | ⟨base, declared, later⟩
      · rwa [name_eq_of_get?_eq_some found]
      · exact induction base
          (agree.closed name first start found base (List.mem_append_left _ declared)) later

theorem map_outline_baseChainFrom (seen : List Fingerprint) {name : QualifiedName}
    (start : known name) :
    (left.baseChainFrom seen name).map TypeDecl.outline =
      (right.baseChainFrom seen name).map TypeDecl.outline := by
  induction seen, name using baseChainFrom.induct left with
  | case1 seen name missing =>
      rw [baseChainFrom_of_get?_eq_none missing,
        baseChainFrom_of_get?_eq_none (agree.get?_eq_none start missing)]
  | case2 seen name decl found repeated =>
      obtain ⟨other, other_found, outlined⟩ := agree.exists_get?_eq_some start found
      have handles := TypeDecl.fingerprint_eq_of_outline_eq outlined
      rw [baseChainFrom_of_mem found repeated,
        baseChainFrom_of_mem other_found (handles ▸ repeated)]
  | case3 seen name decl found fresh induction =>
      obtain ⟨other, other_found, outlined⟩ := agree.exists_get?_eq_some start found
      have handles := TypeDecl.fingerprint_eq_of_outline_eq outlined
      have bases : decl.base = other.base := congrArg TypeOutline.base outlined
      rw [baseChainFrom_of_not_mem found fresh,
        baseChainFrom_of_not_mem other_found (handles ▸ fresh), List.map_cons, List.map_cons,
        outlined, ← bases, ← handles, List.map_flatMap, List.map_flatMap]
      congr 1
      apply List.flatMap_congr
      intro base declared
      exact induction base
        (agree.closed name decl start found base (List.mem_append_left _ declared))

theorem map_outline_baseChain {name : QualifiedName} (start : known name) :
    (left.baseChain name).map TypeDecl.outline = (right.baseChain name).map TypeDecl.outline :=
  agree.map_outline_baseChainFrom [] start

theorem extendsClass_eq {name : QualifiedName} (start : known name) (ancestor : Fingerprint) :
    left.extendsClass name ancestor = right.extendsClass name ancestor := by
  have outlined (table : SymbolTable) : table.extendsClass name ancestor =
      ((table.baseChain name).map TypeDecl.outline).any fun outline =>
        outline.name.fingerprint == ancestor := by
    rw [List.any_map]
    rfl
  rw [outlined, outlined, agree.map_outline_baseChain start]

theorem map_name_firstBaseIn? {name : QualifiedName} (start : known name)
    (assembly namespaceText : String) :
    (left.firstBaseIn? name assembly namespaceText).map TypeDecl.name =
      (right.firstBaseIn? name assembly namespaceText).map TypeDecl.name := by
  have outlined (table : SymbolTable) :
      (table.firstBaseIn? name assembly namespaceText).map TypeDecl.name =
        (((table.baseChain name).map TypeDecl.outline).find? fun outline =>
          outline.assembly == assembly && outline.name.livesIn namespaceText).map
            TypeOutline.name := by
    rw [List.find?_map, Option.map_map]
    rfl
  rw [outlined, outlined, agree.map_outline_baseChain start]

/-! ## Interfaces -/

theorem reachesInterface_eq (wanted : Fingerprint) (seen : List Fingerprint)
    {waiting : List QualifiedName} (start : ∀ name ∈ waiting, known name) :
    left.reachesInterface wanted seen waiting = right.reachesInterface wanted seen waiting := by
  induction seen, waiting using reachesInterface.induct left wanted with
  | case1 seen => rw [reachesInterface, reachesInterface]
  | case2 seen name rest missing induction =>
      obtain ⟨first, others⟩ := List.forall_mem_cons.mp start
      rw [reachesInterface_cons_of_get?_eq_none missing,
        reachesInterface_cons_of_get?_eq_none (agree.get?_eq_none first missing),
        induction others]
  | case3 seen name rest decl found hit =>
      obtain ⟨first, -⟩ := List.forall_mem_cons.mp start
      obtain ⟨other, other_found, outlined⟩ := agree.exists_get?_eq_some first found
      have handles := TypeDecl.fingerprint_eq_of_outline_eq outlined
      rw [reachesInterface_cons_of_get?_eq_some found,
        reachesInterface_cons_of_get?_eq_some other_found, if_pos hit, if_pos (handles ▸ hit)]
  | case4 seen name rest decl found missed repeated induction =>
      obtain ⟨first, others⟩ := List.forall_mem_cons.mp start
      obtain ⟨other, other_found, outlined⟩ := agree.exists_get?_eq_some first found
      have handles := TypeDecl.fingerprint_eq_of_outline_eq outlined
      rw [reachesInterface_cons_of_get?_eq_some found,
        reachesInterface_cons_of_get?_eq_some other_found, ← handles, if_neg missed,
        if_neg missed, if_pos repeated, if_pos repeated, induction others]
  | case5 seen name rest decl found missed fresh induction =>
      obtain ⟨first, others⟩ := List.forall_mem_cons.mp start
      obtain ⟨other, other_found, outlined⟩ := agree.exists_get?_eq_some first found
      have handles := TypeDecl.fingerprint_eq_of_outline_eq outlined
      have listed : decl.interfaces = other.interfaces :=
        congrArg TypeOutline.interfaces outlined
      rw [reachesInterface_cons_of_get?_eq_some found,
        reachesInterface_cons_of_get?_eq_some other_found, ← handles, ← listed, if_neg missed,
        if_neg missed, if_neg fresh, if_neg fresh]
      apply induction
      intro next waiting
      rcases List.mem_append.mp waiting with interface | later
      · exact agree.closed name decl first found next
          (List.mem_append_right _ (List.mem_reverse.mp interface))
      · exact others next later

theorem implementsInterface_eq {name : QualifiedName} (start : known name)
    (wanted : Fingerprint) :
    left.implementsInterface name wanted = right.implementsInterface name wanted := by
  have chained (table : SymbolTable) : (table.baseChain name).map TypeDecl.name =
      ((table.baseChain name).map TypeDecl.outline).map TypeOutline.name := by
    rw [List.map_map]
    rfl
  rw [implementsInterface, implementsInterface, chained right,
    ← agree.map_outline_baseChain start, ← chained]
  apply agree.reachesInterface_eq
  intro ancestor waiting
  obtain ⟨decl, listed, rfl⟩ := List.mem_map.mp (List.mem_reverse.mp waiting)
  exact agree.known_of_mem_baseChainFrom start listed

end AgreeOn

/-! ## Tables with the same hierarchy -/

/-- The same names are registered, each with the same kind, assembly, base and interfaces.  Nothing
is asked of the order of registration and of the rest of the declarations. -/
def SameHierarchy (left right : SymbolTable) : Prop :=
  ∀ name, (left.get? name).map TypeDecl.outline = (right.get? name).map TypeDecl.outline

theorem SameHierarchy.agreeOn {left right : SymbolTable} (same : left.SameHierarchy right) :
    left.AgreeOn right fun _ => True where
  outline_eq name _ := same name
  closed _ _ _ _ _ _ := trivial

theorem map_outline_get?_eq_some_iff {table : SymbolTable} {name : QualifiedName}
    {outline : TypeOutline} :
    (table.get? name).map TypeDecl.outline = some outline ↔
      outline ∈ table.decls.map TypeDecl.outline ∧ outline.name = name := by
  have distinct : ((table.decls.map TypeDecl.outline).map TypeOutline.name).Nodup := by
    rw [List.map_map]
    exact table.nodup_map_name_decls
  rw [← FirstOccurrences.find?_eq_some_iff_of_nodup distinct, List.find?_map, get?_eq_find?]
  rfl

/-- The order in which types are registered does not matter. -/
theorem sameHierarchy_of_perm {left right : SymbolTable}
    (permuted : (left.decls.map TypeDecl.outline).Perm (right.decls.map TypeDecl.outline)) :
    left.SameHierarchy right := by
  intro name
  apply Option.ext
  intro outline
  rw [map_outline_get?_eq_some_iff, map_outline_get?_eq_some_iff, permuted.mem_iff]

end SymbolTable
end NodeLifecycle
