import NodeLifecycle.Symbol.SymbolTable

/-!
# Base classes and interfaces

The base chain of a type follows base classes until one is not registered or a handle comes up a
second time.  The interface search starts from the whole base chain and follows interface lists.
Both end on every table: each step either uses up a registered handle or shortens the work list.
-/

namespace NodeLifecycle
namespace SymbolTable

/-! ## What the searches use up -/

/-- The registered types whose handles are not in the list. -/
def unseen (table : SymbolTable) (seen : List Fingerprint) : List TypeDecl :=
  table.decls.filter fun decl => !seen.contains decl.fingerprint

/-- The number of steps that the unseen types can still cause: one for each of them and one for each
of their interfaces. -/
def pendingWork (table : SymbolTable) (seen : List Fingerprint) : Nat :=
  ((table.unseen seen).flatMap fun decl => decl.name :: decl.interfaces).length

private theorem length_flatMap_filter_le {α β : Type} (parts : α → List β) (keep : α → Bool)
    (wholes : List α) :
    ((wholes.filter keep).flatMap parts).length ≤ (wholes.flatMap parts).length := by
  induction wholes with
  | nil => exact Nat.le_refl _
  | cons first rest ih =>
      rw [List.flatMap_cons, List.length_append, List.filter_cons]
      split
      · rw [List.flatMap_cons, List.length_append]
        exact Nat.add_le_add_left ih _
      · exact Nat.le_add_left_of_le ih

/-- What is not kept takes its parts along. -/
private theorem length_flatMap_filter_add_le {α β : Type} (parts : α → List β) (keep : α → Bool)
    {wholes : List α} {dropped : α} (member : dropped ∈ wholes) (gone : keep dropped = false) :
    ((wholes.filter keep).flatMap parts).length + (parts dropped).length ≤
      (wholes.flatMap parts).length := by
  obtain ⟨before, after, rfl⟩ := List.append_of_mem member
  have earlier := length_flatMap_filter_le parts keep before
  have later := length_flatMap_filter_le parts keep after
  rw [List.filter_append, List.filter_cons, gone, if_neg Bool.false_ne_true]
  simp only [List.flatMap_append, List.flatMap_cons, List.length_append]
  omega

theorem unseen_cons (table : SymbolTable) (seen : List Fingerprint) (handle : Fingerprint) :
    table.unseen (handle :: seen) =
      (table.unseen seen).filter fun decl => decl.fingerprint != handle := by
  rw [unseen, unseen, List.filter_filter]
  congr 1
  funext decl
  rw [List.contains_cons, Bool.not_or, bne]

/-- Seeing a registered type for the first time uses up its share of the pending work. -/
theorem pendingWork_cons_le {table : SymbolTable} {seen : List Fingerprint} {decl : TypeDecl}
    (member : decl ∈ table.decls) (fresh : decl.fingerprint ∉ seen) :
    table.pendingWork (decl.fingerprint :: seen) + (decl.interfaces.length + 1) ≤
      table.pendingWork seen := by
  have waits : decl ∈ table.unseen seen := List.mem_filter.mpr ⟨member, by simpa using fresh⟩
  rw [pendingWork, unseen_cons]
  exact length_flatMap_filter_add_le (fun other => other.name :: other.interfaces)
    (fun other => other.fingerprint != decl.fingerprint) waits (bne_self_eq_false _)

theorem pendingWork_lt {table : SymbolTable} {seen : List Fingerprint} {name : QualifiedName}
    {decl : TypeDecl} (found : table.get? name = some decl)
    (fresh : decl.fingerprint ∉ seen) :
    table.pendingWork (decl.fingerprint :: seen) < table.pendingWork seen :=
  Nat.lt_of_lt_of_le (Nat.lt_add_of_pos_right (Nat.succ_pos _))
    (pendingWork_cons_le (mem_decls_of_get?_eq_some found) fresh)

/-- The interfaces of a type that comes up for the first time may join a work list without adding to
the total. -/
theorem pendingWork_add_length_lt {table : SymbolTable} {seen : List Fingerprint}
    {name : QualifiedName} {decl : TypeDecl} (found : table.get? name = some decl)
    (fresh : decl.fingerprint ∉ seen) (rest : List QualifiedName) :
    table.pendingWork (decl.fingerprint :: seen) + (decl.interfaces.reverse ++ rest).length <
      table.pendingWork seen + (name :: rest).length := by
  have := pendingWork_cons_le (mem_decls_of_get?_eq_some found) fresh
  simp only [List.length_append, List.length_reverse, List.length_cons]
  omega

/-! ## The base chain -/

/-- The base chain of a name, given the handles that have come up before. -/
def baseChainFrom (table : SymbolTable) (seen : List Fingerprint) (name : QualifiedName) :
    List TypeDecl :=
  match _found : table.get? name with
  | none => []
  | some decl =>
      if _repeated : decl.fingerprint ∈ seen then
        []
      else
        decl ::
          match decl.base with
          | none => []
          | some base => table.baseChainFrom (decl.fingerprint :: seen) base
termination_by table.pendingWork seen
decreasing_by exact pendingWork_lt _found _repeated

/-- The type with the given name, followed by its base classes up to the root. -/
def baseChain (table : SymbolTable) (name : QualifiedName) : List TypeDecl :=
  table.baseChainFrom [] name

/-- Whether a type with the given handle is on the base chain, the type itself included. -/
def extendsClass (table : SymbolTable) (name : QualifiedName) (ancestor : Fingerprint) : Bool :=
  (table.baseChain name).any fun decl => decl.fingerprint == ancestor

/-- The first type on the base chain that lives in the given assembly and namespace. -/
def firstBaseIn? (table : SymbolTable) (name : QualifiedName) (assembly namespaceText : String) :
    Option TypeDecl :=
  (table.baseChain name).find? fun decl => decl.livesIn assembly namespaceText

/-! ## Interfaces -/

/-- Whether the search for a handle succeeds from a work list, whose first name is taken next.  The
interfaces of a type are taken before what waited below it, the last one first. -/
def reachesInterface (table : SymbolTable) (wanted : Fingerprint) (seen : List Fingerprint) :
    List QualifiedName → Bool
  | [] => false
  | name :: rest =>
      match _found : table.get? name with
      | none => table.reachesInterface wanted seen rest
      | some decl =>
          if decl.fingerprint = wanted then
            true
          else if _repeated : decl.fingerprint ∈ seen then
            table.reachesInterface wanted seen rest
          else
            table.reachesInterface wanted (decl.fingerprint :: seen)
              (decl.interfaces.reverse ++ rest)
termination_by waiting => table.pendingWork seen + waiting.length
decreasing_by
  · exact Nat.lt_succ_self _
  · exact Nat.lt_succ_self _
  · exact pendingWork_add_length_lt _found _repeated rest

/-- Whether the named type is the interface with the given handle, or implements it directly,
through a base class or through another interface. -/
def implementsInterface (table : SymbolTable) (name : QualifiedName) (wanted : Fingerprint) :
    Bool :=
  table.reachesInterface wanted [] ((table.baseChain name).map TypeDecl.name).reverse

/-- Whether a declared type implements an interface.  Only named types do. -/
def typeImplements (table : SymbolTable) (type : DeclaredType) (wanted : Fingerprint) : Bool :=
  match type.name? with
  | none => false
  | some name => table.implementsInterface name wanted

/-! ## Single steps -/

section Steps

variable {table : SymbolTable} {seen : List Fingerprint} {name : QualifiedName} {decl : TypeDecl}

theorem baseChainFrom_of_get?_eq_none (missing : table.get? name = none) :
    table.baseChainFrom seen name = [] := by
  rw [baseChainFrom]
  split <;> simp_all

theorem baseChainFrom_of_mem (found : table.get? name = some decl)
    (repeated : decl.fingerprint ∈ seen) : table.baseChainFrom seen name = [] := by
  rw [baseChainFrom]
  split <;> simp_all

theorem baseChainFrom_of_not_mem (found : table.get? name = some decl)
    (fresh : decl.fingerprint ∉ seen) :
    table.baseChainFrom seen name =
      decl :: decl.base.toList.flatMap (table.baseChainFrom (decl.fingerprint :: seen)) := by
  rw [baseChainFrom]
  split
  · simp_all
  · rename_i other also_found
    rw [found] at also_found
    cases also_found
    rw [dif_neg fresh]
    cases decl.base <;> simp

variable {wanted : Fingerprint} {rest : List QualifiedName}

theorem reachesInterface_cons_of_get?_eq_none (missing : table.get? name = none) :
    table.reachesInterface wanted seen (name :: rest) =
      table.reachesInterface wanted seen rest := by
  rw [reachesInterface]
  split <;> simp_all

/-- The search ends at a type with the wanted handle, passes over a handle that has come up before,
and goes on with the interfaces of every other type. -/
theorem reachesInterface_cons_of_get?_eq_some (found : table.get? name = some decl) :
    table.reachesInterface wanted seen (name :: rest) =
      if decl.fingerprint = wanted then true
      else if decl.fingerprint ∈ seen then table.reachesInterface wanted seen rest
      else
        table.reachesInterface wanted (decl.fingerprint :: seen)
          (decl.interfaces.reverse ++ rest) := by
  rw [reachesInterface]
  split
  · simp_all
  · rename_i other also_found
    rw [found] at also_found
    cases also_found
    rfl

end Steps

theorem head?_baseChain {table : SymbolTable} {name : QualifiedName} :
    (table.baseChain name).head? = table.get? name := by
  rw [baseChain, baseChainFrom]
  split <;> simp_all

end SymbolTable
end NodeLifecycle
