import Std.Data.ExtTreeMap
import NodeLifecycle.Symbol.TypeDecl

/-!
# Symbol tables

A symbol table holds the types that the host knows: a map from names to types, an index from handles
to names, and the list of the names in the order in which they were first registered.  The three
are kept in step, so a table is determined by the types that it lists.
-/

namespace NodeLifecycle

/-- Why a type cannot be registered. -/
inductive RegistrationError where
  /-- A type with the name that is displayed like this is registered already. -/
  | duplicateType (name : String)
deriving DecidableEq

def RegistrationError.message : RegistrationError → String
  | duplicateType name => "duplicate type: " ++ name

/-- The types of one compilation. -/
structure SymbolTable where
  /-- The registered types by name. -/
  types : Std.ExtTreeMap QualifiedName TypeDecl QualifiedName.compare
  /-- The name that a handle stands for. -/
  handles : Std.ExtTreeMap Fingerprint QualifiedName Fingerprint.compare
  /-- The names of the registered types, in the order of their first registration. -/
  names : List QualifiedName
  /-- No two registered types have the same name. -/
  nodup_names : names.Nodup
  /-- The names with a type are those that are listed. -/
  mem_types_iff : ∀ name, name ∈ types ↔ name ∈ names
  /-- A type is kept under its own name. -/
  name_eq : ∀ (name : QualifiedName) (decl : TypeDecl),
    types[name]? = some decl → decl.name = name
  /-- Of several names with the same handle, the handle stands for the one listed last. -/
  handles_eq : ∀ handle : Fingerprint,
    handles[handle]? = names.reverse.find? fun name => name.fingerprint == handle

namespace SymbolTable

def empty : SymbolTable where
  types := ∅
  handles := ∅
  names := []
  nodup_names := List.nodup_nil
  mem_types_iff := by simp
  name_eq := by simp
  handles_eq := by simp

def size (table : SymbolTable) : Nat :=
  table.types.size

/-! ## Look-up -/

/-- The type with the given name. -/
def get? (table : SymbolTable) (name : QualifiedName) : Option TypeDecl :=
  table.types[name]?

def contains (table : SymbolTable) (name : QualifiedName) : Bool :=
  table.types.contains name

/-- The type that a handle stands for. -/
def getByFingerprint? (table : SymbolTable) (handle : Fingerprint) : Option TypeDecl :=
  table.handles[handle]?.bind table.get?

/-- The class of an attribute. -/
def attributeClass? (table : SymbolTable) (applied : Attribute) : Option TypeDecl :=
  table.getByFingerprint? applied.fingerprint

/-- The registered types, in the order of their first registration. -/
def decls (table : SymbolTable) : List TypeDecl :=
  table.names.filterMap table.get?

/-- The classes that the compilation itself declares, in registration order. -/
def sourceClasses (table : SymbolTable) : List TypeDecl :=
  table.decls.filter fun decl => decl.origin == .source && decl.isClass

theorem name_eq_of_get?_eq_some {table : SymbolTable} {name : QualifiedName} {decl : TypeDecl}
    (found : table.get? name = some decl) : decl.name = name :=
  table.name_eq name decl found

theorem contains_iff {table : SymbolTable} {name : QualifiedName} :
    table.contains name = true ↔ name ∈ table.names := by
  rw [contains, ← Std.ExtTreeMap.mem_iff_contains, table.mem_types_iff]

theorem get?_eq_none_iff {table : SymbolTable} {name : QualifiedName} :
    table.get? name = none ↔ name ∉ table.names := by
  rw [get?, ← Option.not_isSome_iff_eq_none, Std.ExtTreeMap.isSome_getElem?_iff_mem,
    table.mem_types_iff]

theorem mem_decls_iff {table : SymbolTable} {decl : TypeDecl} :
    decl ∈ table.decls ↔ table.get? decl.name = some decl := by
  rw [decls, List.mem_filterMap]
  constructor
  · rintro ⟨name, -, found⟩
    rwa [name_eq_of_get?_eq_some found]
  · intro found
    refine ⟨decl.name, ?_, found⟩
    refine Decidable.byContradiction fun missing => ?_
    rw [get?_eq_none_iff.mpr missing] at found
    cases found

theorem mem_decls_of_get?_eq_some {table : SymbolTable} {name : QualifiedName} {decl : TypeDecl}
    (found : table.get? name = some decl) : decl ∈ table.decls := by
  rw [mem_decls_iff, name_eq_of_get?_eq_some found, found]

/-- Looking up a name is looking for it in the list. -/
theorem get?_eq_find? (table : SymbolTable) (name : QualifiedName) :
    table.get? name = table.decls.find? fun decl => decl.name == name := by
  cases searched : table.decls.find? fun decl => decl.name == name with
  | none =>
      cases found : table.get? name with
      | none => rfl
      | some decl =>
          have missed := List.find?_eq_none.mp searched decl (mem_decls_of_get?_eq_some found)
          simp [name_eq_of_get?_eq_some found] at missed
  | some decl =>
      have named : decl.name = name := by simpa using List.find?_some searched
      rw [← named]
      exact mem_decls_iff.mp (List.mem_of_find?_eq_some searched)

private theorem map_name_filterMap_get? (table : SymbolTable) (names : List QualifiedName)
    (known : ∀ name ∈ names, name ∈ table.names) :
    (names.filterMap table.get?).map TypeDecl.name = names := by
  induction names with
  | nil => rfl
  | cons name rest ih =>
      obtain ⟨registered, others⟩ := List.forall_mem_cons.mp known
      cases found : table.get? name with
      | none => exact absurd registered (get?_eq_none_iff.mp found)
      | some decl =>
          rw [List.filterMap_cons_some found, List.map_cons, ih others,
            name_eq_of_get?_eq_some found]

theorem map_name_decls (table : SymbolTable) : table.decls.map TypeDecl.name = table.names :=
  table.map_name_filterMap_get? table.names fun _ listed => listed

theorem nodup_map_name_decls (table : SymbolTable) : (table.decls.map TypeDecl.name).Nodup := by
  rw [map_name_decls]
  exact table.nodup_names

theorem name_mem_names {table : SymbolTable} {decl : TypeDecl} (listed : decl ∈ table.decls) :
    decl.name ∈ table.names := by
  rw [← map_name_decls]
  exact List.mem_map_of_mem listed

/-- Of the listed types with a handle, the last one is found. -/
theorem getByFingerprint?_eq_find? (table : SymbolTable) (handle : Fingerprint) :
    table.getByFingerprint? handle =
      table.decls.reverse.find? fun decl => decl.fingerprint == handle := by
  rw [getByFingerprint?, table.handles_eq, ← table.map_name_decls, ← List.map_reverse,
    List.find?_map]
  change ((table.decls.reverse.find? fun decl => decl.fingerprint == handle).map _).bind _ = _
  cases found : table.decls.reverse.find? fun decl => decl.fingerprint == handle with
  | none => rfl
  | some decl => exact mem_decls_iff.mp (List.mem_reverse.mp (List.mem_of_find?_eq_some found))

/-- A table is determined by the types that it lists. -/
theorem eq_of_decls_eq {left right : SymbolTable} (same : left.decls = right.decls) :
    left = right := by
  have names_eq : left.names = right.names := by
    rw [← map_name_decls, ← map_name_decls, same]
  have types_eq : left.types = right.types := by
    apply Std.ExtTreeMap.ext_getElem?
    intro name
    have found : left.get? name = right.get? name := by rw [get?_eq_find?, get?_eq_find?, same]
    exact found
  have handles_eq : left.handles = right.handles := by
    apply Std.ExtTreeMap.ext_getElem?
    intro handle
    rw [left.handles_eq, right.handles_eq, names_eq]
  cases left
  cases right
  congr

/-! ## Registration -/

private theorem getElem?_insert_types (table : SymbolTable) (decl : TypeDecl)
    (name : QualifiedName) :
    (table.types.insert decl.name decl)[name]? =
      if decl.name = name then some decl else table.types[name]? := by
  rw [Std.ExtTreeMap.getElem?_insert]
  simp only [Std.LawfulEqCmp.compare_eq_iff_eq]

/-- Append a type under a new name. -/
def insert (table : SymbolTable) (decl : TypeDecl) (fresh : decl.name ∉ table.names) :
    SymbolTable where
  types := table.types.insert decl.name decl
  handles := table.handles.insert decl.fingerprint decl.name
  names := table.names ++ [decl.name]
  nodup_names := by
    rw [List.nodup_append]
    refine ⟨table.nodup_names, by simp, ?_⟩
    rintro known listed name new rfl
    exact fresh (List.mem_singleton.mp new ▸ listed)
  mem_types_iff name := by
    rw [Std.ExtTreeMap.mem_insert, table.mem_types_iff, Std.LawfulEqCmp.compare_eq_iff_eq,
      List.mem_append, List.mem_singleton, or_comm, eq_comm]
  name_eq name found same := by
    rw [getElem?_insert_types] at same
    split at same
    · rename_i named
      cases same
      exact named
    · exact table.name_eq name found same
  handles_eq handle := by
    rw [Std.ExtTreeMap.getElem?_insert, table.handles_eq, List.reverse_append,
      List.reverse_singleton, List.singleton_append]
    by_cases same : decl.fingerprint = handle
    · rw [if_pos (Std.LawfulEqCmp.compare_eq_iff_eq.mpr same),
        List.find?_cons_of_pos (by simpa [TypeDecl.fingerprint] using same)]
    · rw [if_neg (mt Std.LawfulEqCmp.compare_eq_iff_eq.mp same),
        List.find?_cons_of_neg (by simpa [TypeDecl.fingerprint] using same)]

/-- Put a type in the place of the one that has its name. -/
def replace (table : SymbolTable) (decl : TypeDecl) (known : decl.name ∈ table.names) :
    SymbolTable where
  types := table.types.insert decl.name decl
  handles := table.handles
  names := table.names
  nodup_names := table.nodup_names
  mem_types_iff name := by
    rw [Std.ExtTreeMap.mem_insert, table.mem_types_iff, Std.LawfulEqCmp.compare_eq_iff_eq,
      or_iff_right_iff_imp]
    rintro rfl
    exact known
  name_eq name found same := by
    rw [getElem?_insert_types] at same
    split at same
    · rename_i named
      cases same
      exact named
    · exact table.name_eq name found same
  handles_eq := table.handles_eq

@[simp] theorem names_insert (table : SymbolTable) (decl : TypeDecl)
    (fresh : decl.name ∉ table.names) :
    (table.insert decl fresh).names = table.names ++ [decl.name] := rfl

@[simp] theorem names_replace (table : SymbolTable) (decl : TypeDecl)
    (known : decl.name ∈ table.names) : (table.replace decl known).names = table.names := rfl

theorem get?_insert (table : SymbolTable) (decl : TypeDecl) (fresh : decl.name ∉ table.names)
    (name : QualifiedName) :
    (table.insert decl fresh).get? name = if decl.name = name then some decl else table.get? name :=
  table.getElem?_insert_types decl name

theorem get?_replace (table : SymbolTable) (decl : TypeDecl) (known : decl.name ∈ table.names)
    (name : QualifiedName) :
    (table.replace decl known).get? name =
      if decl.name = name then some decl else table.get? name :=
  table.getElem?_insert_types decl name

/-- Append a type; its name must be new. -/
def register (table : SymbolTable) (decl : TypeDecl) : Except RegistrationError SymbolTable :=
  if known : decl.name ∈ table.types then
    .error (.duplicateType decl.name.display)
  else
    .ok (table.insert decl fun listed => known ((table.mem_types_iff decl.name).mpr listed))

/-- Append a type, or put it in the place of the type that has its name. -/
def put (table : SymbolTable) (decl : TypeDecl) : SymbolTable :=
  if known : decl.name ∈ table.types then
    table.replace decl ((table.mem_types_iff decl.name).mp known)
  else
    table.insert decl fun listed => known ((table.mem_types_iff decl.name).mpr listed)

/-- Register a type.  The answer is its handle; a refused type leaves the table as it was. -/
def registerType (table : SymbolTable) (decl : TypeDecl) :
    Except RegistrationError Fingerprint × SymbolTable :=
  match table.register decl with
  | .error error => (.error error, table)
  | .ok extended => (.ok decl.fingerprint, extended)

theorem register_of_mem {table : SymbolTable} {decl : TypeDecl} (known : decl.name ∈ table.names) :
    table.register decl = .error (.duplicateType decl.name.display) :=
  dif_pos ((table.mem_types_iff decl.name).mpr known)

theorem register_of_not_mem {table : SymbolTable} {decl : TypeDecl}
    (fresh : decl.name ∉ table.names) : table.register decl = .ok (table.insert decl fresh) :=
  dif_neg (mt (table.mem_types_iff decl.name).mp fresh)

theorem put_of_mem {table : SymbolTable} {decl : TypeDecl} (known : decl.name ∈ table.names) :
    table.put decl = table.replace decl known :=
  dif_pos ((table.mem_types_iff decl.name).mpr known)

theorem put_of_not_mem {table : SymbolTable} {decl : TypeDecl}
    (fresh : decl.name ∉ table.names) : table.put decl = table.insert decl fresh :=
  dif_neg (mt (table.mem_types_iff decl.name).mp fresh)

theorem exists_register_eq_ok {table : SymbolTable} {decl : TypeDecl}
    (fresh : decl.name ∉ table.names) : ∃ extended, table.register decl = .ok extended :=
  ⟨_, register_of_not_mem fresh⟩

/-- Register types one after the other; the first duplicate stops. -/
def registerAll (table : SymbolTable) (decls : List TypeDecl) :
    Except RegistrationError SymbolTable :=
  decls.foldlM register table

end SymbolTable
end NodeLifecycle
