import Mathlib.Data.List.Nodup
import NodeLifecycle.Framework.EngineTypes
import NodeLifecycle.Proofs.FirstOccurrences

/-!
# What a table lists

A table answers as a list of types under distinct names would: registration appends at the end,
seeding replaces in place, and look-ups by name and by handle are searches in the list.  So the map,
the index and the order stay in step over every sequence of registrations, also when names repeat
and when different names share a handle.
-/

namespace NodeLifecycle
namespace SymbolTable

/-! ## Single steps -/

theorem decls_insert (table : SymbolTable) (decl : TypeDecl) (fresh : decl.name ∉ table.names) :
    (table.insert decl fresh).decls = table.decls ++ [decl] := by
  have others : table.names.filterMap (table.insert decl fresh).get? = table.decls := by
    apply List.filterMap_congr
    intro name listed
    rw [get?_insert, if_neg]
    rintro rfl
    exact fresh listed
  rw [decls, names_insert, List.filterMap_append, others, List.filterMap_cons_some]
  · rfl
  · rw [get?_insert, if_pos rfl]

theorem decls_replace (table : SymbolTable) (decl : TypeDecl) (known : decl.name ∈ table.names) :
    (table.replace decl known).decls =
      table.decls.map fun listed => if listed.name = decl.name then decl else listed := by
  rw [decls, names_replace, decls, List.map_filterMap]
  apply List.filterMap_congr
  intro name listed
  rw [get?_replace]
  cases found : table.get? name with
  | none => exact absurd listed (get?_eq_none_iff.mp found)
  | some other =>
      rw [Option.map_some, name_eq_of_get?_eq_some found]
      by_cases same : decl.name = name
      · rw [if_pos same, if_pos same.symm]
      · rw [if_neg same, if_neg (Ne.symm same)]

theorem register_eq_ok_iff {table extended : SymbolTable} {decl : TypeDecl} :
    table.register decl = .ok extended ↔
      decl.name ∉ table.names ∧ extended.decls = table.decls ++ [decl] := by
  by_cases known : decl.name ∈ table.names
  · rw [register_of_mem known]
    exact iff_of_false (nomatch ·) fun registered => registered.1 known
  · rw [register_of_not_mem known, Except.ok.injEq, and_iff_right known,
      ← decls_insert table decl known]
    exact ⟨fun same => congrArg decls same.symm, fun listed => eq_of_decls_eq listed.symm⟩

theorem get?_of_register_eq_ok {table extended : SymbolTable} {decl : TypeDecl}
    (registered : table.register decl = .ok extended) {name : QualifiedName}
    (other : name ≠ decl.name) : extended.get? name = table.get? name := by
  have fresh := (register_eq_ok_iff.mp registered).1
  rw [register_of_not_mem fresh] at registered
  cases registered
  rw [get?_insert, if_neg (Ne.symm other)]

/-- Append types under new names. -/
def insertAll (table : SymbolTable) : (decls : List TypeDecl) →
    (decls.map TypeDecl.name).Nodup → (∀ decl ∈ decls, decl.name ∉ table.names) → SymbolTable
  | [], _, _ => table
  | decl :: rest, distinct, fresh =>
      (table.insert decl (fresh decl List.mem_cons_self)).insertAll rest
        (List.nodup_cons.mp distinct).2 fun later listed => by
          rw [names_insert, List.mem_append, List.mem_singleton, not_or]
          refine ⟨fresh later (List.mem_cons_of_mem _ listed), fun same => ?_⟩
          exact (List.nodup_cons.mp distinct).1 (same ▸ List.mem_map_of_mem listed)

theorem decls_insertAll (table : SymbolTable) (decls : List TypeDecl)
    (distinct : (decls.map TypeDecl.name).Nodup) (fresh : ∀ decl ∈ decls, decl.name ∉ table.names) :
    (table.insertAll decls distinct fresh).decls = table.decls ++ decls := by
  induction decls generalizing table with
  | nil => exact (List.append_nil _).symm
  | cons decl rest ih => rw [insertAll, ih, decls_insert, List.append_assoc, List.singleton_append]

end SymbolTable

/-! ## Insertion-ordered lists -/

namespace Listing

/-- Append a type if its name is new. -/
def add (listed : List TypeDecl) (decl : TypeDecl) : List TypeDecl :=
  if decl.name ∈ listed.map TypeDecl.name then listed else listed ++ [decl]

/-- Append a type if its name is new, and put it in the place of its namesake otherwise. -/
def put (listed : List TypeDecl) (decl : TypeDecl) : List TypeDecl :=
  if decl.name ∈ listed.map TypeDecl.name then
    listed.map fun known => if known.name = decl.name then decl else known
  else
    listed ++ [decl]

end Listing

namespace SymbolTable

/-- The table answers as a list of types under distinct names does. -/
structure AnswersAs (table : SymbolTable) (listed : List TypeDecl) : Prop where
  /-- The types are visited in the order of the list. -/
  decls_eq : table.decls = listed
  /-- No type is visited twice. -/
  nodup : (listed.map TypeDecl.name).Nodup
  /-- The size is the number of visited types. -/
  size_eq : table.size = listed.length
  /-- A name finds the one visited type that has it. -/
  get?_iff : ∀ name decl, table.get? name = some decl ↔ decl ∈ listed ∧ decl.name = name
  /-- A name is known if a visited type has it. -/
  contains_iff : ∀ name, table.contains name = true ↔ name ∈ listed.map TypeDecl.name
  /-- A handle finds the last visited type that has it. -/
  getByFingerprint?_eq : ∀ handle, table.getByFingerprint? handle =
    (listed.filter fun decl => decl.fingerprint == handle).getLast?

theorem size_eq_length_names (table : SymbolTable) : table.size = table.names.length := by
  have distinct : table.types.keys.Nodup := by
    refine Std.ExtTreeMap.distinct_keys.imp fun apart same => ?_
    exact apart (Std.LawfulEqCmp.compare_eq_iff_eq.mpr same)
  have permuted : table.types.keys.Perm table.names := by
    rw [List.perm_ext_iff_of_nodup distinct table.nodup_names]
    intro name
    rw [Std.ExtTreeMap.mem_keys, table.mem_types_iff]
  rw [size, ← Std.ExtTreeMap.length_keys, permuted.length_eq]

theorem answersAs_decls (table : SymbolTable) : table.AnswersAs table.decls where
  decls_eq := rfl
  nodup := table.nodup_map_name_decls
  size_eq := by rw [size_eq_length_names, ← map_name_decls, List.length_map]
  get?_iff name decl := by
    rw [get?_eq_find?]
    exact FirstOccurrences.find?_eq_some_iff_of_nodup table.nodup_map_name_decls
  contains_iff name := by rw [SymbolTable.contains_iff, map_name_decls]
  getByFingerprint?_eq handle := by
    rw [getByFingerprint?_eq_find?, List.getLast?_eq_head?_reverse, ← List.filter_reverse,
      List.head?_filter]

/-! ## Sequences of registrations -/

theorem decls_put (table : SymbolTable) (decl : TypeDecl) :
    (table.put decl).decls = Listing.put table.decls decl := by
  rw [Listing.put, map_name_decls]
  by_cases known : decl.name ∈ table.names
  · rw [put_of_mem known, decls_replace, if_pos known]
  · rw [put_of_not_mem known, decls_insert, if_neg known]

theorem names_put (table : SymbolTable) (decl : TypeDecl) :
    (table.put decl).names = FirstOccurrences.addNew table.names decl.name := by
  rw [FirstOccurrences.addNew]
  by_cases known : decl.name ∈ table.names
  · rw [put_of_mem known, names_replace, if_pos known]
  · rw [put_of_not_mem known, names_insert, if_neg known]

theorem registerType_of_mem {table : SymbolTable} {decl : TypeDecl}
    (known : decl.name ∈ table.names) :
    table.registerType decl = (.error (.duplicateType decl.name.display), table) := by
  rw [registerType, register_of_mem known]

theorem registerType_of_not_mem {table : SymbolTable} {decl : TypeDecl}
    (fresh : decl.name ∉ table.names) :
    table.registerType decl = (.ok decl.fingerprint, table.insert decl fresh) := by
  rw [registerType, register_of_not_mem fresh]

theorem decls_registerType (table : SymbolTable) (decl : TypeDecl) :
    (table.registerType decl).2.decls = Listing.add table.decls decl := by
  rw [Listing.add, map_name_decls]
  by_cases known : decl.name ∈ table.names
  · rw [registerType_of_mem known, if_pos known]
  · rw [registerType_of_not_mem known, decls_insert, if_neg known]

theorem names_registerType (table : SymbolTable) (decl : TypeDecl) :
    (table.registerType decl).2.names = FirstOccurrences.addNew table.names decl.name := by
  rw [FirstOccurrences.addNew]
  by_cases known : decl.name ∈ table.names
  · rw [registerType_of_mem known, if_pos known]
  · rw [registerType_of_not_mem known, names_insert, if_neg known]

/-- The table after several registrations, some of which may have been refused. -/
def registerEach (table : SymbolTable) (attempts : List TypeDecl) : SymbolTable :=
  attempts.foldl (fun table decl => (table.registerType decl).2) table

/-- Where each step lists the name of its type if it is new, a run lists all new names in order. -/
theorem names_foldl {step : SymbolTable → TypeDecl → SymbolTable}
    (lists : ∀ table decl, (step table decl).names = FirstOccurrences.addNew table.names decl.name)
    (table : SymbolTable) (decls : List TypeDecl) :
    (decls.foldl step table).names =
      (decls.map TypeDecl.name).foldl FirstOccurrences.addNew table.names := by
  induction decls generalizing table with
  | nil => rfl
  | cons decl rest ih => rw [List.foldl_cons, ih, lists, List.map_cons, List.foldl_cons]

/-- A table before the host registers its own types: empty, or with the types of a framework. -/
def initial : Option FrameworkNames → SymbolTable
  | none => empty
  | some names => ofEngineTypes names

/-- The types that are seeded into an initial table. -/
def seeds : Option FrameworkNames → List TypeDecl
  | none => []
  | some names => names.engineTypes

theorem initial_eq (framework : Option FrameworkNames) :
    initial framework = (seeds framework).foldl put empty := by
  cases framework <;> rfl

theorem decls_registerEach_initial (framework : Option FrameworkNames) (attempts : List TypeDecl) :
    ((initial framework).registerEach attempts).decls =
      attempts.foldl Listing.add ((seeds framework).foldl Listing.put []) := by
  rw [registerEach, initial_eq,
    ← List.foldl_hom decls fun table decl => (decls_registerType table decl).symm,
    ← List.foldl_hom decls fun table decl => (decls_put table decl).symm]
  rfl

/-- The names are listed in the order in which they first came up. -/
theorem names_registerEach_initial (framework : Option FrameworkNames)
    (attempts : List TypeDecl) :
    ((initial framework).registerEach attempts).names =
      ((seeds framework ++ attempts).map TypeDecl.name).eraseDups := by
  rw [registerEach, names_foldl names_registerType, initial_eq, names_foldl names_put,
    ← List.foldl_append, ← List.map_append]
  exact FirstOccurrences.foldl_addNew _

/-- From an initial table on, the map, the index and the order of a table answer together as the
list of the types in the order in which their names first came up.  A type whose name is listed is
refused and changes nothing; any other is appended, and its handle is returned. -/
theorem answersAs_registerEach (framework : Option FrameworkNames) (attempts : List TypeDecl) :
    let table := (initial framework).registerEach attempts
    let listed := attempts.foldl Listing.add ((seeds framework).foldl Listing.put [])
    table.AnswersAs listed ∧
      listed.map TypeDecl.name = ((seeds framework ++ attempts).map TypeDecl.name).eraseDups ∧
      ∀ decl : TypeDecl,
        if decl.name ∈ listed.map TypeDecl.name then
          table.registerType decl = (.error (.duplicateType decl.name.display), table)
        else
          ∃ extended, table.registerType decl = (.ok decl.fingerprint, extended) ∧
            extended.AnswersAs (listed ++ [decl]) := by
  intro table listed
  have lists : table.decls = listed := decls_registerEach_initial framework attempts
  have named : table.names = listed.map TypeDecl.name := by rw [← map_name_decls, lists]
  refine ⟨lists ▸ table.answersAs_decls, ?_, fun decl => ?_⟩
  · rw [← named]
    exact names_registerEach_initial framework attempts
  · rw [← named]
    split
    · rename_i known
      exact registerType_of_mem known
    · rename_i fresh
      refine ⟨table.insert decl fresh, registerType_of_not_mem fresh, ?_⟩
      rw [← lists, ← decls_insert table decl fresh]
      exact (table.insert decl fresh).answersAs_decls

/-- Two names that are displayed alike share a handle.  It finds the one that was registered
last. -/
example :
    let nested := TypeDecl.referenced ⟨"B", ["A"]⟩ .classType "Game"
    let dotted := TypeDecl.referenced ⟨"A.B", []⟩ .classType "Game"
    let table := empty.registerEach [nested, dotted]
    table.decls = [nested, dotted] ∧
      table.getByFingerprint? nested.fingerprint = some dotted := by
  decide +kernel

end SymbolTable
end NodeLifecycle
