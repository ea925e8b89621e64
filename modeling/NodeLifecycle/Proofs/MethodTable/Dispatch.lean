import NodeLifecycle.MethodTable
import NodeLifecycle.Proofs.Text.Sorting

/-!
# Dispatch

A table is made in four steps: declared methods get entries, overrides get entries where no declared
method takes their calls, overloads are numbered, and everything is sorted by name.  No step changes
which entry takes a call, but for the entries that the second step adds.  So a call goes to the
first declared method that answers it, and to an override only if there is none.
-/

namespace NodeLifecycle

namespace MethodEntry

/-- The entry without its number among the overloads. -/
def unnumbered (entry : MethodEntry) : MethodEntry :=
  { entry with suffix := "" }

variable {name override : String} {arity : Nat} {entry : MethodEntry}

theorem answers_iff :
    entry.answers name arity = true ↔ entry.name = name ∧ entry.arity = arity := by
  simp [answers]

theorem answers_synthetic_iff :
    (synthetic override).answers name arity = true ↔ arity = 0 ∧ name = override := by
  rw [answers_iff, and_comm, eq_comm (a := arity), eq_comm (a := name)]
  rfl

end MethodEntry

namespace Framework

variable {framework : Framework} {table : SymbolTable} {member : Member}

theorem unnumbered_of_entryFor? {entry : MethodEntry}
    (found : framework.entryFor? table member = some entry) : entry.unnumbered = entry := by
  obtain ⟨signature, -, made⟩ := Option.bind_eq_some_iff.mp found
  rw [entryOfMethod?, Option.ite_none_right_eq_some] at made
  obtain ⟨returnKind, -, mapped⟩ := Option.bind_eq_some_iff.mp made.2
  obtain ⟨params, -, rfl⟩ := Option.map_eq_some_iff.mp mapped
  rfl

/-- The first of some members whose entry takes calls of the given name with the given number of
arguments. -/
def firstAnswering? (framework : Framework) (table : SymbolTable) (members : List Member)
    (name : String) (arity : Nat) : Option Member :=
  members.find? fun member =>
    (framework.entryFor? table member).any (MethodEntry.answers name arity)

end Framework

namespace MethodTable

variable {framework : Framework} {table : SymbolTable} {decl : TypeDecl} {name : String}
  {arity : Nat} {entries : List MethodEntry} {overrides : List String}

/-! ## Overrides -/

/-- An added override takes the calls of its own name without arguments that nothing takes yet. -/
theorem find?_addOverride {override : String} :
    (addOverride entries override).find? (MethodEntry.answers name arity) =
      (entries.find? (MethodEntry.answers name arity)).or
        (if arity = 0 ∧ name = override then some (.synthetic override) else none) := by
  rw [addOverride]
  split
  · rename_i taken
    split
    · rename_i own
      obtain ⟨rfl, rfl⟩ := own
      have known : (entries.find? (MethodEntry.answers name 0)).isSome = true := by
        rwa [List.isSome_find?]
      exact (Option.or_of_isSome known).symm
    · exact Option.or_none.symm
  · rw [List.find?_append, List.find?_singleton]
    simp only [MethodEntry.answers_synthetic_iff]

theorem find?_foldl_addOverride :
    (overrides.foldl addOverride entries).find? (MethodEntry.answers name arity) =
      (entries.find? (MethodEntry.answers name arity)).or
        (if arity = 0 ∧ name ∈ overrides then some (.synthetic name) else none) := by
  induction overrides generalizing entries with
  | nil => simp
  | cons override rest ih =>
      rw [List.foldl_cons, ih, find?_addOverride, Option.or_assoc]
      congr 1
      by_cases own : arity = 0 ∧ name = override
      · obtain ⟨rfl, rfl⟩ := own
        simp
      · rw [if_neg own, Option.none_or]
        congr 1
        rw [eq_iff_iff, List.mem_cons, and_or_left, or_iff_right own]

theorem mem_of_mem_foldl_addOverride {entry : MethodEntry}
    (listed : entry ∈ overrides.foldl addOverride entries) :
    entry ∈ entries ∨ ∃ override ∈ overrides, entry = .synthetic override := by
  induction overrides generalizing entries with
  | nil => exact Or.inl listed
  | cons override rest ih =>
      rcases ih listed with present | ⟨later, later_mem, rfl⟩
      · rw [addOverride] at present
        split at present
        · exact Or.inl present
        · rcases List.mem_append.mp present with old | new
          · exact Or.inl old
          · exact Or.inr ⟨override, List.mem_cons_self, List.mem_singleton.mp new⟩
      · exact Or.inr ⟨later, List.mem_cons_of_mem _ later_mem, rfl⟩

/-! ## Numbers -/

theorem map_unnumbered_numberFrom (before : List String) (entries : List MethodEntry) :
    (numberFrom before entries).map MethodEntry.unnumbered =
      entries.map MethodEntry.unnumbered := by
  induction entries generalizing before with
  | nil => rfl
  | cons entry rest ih =>
      rw [numberFrom, List.map_cons, List.map_cons, ih]
      rfl

theorem find?_numberFrom (before : List String) (entries : List MethodEntry) :
    ((numberFrom before entries).find? (MethodEntry.answers name arity)).map
        MethodEntry.unnumbered =
      (entries.find? (MethodEntry.answers name arity)).map MethodEntry.unnumbered := by
  have found := congrArg (List.find? (MethodEntry.answers name arity))
    (map_unnumbered_numberFrom before entries)
  rwa [List.find?_map, List.find?_map] at found

/-! ## Order -/

/-- Sorting does not change which entry takes a call: the entries that may take it have one name. -/
theorem find?_sortByName :
    (sortByName entries).find? (MethodEntry.answers name arity) =
      entries.find? (MethodEntry.answers name arity) := by
  apply StableSort.find?_sortBy
  intro left left_answers right right_answers
  rw [(MethodEntry.answers_iff.mp left_answers).1, (MethodEntry.answers_iff.mp right_answers).1]
  exact IdentifierOrder.le_self name

theorem mem_methodNames {methods : MethodTable} {name : String} :
    name ∈ methods.methodNames ↔ ∃ entry ∈ methods.entries, entry.name = name := by
  rw [methodNames, IdentifierOrder.sort, (StableSort.sortBy_perm _ _).mem_iff, List.mem_eraseDups,
    List.mem_map]

/-! ## Sources -/

/-- But for its number, an entry of a table is that of a member or that of an override. -/
theorem exists_source_of_mem_build {entry : MethodEntry}
    (listed : entry ∈ (build framework table decl overrides).entries) :
    (∃ member ∈ decl.members, framework.entryFor? table member = some entry.unnumbered) ∨
      ∃ override ∈ overrides, entry.unnumbered = .synthetic override := by
  have numbered := List.mem_map_of_mem (f := MethodEntry.unnumbered)
    ((StableSort.sortBy_perm _ _).mem_iff.mp listed)
  rw [map_unnumbered_numberFrom] at numbered
  obtain ⟨source, source_mem, same⟩ := List.mem_map.mp numbered
  rw [← same]
  rcases mem_of_mem_foldl_addOverride source_mem with declared | ⟨override, given, rfl⟩
  · obtain ⟨member, member_mem, found⟩ := List.mem_filterMap.mp declared
    refine Or.inl ⟨member, member_mem, ?_⟩
    rw [Framework.unnumbered_of_entryFor? found, found]
  · exact Or.inr ⟨override, given, rfl⟩

/-! ## Calls -/

/-- A call goes to the first declared method that answers it; if there is none, it goes to the
override of that name if the call has no arguments; otherwise it goes nowhere. -/
theorem dispatch?_build (framework : Framework) (table : SymbolTable) (decl : TypeDecl)
    (overrides : List String) (name : String) (arity : Nat) :
    ((build framework table decl overrides).dispatch? name arity).map MethodEntry.unnumbered =
      match framework.firstAnswering? table decl.members name arity with
      | some member => framework.entryFor? table member
      | none => if arity = 0 ∧ name ∈ overrides then some (.synthetic name) else none := by
  have declared : (decl.members.filterMap (framework.entryFor? table)).find?
        (MethodEntry.answers name arity) =
      (framework.firstAnswering? table decl.members name arity).bind (framework.entryFor? table) :=
    List.find?_filterMap
  have found : ((build framework table decl overrides).dispatch? name arity).map
        MethodEntry.unnumbered =
      (((framework.firstAnswering? table decl.members name arity).bind
        (framework.entryFor? table)).or
          (if arity = 0 ∧ name ∈ overrides then some (.synthetic name) else none)).map
            MethodEntry.unnumbered := by
    rw [← declared, ← find?_foldl_addOverride, ← find?_numberFrom [], ← find?_sortByName]
    rfl
  rw [found]
  cases first : framework.firstAnswering? table decl.members name arity with
  | none =>
      rw [Option.bind_none, Option.none_or]
      split <;> rfl
  | some member =>
      rw [Option.bind_some]
      have answered := List.find?_some first
      cases made : framework.entryFor? table member with
      | none => simp [made] at answered
      | some entry =>
          rw [Option.some_or, Option.map_some, Framework.unnumbered_of_entryFor? made]
          exact made.symm

end MethodTable
end NodeLifecycle
