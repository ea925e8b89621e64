import NodeLifecycle.Proofs.MethodTable.Numbering
import NodeLifecycle.Proofs.MethodTable.Overrides

/-!
# The arrangement of a table

A table holds the entries of the declared methods and one synthetic entry for each override whose
calls no declared method takes.  It is in the order of the names, so the entries of one name stand
together.  Among these the declared methods are in the order of their declarations, the synthetic
entry is the last, and they are numbered from one on, where the first one shows no number.
-/

namespace NodeLifecycle
namespace MethodTable

variable {framework : Framework} {table : SymbolTable} {decl : TypeDecl} {overrides : List String}
  {declared entries : List MethodEntry} {name : String}

/-- The overrides that get an entry of their own: those whose calls no declared method takes, each
once. -/
def addedOverrides (declared : List MethodEntry) (overrides : List String) : List String :=
  (overrides.filter fun name => !declared.any (MethodEntry.answers name 0)).eraseDups

def named (name : String) (entries : List MethodEntry) : List MethodEntry :=
  entries.filter fun entry => entry.name == name

/-- How a table is made up of the entries of the declared methods, in the order of their
declarations, and of overrides. -/
structure IsArranged (declared : List MethodEntry) (overrides : List String)
    (entries : List MethodEntry) : Prop where
  /-- But for the numbers, the entries are those of the declared methods and one for each added
  override. -/
  sources : (entries.map MethodEntry.unnumbered).Perm
    (declared ++ (addedOverrides declared overrides).map .synthetic)
  /-- An override is added once at most. -/
  once : (addedOverrides declared overrides).Nodup
  /-- Only given overrides are added. -/
  given : addedOverrides declared overrides ⊆ overrides
  /-- The entries are in the order of their names. -/
  sorted : entries.Pairwise fun left right => IdentifierOrder.le left.name right.name = true
  /-- No other entry stands between two entries of one name. -/
  together : ∀ left between right, [left, between, right].Sublist entries →
    left.name = right.name → between.name = left.name
  /-- The entries of one name are in the order of the declarations, with the override behind
  them. -/
  declaredFirst : ∀ name, (named name entries).map MethodEntry.unnumbered =
    named name declared ++
      if name ∈ addedOverrides declared overrides then [.synthetic name] else []
  /-- The first entry of a name has no suffix, and the others have their number. -/
  numbered : ∀ (name : String) (index : Nat) (entry : MethodEntry),
    (named name entries)[index]? = some entry →
      entry.suffix = if index = 0 then "" else toString (index + 1)

/-! ## Added overrides -/

theorem mem_addedOverrides_iff :
    name ∈ addedOverrides declared overrides ↔
      name ∈ overrides ∧ declared.any (MethodEntry.answers name 0) = false := by
  rw [addedOverrides, List.mem_eraseDups, List.mem_filter, Bool.not_eq_true']

theorem foldl_addOverride_eq_append :
    overrides.foldl addOverride declared =
      declared ++ (addedOverrides declared overrides).map MethodEntry.synthetic := by
  induction overrides generalizing declared with
  | nil => exact (List.append_nil declared).symm
  | cons override rest ih =>
      rw [List.foldl_cons, ih, addOverride, addedOverrides, addedOverrides, List.filter_cons]
      cases taken : declared.any (MethodEntry.answers override 0) with
      | true => rfl
      | false =>
          -- the new entry takes the calls of its own name only
          have others : (rest.filter fun name =>
              !(declared ++ [MethodEntry.synthetic override]).any (MethodEntry.answers name 0)) =
                (rest.filter fun name => !declared.any (MethodEntry.answers name 0)).filter
                  fun name => !name == override := by
            rw [List.filter_filter]
            apply List.filter_congr
            intro name _
            rw [List.any_append, List.any_cons, List.any_nil, Bool.or_false, Bool.not_or,
              Bool.and_comm]
            congr 2
            rw [Bool.eq_iff_iff, MethodEntry.answers_synthetic_iff, beq_iff_eq]
            exact and_iff_right rfl
          simp only [Bool.false_eq_true, if_false, Bool.not_false, if_true]
          rw [others, List.eraseDups_cons, List.map_cons, List.append_assoc, List.singleton_append]

/-! ## Names -/

/-- What is in the order of the names keeps each name together. -/
theorem name_eq_of_sublist
    (sorted : entries.Pairwise fun left right =>
      IdentifierOrder.le left.name right.name = true)
    {left between right : MethodEntry} (inside : [left, between, right].Sublist entries)
    (same : left.name = right.name) : between.name = left.name := by
  have ordered := sorted.sublist inside
  simp only [List.pairwise_cons, List.mem_cons, List.not_mem_nil, or_false, forall_eq_or_imp,
    forall_eq] at ordered
  obtain ⟨⟨before, -⟩, after, -⟩ := ordered
  rw [← same] at after
  exact IdentifierOrder.le_antisymm after before

theorem named_sortByName (name : String) (entries : List MethodEntry) :
    named name (sortByName entries) = named name entries := by
  apply StableSort.filter_sortBy
  intro left left_named right right_named
  rw [eq_of_beq left_named, eq_of_beq right_named]
  exact IdentifierOrder.le_self name

theorem map_unnumbered_named (name : String) (entries : List MethodEntry) :
    (named name entries).map MethodEntry.unnumbered =
      named name (entries.map MethodEntry.unnumbered) := by
  rw [named, named, List.filter_map]
  rfl

theorem named_map_synthetic {added : List String} (once : added.Nodup) (name : String) :
    named name (added.map .synthetic) = if name ∈ added then [.synthetic name] else [] := by
  have own : named name (added.map .synthetic) = (added.filter (· == name)).map .synthetic := by
    rw [named, List.filter_map]
    rfl
  rw [own, List.filter_beq]
  split
  · rename_i listed
    rw [List.count_eq_one_of_mem once listed]
    rfl
  · rename_i missing
    rw [List.count_eq_zero_of_not_mem missing]
    rfl

/-! ## Numbers -/

/-- The numbers of a name go on from where they were, without gaps. -/
theorem suffix_of_named_numberFrom {before : List String} {index : Nat} {entry : MethodEntry}
    (listed : (named name (numberFrom before entries))[index]? = some entry) :
    entry.suffix = overloadSuffix (before.count name + index) := by
  induction entries generalizing before index with
  | nil => simp [named, numberFrom] at listed
  | cons first rest ih =>
      rw [named, numberFrom, List.filter_cons] at listed
      by_cases own : first.name = name
      · rw [if_pos (beq_iff_eq.mpr own)] at listed
        cases index with
        | zero =>
            rw [List.getElem?_cons_zero, Option.some_inj] at listed
            rw [← listed, own, Nat.add_zero]
        | succ index =>
            rw [List.getElem?_cons_succ] at listed
            rw [ih listed, own, List.count_cons_self]
            congr 1
            omega
      · rw [if_neg (by simpa using own)] at listed
        rw [ih listed, List.count_cons_of_ne own]

/-! ## Tables -/

/-- Before they are numbered, the entries are those of the declared methods and of the added
overrides. -/
theorem map_unnumbered_foldl_addOverride (framework : Framework) (table : SymbolTable)
    (members : List Member) (overrides : List String) :
    (overrides.foldl addOverride (members.filterMap (framework.entryFor? table))).map
        MethodEntry.unnumbered =
      members.filterMap (framework.entryFor? table) ++
        (addedOverrides (members.filterMap (framework.entryFor? table)) overrides).map
          .synthetic := by
  have bare : (members.filterMap (framework.entryFor? table)).map MethodEntry.unnumbered =
      members.filterMap (framework.entryFor? table) := by
    conv_rhs => rw [← List.map_id (members.filterMap (framework.entryFor? table))]
    apply List.map_congr_left
    intro entry listed
    obtain ⟨member, -, found⟩ := List.mem_filterMap.mp listed
    exact Framework.unnumbered_of_entryFor? found
  rw [foldl_addOverride_eq_append, List.map_append, bare, List.map_map]
  rfl

theorem sorted_sortByName (entries : List MethodEntry) :
    (sortByName entries).Pairwise fun left right =>
      IdentifierOrder.le left.name right.name = true := by
  rw [sortByName]
  apply StableSort.pairwise_sortBy
  · intro first second third before after
    exact IdentifierOrder.le_trans before after
  · intro left right
    exact IdentifierOrder.le_total left.name right.name

/-- Every table is arranged. -/
theorem isArranged_build (framework : Framework) (table : SymbolTable) (decl : TypeDecl)
    (overrides : List String) :
    IsArranged (decl.members.filterMap (framework.entryFor? table)) overrides
      (build framework table decl overrides).entries where
  sources := by
    rw [← map_unnumbered_foldl_addOverride, ← map_unnumbered_numberFrom [] (overrides.foldl _ _)]
    exact (StableSort.sortBy_perm _ _).map _
  once := FirstOccurrences.nodup_eraseDups _
  given name added := (mem_addedOverrides_iff.mp added).1
  sorted := sorted_sortByName _
  together left between right inside same :=
    name_eq_of_sublist (sorted_sortByName _) inside same
  declaredFirst name := by
    rw [build, entriesOf, named_sortByName, map_unnumbered_named, map_unnumbered_numberFrom,
      map_unnumbered_foldl_addOverride, named, List.filter_append]
    exact congrArg _ (named_map_synthetic (FirstOccurrences.nodup_eraseDups _) name)
  numbered name index entry listed := by
    rw [build, entriesOf, named_sortByName] at listed
    rw [suffix_of_named_numberFrom listed, List.count_nil, Nat.zero_add, overloadSuffix]

end MethodTable
end NodeLifecycle
