import Mathlib.Data.List.Nodup
import NodeLifecycle.MethodTable
import NodeLifecycle.Proofs.Text.Sorting

/-!
# Numbered overloads

An entry is registered under its name and its number among the entries of that name.  Within one
name the numbers tell the entries apart.  Between names they need not: the name of one method may be
the name of another one with a number behind it.
-/

namespace NodeLifecycle
namespace MethodTable

variable {framework : Framework} {table : SymbolTable} {decl : TypeDecl} {overrides : List String}
  {before names : List String} {entries : List MethodEntry} {name : String} {index : Nat}

/-! ## Suffixes -/

theorem isDigit_of_mem_overloadSuffix {char : Char}
    (listed : char ∈ (overloadSuffix index).toList) : char.isDigit = true := by
  rw [overloadSuffix] at listed
  split at listed
  · simp at listed
  · rw [Nat.toString_eq_ofList_toDigits, String.toList_ofList] at listed
    exact Nat.isDigit_of_mem_toDigits (by decide) (by decide) listed

theorem overloadSuffix_injective {other : Nat}
    (same : overloadSuffix index = overloadSuffix other) : index = other := by
  have some_digit (number : Nat) : toString (number + 1) ≠ "" := by
    rw [Nat.toString_eq_ofList_toDigits]
    simp [Nat.toDigits_ne_nil]
  rw [overloadSuffix, overloadSuffix] at same
  split at same <;> split at same
  · omega
  · exact absurd same.symm (some_digit other)
  · exact absurd same (some_digit index)
  · rw [Nat.toString_eq_ofList_toDigits, Nat.toString_eq_ofList_toDigits] at same
    have read :=
      congrArg (fun digits => Nat.ofDigitChars 10 digits 0) (String.ofList_injective same)
    simpa [Nat.ofDigitChars_toDigits] using read

theorem overloadSuffix_eq_empty_iff : overloadSuffix index = "" ↔ index = 0 := by
  have first : overloadSuffix 0 = "" := rfl
  constructor
  · intro empty
    exact overloadSuffix_injective (empty.trans first.symm)
  · rintro rfl
    exact first

/-- A text that does not end in a digit is the numbered name of nothing but itself. -/
theorem append_overloadSuffix_eq_iff {text : String}
    (ends : text.toList.getLast?.any Char.isDigit = false) :
    name ++ overloadSuffix index = text ↔ name = text ∧ index = 0 := by
  constructor
  · rintro rfl
    by_cases first : index = 0
    · rw [overloadSuffix_eq_empty_iff.mpr first, String.append_empty]
      exact ⟨rfl, first⟩
    · have digits : (overloadSuffix index).toList ≠ [] := fun none =>
        first (overloadSuffix_eq_empty_iff.mp (String.toList_eq_nil_iff.mp none))
      have last := List.getLast?_eq_some_getLast digits
      have digit := isDigit_of_mem_overloadSuffix (List.getLast_mem digits)
      rw [String.toList_append, List.getLast?_append, last, Option.some_or, Option.any_some,
        digit] at ends
      contradiction
  · rintro ⟨rfl, rfl⟩
    rw [overloadSuffix_eq_empty_iff.mpr rfl, String.append_empty]

/-! ## Numbers -/

/-- The given names, each with the number of times that it has come up before. -/
def ordinals (before : List String) : List String → List (String × Nat)
  | [] => []
  | name :: rest => (name, before.count name) :: ordinals (name :: before) rest

/-- What an entry is registered under: its name and its number. -/
def numberedName (overload : String × Nat) : String :=
  overload.1 ++ overloadSuffix overload.2

theorem mem_ordinals :
    (name, index) ∈ ordinals before names ↔
      before.count name ≤ index ∧ index < before.count name + names.count name := by
  induction names generalizing before with
  | nil =>
      simp only [ordinals, List.not_mem_nil, List.count_nil, Nat.add_zero, false_iff]
      omega
  | cons first rest ih =>
      rw [ordinals, List.mem_cons, ih, Prod.mk.injEq]
      by_cases same : first = name
      · subst same
        simp only [true_and, List.count_cons_self]
        omega
      · simp [same, Ne.symm same]

theorem nodup_ordinals (before names : List String) : (ordinals before names).Nodup := by
  induction names generalizing before with
  | nil => exact List.nodup_nil
  | cons first rest ih =>
      rw [ordinals, List.nodup_cons]
      refine ⟨?_, ih _⟩
      rw [mem_ordinals, List.count_cons_self]
      omega

theorem map_infoName_numberFrom (before : List String) (entries : List MethodEntry) :
    (numberFrom before entries).map MethodEntry.infoName =
      (ordinals before (entries.map MethodEntry.name)).map numberedName := by
  induction entries generalizing before with
  | nil => rfl
  | cons entry rest ih =>
      rw [numberFrom, List.map_cons, List.map_cons, ordinals, List.map_cons, ih]
      rfl

theorem map_name_numberFrom (before : List String) (entries : List MethodEntry) :
    (numberFrom before entries).map MethodEntry.name = entries.map MethodEntry.name := by
  induction entries generalizing before with
  | nil => rfl
  | cons entry rest ih => rw [numberFrom, List.map_cons, List.map_cons, ih]

/-! ## Names in a table -/

def overloadCount (methods : MethodTable) (name : String) : Nat :=
  (methods.entries.map MethodEntry.name).count name

/-- A table registers the overloads of its names by name and number, and nothing else. -/
theorem exists_ordinals_build (framework : Framework) (table : SymbolTable) (decl : TypeDecl)
    (overrides : List String) :
    ∃ names : List String,
      (∀ name, names.count name = (build framework table decl overrides).overloadCount name) ∧
        ((build framework table decl overrides).entries.map MethodEntry.infoName).Perm
          ((ordinals [] names).map numberedName) := by
  let listed := overrides.foldl addOverride (decl.members.filterMap (framework.entryFor? table))
  have sorted : (build framework table decl overrides).entries.Perm (numberFrom [] listed) :=
    StableSort.sortBy_perm _ _
  refine ⟨listed.map MethodEntry.name, fun name => ?_, ?_⟩
  · rw [overloadCount, (sorted.map MethodEntry.name).count_eq, map_name_numberFrom]
  · rw [← map_infoName_numberFrom]
    exact sorted.map MethodEntry.infoName

theorem mem_infoName_build {text : String} :
    text ∈ (build framework table decl overrides).entries.map MethodEntry.infoName ↔
      ∃ name index, index < (build framework table decl overrides).overloadCount name ∧
        name ++ overloadSuffix index = text := by
  obtain ⟨names, counts, numbered⟩ := exists_ordinals_build framework table decl overrides
  simp only [numbered.mem_iff, List.mem_map, Prod.exists, mem_ordinals, List.count_nil,
    Nat.zero_le, true_and, Nat.zero_add, counts]
  rfl

/-- Entries are registered under different names exactly if no overload reads like one of another
name. -/
theorem nodup_infoName_build_iff :
    ((build framework table decl overrides).entries.map MethodEntry.infoName).Nodup ↔
      ∀ left index, index < (build framework table decl overrides).overloadCount left →
        ∀ right other, other < (build framework table decl overrides).overloadCount right →
          left ++ overloadSuffix index = right ++ overloadSuffix other → left = right := by
  obtain ⟨names, counts, numbered⟩ := exists_ordinals_build framework table decl overrides
  rw [numbered.nodup_iff, List.nodup_map_iff_inj_on (nodup_ordinals [] names)]
  simp only [Prod.forall, mem_ordinals, List.count_nil, Nat.zero_le, true_and, Nat.zero_add,
    counts, Prod.mk.injEq, numberedName]
  constructor
  · intro apart left index inside right other known same
    exact (apart left index inside right other known same).1
  · intro apart left index inside right other known same
    obtain rfl := apart left index inside right other known same
    exact ⟨rfl, overloadSuffix_injective ((String.append_right_inj left).mp same)⟩

end MethodTable
end NodeLifecycle
