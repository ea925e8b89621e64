import NodeLifecycle.Symbol.Member

/-!
# The levels of array types

An array type is an innermost type under a list of levels, each with a rank.  The target language
writes the innermost type first and then one rank specifier per level, from the outermost level to
the innermost: an array of matrices of `int` is `int[][,]`.  The spellings of declared types list
the specifiers in the opposite order, so they are read as the type with its levels the other way
round; that is the declared type itself exactly if its ranks are the same from both ends.
-/

namespace NodeLifecycle
namespace DeclaredType

/-! ## Levels -/

/-- What is left of a type without its array levels. -/
def innermost : DeclaredType → DeclaredType
  | array element _ _ => element.innermost
  | type => type

/-- The ranks of the array levels, the outermost first. -/
def ranks : DeclaredType → List Nat
  | array element rank _ => rank :: element.ranks
  | _ => []

/-- Whether neither the innermost type nor any array level is annotated as nullable. -/
def isUnannotated : DeclaredType → Bool
  | array element _ nullable => !nullable && element.isUnannotated
  | type => !type.isNullable

/-- A type under array levels of the given ranks, the outermost first. -/
def wrap (core : DeclaredType) (ranks : List Nat) : DeclaredType :=
  ranks.foldr (fun rank element => array element rank false) core

/-- The type with its array levels the other way round. -/
def turned (type : DeclaredType) : DeclaredType :=
  type.innermost.wrap type.ranks.reverse

variable {type : DeclaredType} {left right : List Nat}

@[simp] theorem ranks_innermost (type : DeclaredType) : type.innermost.ranks = [] := by
  induction type with
  | array element rank nullable ih => exact ih
  | void | builtin | named => rfl

@[simp] theorem innermost_innermost (type : DeclaredType) :
    type.innermost.innermost = type.innermost := by
  induction type with
  | array element rank nullable ih => exact ih
  | void | builtin | named => rfl

@[simp] theorem ranks_wrap (core : DeclaredType) (ranks : List Nat) :
    (core.wrap ranks).ranks = ranks ++ core.ranks := by
  induction ranks with
  | nil => rfl
  | cons rank ranks ih => exact congrArg (rank :: ·) ih

@[simp] theorem innermost_wrap (core : DeclaredType) (ranks : List Nat) :
    (core.wrap ranks).innermost = core.innermost := by
  induction ranks with
  | nil => rfl
  | cons rank ranks ih => exact ih

theorem wrap_innermost_ranks (plain : type.isUnannotated = true) :
    type.innermost.wrap type.ranks = type := by
  induction type with
  | array element rank nullable ih =>
      rw [isUnannotated, Bool.and_eq_true, Bool.not_eq_true'] at plain
      obtain ⟨rfl, element_plain⟩ := plain
      exact congrArg (fun inner => array inner rank false) (ih element_plain)
  | void | builtin | named => rfl

theorem isNullable_eq_false (plain : type.isUnannotated = true) : type.isNullable = false := by
  cases type with
  | array element rank nullable =>
      rw [isUnannotated, Bool.and_eq_true, Bool.not_eq_true'] at plain
      exact plain.1
  | void | builtin | named => simpa [isUnannotated, isNullable] using plain

theorem isUnannotated_innermost (plain : type.isUnannotated = true) :
    type.innermost.isUnannotated = true := by
  induction type with
  | array element rank nullable ih =>
      rw [isUnannotated, Bool.and_eq_true] at plain
      exact ih plain.2
  | void | builtin | named => exact plain

/-! ## Rank specifiers -/

/-- The rank specifiers of some levels, one after the other. -/
def rankSpecifiers (ranks : List Nat) : String :=
  String.join (ranks.map rankSpecifier)

@[simp] theorem rankSpecifiers_cons (rank : Nat) (ranks : List Nat) :
    rankSpecifiers (rank :: ranks) = rankSpecifier rank ++ rankSpecifiers ranks :=
  String.join_cons

@[simp] theorem rankSpecifiers_append (left right : List Nat) :
    rankSpecifiers (left ++ right) = rankSpecifiers left ++ rankSpecifiers right := by
  rw [rankSpecifiers, List.map_append, String.join_append]
  rfl

theorem toList_rankSpecifier (rank : Nat) :
    (rankSpecifier rank).toList = '[' :: (List.replicate (rank - 1) ',' ++ [']']) := by
  simp [rankSpecifier]

theorem eq_of_replicate_append {left right : Nat} {left_end right_end : List Char}
    (same : List.replicate left ',' ++ ']' :: left_end =
      List.replicate right ',' ++ ']' :: right_end) :
    left = right ∧ left_end = right_end := by
  induction left generalizing right with
  | zero =>
      cases right with
      | zero => exact ⟨rfl, (List.cons.inj same).2⟩
      | succ right => cases same
  | succ left ih =>
      cases right with
      | zero => cases same
      | succ right => exact (ih (List.cons.inj same).2).imp_left (congrArg (· + 1))

theorem rankSpecifiers_injective (left_ranked : ∀ rank ∈ left, 1 ≤ rank)
    (right_ranked : ∀ rank ∈ right, 1 ≤ rank)
    (same : rankSpecifiers left = rankSpecifiers right) : left = right := by
  induction left generalizing right with
  | nil =>
      cases right with
      | nil => rfl
      | cons rank right => simp [← String.toList_inj, toList_rankSpecifier, rankSpecifiers] at same
  | cons leftRank left ih =>
      cases right with
      | nil => simp [← String.toList_inj, toList_rankSpecifier, rankSpecifiers] at same
      | cons rightRank right =>
          have letters := congrArg String.toList same
          simp only [rankSpecifiers_cons, String.toList_append, toList_rankSpecifier,
            List.cons_append, List.append_assoc, List.nil_append, List.cons.injEq,
            true_and] at letters
          obtain ⟨commas, rest⟩ := eq_of_replicate_append letters
          have left_positive := left_ranked leftRank List.mem_cons_self
          have right_positive := right_ranked rightRank List.mem_cons_self
          have ranks_eq : leftRank = rightRank := by omega
          rw [ranks_eq, ih (fun rank listed => left_ranked rank (List.mem_cons_of_mem _ listed))
            (fun rank listed => right_ranked rank (List.mem_cons_of_mem _ listed))
            (String.toList_inj.mp rest)]

/-! ## Spellings -/

/-- The specifiers of a type stand behind its innermost type, that of the innermost level first. -/
theorem shapeText_eq (spelling : Spelling) (plain : type.isUnannotated = true) :
    type.shapeText spelling =
      type.innermost.shapeText spelling ++ rankSpecifiers type.ranks.reverse := by
  induction type with
  | array element rank nullable ih =>
      rw [isUnannotated, Bool.and_eq_true] at plain
      have unmarked : nullableMark spelling element.isNullable = "" := by
        rw [isNullable_eq_false plain.2, nullableMark]
        simp
      rw [shapeText, ih plain.2, unmarked, String.append_empty, innermost, ranks,
        List.reverse_cons, rankSpecifiers_append, rankSpecifiers_cons, String.append_assoc]
      exact congrArg (_ ++ ·) (congrArg (_ ++ ·) String.append_empty.symm)
  | void | builtin | named => exact String.append_empty.symm

theorem minimal_eq_shapeText (plain : type.isUnannotated = true) :
    type.minimal = type.shapeText .minimal := by
  rw [minimal, isNullable_eq_false plain]
  exact String.append_empty

/-- The three spellings of a type, and the declaration of a parameter of the type, are those of the
target language for a type that may be another one: its innermost type, and then its rank
specifiers from the outermost level to the innermost. -/
structure ReadsAs (type meant : DeclaredType) : Prop where
  minimal : type.minimal = meant.innermost.minimal ++ rankSpecifiers meant.ranks
  qualified : type.qualified = meant.innermost.qualified ++ rankSpecifiers meant.ranks
  globalQualified :
    type.globalQualified = meant.innermost.globalQualified ++ rankSpecifiers meant.ranks
  declaration : ∀ parameter : Parameter, parameter.type = type →
    parameter.declaration =
      parameter.mode.keyword ++ (meant.innermost.minimal ++ rankSpecifiers meant.ranks) ++ " " ++
        parameter.name

/-- What is written is read as the type with its levels the other way round. -/
theorem readsAs_turned (plain : type.isUnannotated = true) : type.ReadsAs type.turned := by
  have text (spelling : Spelling) : type.shapeText spelling =
      type.turned.innermost.shapeText spelling ++ rankSpecifiers type.turned.ranks := by
    rw [turned, innermost_wrap, innermost_innermost, ranks_wrap, ranks_innermost, List.append_nil]
    exact shapeText_eq spelling plain
  have written : type.minimal =
      type.turned.innermost.minimal ++ rankSpecifiers type.turned.ranks := by
    have core_plain : type.turned.innermost.isUnannotated = true := by
      rw [turned, innermost_wrap, innermost_innermost]
      exact isUnannotated_innermost plain
    rw [minimal_eq_shapeText plain, minimal_eq_shapeText core_plain]
    exact text .minimal
  refine ⟨written, text .qualified, text .global, ?_⟩
  rintro parameter rfl
  rw [Parameter.declaration, written]

/-- An array type is read as itself exactly if its ranks are the same from both ends; in any case it
is read as the type with its levels the other way round. -/
theorem readsAs_turned_and_self_iff {type : DeclaredType} (plain : type.isUnannotated = true)
    (ranked : ∀ rank ∈ type.ranks, 1 ≤ rank) :
    type.ReadsAs type.turned ∧ (type.ReadsAs type ↔ type.ranks.reverse = type.ranks) := by
  refine ⟨readsAs_turned plain, ?_, ?_⟩
  · intro itself
    have written := itself.qualified
    rw [qualified, shapeText_eq .qualified plain] at written
    refine rankSpecifiers_injective (fun rank listed => ranked rank (List.mem_reverse.mp listed))
      ranked ?_
    rw [← String.toList_inj] at written ⊢
    rw [String.toList_append, String.toList_append] at written
    exact List.append_cancel_left written
  · intro symmetric
    have turned_eq : type.turned = type := by
      rw [turned, symmetric, wrap_innermost_ranks plain]
    have turned_read := readsAs_turned plain
    rwa [turned_eq] at turned_read

/-- Levels of ranks one, two and three around `int`. -/
def mixedLevels : DeclaredType :=
  wrap (.builtin .int32 false) [1, 2, 3]

/-- Levels of different ranks are read the other way round, and not as they are declared. -/
theorem readsAs_turned_mixedLevels :
    mixedLevels.isUnannotated = true ∧ (∀ rank ∈ mixedLevels.ranks, 1 ≤ rank) ∧
      mixedLevels.ReadsAs (wrap (.builtin .int32 false) [3, 2, 1]) ∧
      ¬mixedLevels.ReadsAs mixedLevels := by
  have plain : mixedLevels.isUnannotated = true := rfl
  have ranked : ∀ rank ∈ mixedLevels.ranks, 1 ≤ rank := by decide
  obtain ⟨opposite, itself⟩ := readsAs_turned_and_self_iff plain ranked
  exact ⟨plain, ranked, opposite, fun read => absurd (itself.mp read) (by decide)⟩

/-- An array of matrices of `int`. -/
def matrices : DeclaredType :=
  .array (.array (.builtin .int32 false) 2 false) 1 false

/-- An array of matrices is not read as it is declared: `int[,][]` is a matrix of arrays. -/
theorem not_readsAs_matrices :
    matrices.isUnannotated = true ∧ (∀ rank ∈ matrices.ranks, 1 ≤ rank) ∧
      matrices.minimal = "int[,][]" ∧ ¬matrices.ReadsAs matrices := by
  refine ⟨rfl, by decide, by decide +kernel, fun itself => ?_⟩
  have written := itself.minimal
  revert written
  decide +kernel

end DeclaredType
end NodeLifecycle
