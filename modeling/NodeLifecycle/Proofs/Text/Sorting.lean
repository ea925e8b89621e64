import Mathlib.Data.List.Sort
import NodeLifecycle.Text.Sorting

/-!
# Stable sorting and the order of identifiers

Sorting by insertion is Mathlib's insertion sort, with the order as a Boolean function.  Elements of
which none has to come after another keep their order.  Identifiers are compared by the keys of
their characters and then as texts.  Both comparisons are transitive and reverse with their
arguments, and the second one tells all texts apart.  So the order is total, and no two texts are in
the same place.  The keys do not tell the case of ASCII letters, and nothing but that, so texts that
differ in case only stand together.  A sorted list of distinct texts is determined by the texts that
it holds.
-/

namespace NodeLifecycle

/-! ## Stable sorting -/

namespace StableSort

variable {α : Type} {le : α → α → Bool}

theorem insertBy_eq_orderedInsert (le : α → α → Bool) (element : α) (elements : List α) :
    insertBy le element elements =
      elements.orderedInsert (fun left right => le left right = true) element := by
  induction elements with
  | nil => rfl
  | cons first rest ih => rw [insertBy, List.orderedInsert_cons, ih]

theorem sortBy_eq_insertionSort (le : α → α → Bool) (elements : List α) :
    sortBy le elements = elements.insertionSort fun left right => le left right = true := by
  induction elements with
  | nil => rfl
  | cons first rest ih => rw [sortBy, List.insertionSort_cons, ih, insertBy_eq_orderedInsert]

theorem sortBy_perm (le : α → α → Bool) (elements : List α) :
    (sortBy le elements).Perm elements := by
  rw [sortBy_eq_insertionSort]
  exact List.perm_insertionSort _ elements

theorem pairwise_sortBy
    (trans : ∀ first second third, le first second = true → le second third = true →
      le first third = true)
    (total : ∀ left right, le left right = true ∨ le right left = true) (elements : List α) :
    (sortBy le elements).Pairwise fun left right => le left right = true := by
  have : IsTrans α fun left right => le left right = true := ⟨trans⟩
  have : Std.Total fun left right => le left right = true := ⟨total⟩
  rw [sortBy_eq_insertionSort]
  exact List.pairwise_insertionSort _ elements

/-- Elements of which none has to come after another keep their order. -/
theorem filter_sortBy {keep : α → Bool} (alike : ∀ left, keep left = true →
    ∀ right, keep right = true → le left right = true) (elements : List α) :
    (sortBy le elements).filter keep = elements.filter keep := by
  have ordered : (elements.filter keep).Pairwise fun left right => le left right = true :=
    List.pairwise_of_forall_mem_list fun left left_kept right right_kept =>
      alike left (List.of_mem_filter left_kept) right (List.of_mem_filter right_kept)
  have inside : (elements.filter keep).Sublist (sortBy le elements) := by
    rw [sortBy_eq_insertionSort]
    exact List.sublist_insertionSort ordered List.filter_sublist
  have kept := inside.filter keep
  simp only [List.filter_filter, Bool.and_self] at kept
  exact (kept.eq_of_length ((sortBy_perm le elements).filter keep).length_eq.symm).symm

theorem find?_sortBy {keep : α → Bool} (alike : ∀ left, keep left = true →
    ∀ right, keep right = true → le left right = true) (elements : List α) :
    (sortBy le elements).find? keep = elements.find? keep := by
  rw [← List.head?_filter, ← List.head?_filter, filter_sortBy alike]

end StableSort

/-! ## Comparisons -/

namespace IdentifierOrder

instance : Std.TransCmp compareKeys :=
  inferInstanceAs (Std.TransCmp (compareLex (compareOn Prod.fst) (compareOn Prod.snd)))

/-- The comparison that does not see the case of ASCII letters. -/
def compareFolded (left right : String) : Ordering :=
  List.compareLex compareKeys (keys left) (keys right)

instance : Std.TransCmp compareFolded where
  eq_swap {left right} := by
    rw [compareFolded, compareFolded]
    exact Std.OrientedCmp.eq_swap
  isLE_trans {first second third} before after := by
    rw [compareFolded] at before after ⊢
    exact Std.TransCmp.isLE_trans before after

theorem compare_eq_compareLex : compare = compareLex compareFolded Ord.compare := rfl

instance : Std.TransCmp compare :=
  inferInstanceAs (Std.TransCmp (compareLex compareFolded Ord.compare))

instance : Std.LawfulEqCmp compare where
  compare_self := Std.ReflCmp.compare_self
  eq_of_compare {left right} same := by
    rw [compare_eq_compareLex, compareLex, Ordering.then_eq_eq] at same
    exact Std.LawfulEqCmp.eq_of_compare same.2

@[simp] theorem le_self (text : String) : le text text = true := by
  have same : compare text text = .eq := Std.ReflCmp.compare_self
  rw [le, same]
  rfl

theorem le_trans {first second third : String} (before : le first second = true)
    (after : le second third = true) : le first third = true :=
  Std.TransCmp.isLE_trans before after

theorem le_total (left right : String) : le left right = true ∨ le right left = true := by
  have swapped : compare right left = (compare left right).swap := Std.OrientedCmp.eq_swap
  rw [le, le, swapped]
  cases compare left right with
  | lt => exact Or.inl rfl
  | eq => exact Or.inl rfl
  | gt => exact Or.inr rfl

theorem le_antisymm {left right : String} (before : le left right = true)
    (after : le right left = true) : left = right :=
  Std.LawfulEqCmp.eq_of_compare (Std.OrientedCmp.isLE_antisymm before after)

/-! ## Case -/

theorem charClass_eq_two {char : Char}
    (letter : 65 ≤ char.toNat ∧ char.toNat ≤ 90 ∨ 97 ≤ char.toNat ∧ char.toNat ≤ 122) :
    charClass char = 2 := by
  have not_digit : char.isDigit = false := by
    rw [Char.isDigit, Bool.and_eq_false_iff, decide_eq_false_iff_not, decide_eq_false_iff_not]
    right
    rw [UInt32.le_iff_toNat_le]
    change ¬char.toNat ≤ 57
    omega
  have alphabetic : Alphabetic.isAlphabetic char = true := by
    rw [Alphabetic.isAlphabetic, Alphabetic.ranges, Alphabetic.inRanges, if_neg (by omega),
      Bool.or_eq_true, decide_eq_true_eq]
    rcases letter with upper | lower
    · exact Or.inl upper.2
    · right
      rw [Alphabetic.inRanges, if_neg (by omega), Bool.or_eq_true, decide_eq_true_eq]
      exact Or.inl lower.2
  rw [charClass, not_digit, alphabetic]
  rfl

theorem charClass_toLower (char : Char) : charClass char.toLower = charClass char := by
  unfold Char.toLower
  split
  · rename_i upper
    obtain ⟨above, below⟩ := upper
    rw [ge_iff_le, UInt32.le_iff_toNat_le] at above
    rw [UInt32.le_iff_toNat_le] at below
    change 65 ≤ char.toNat at above
    change char.toNat ≤ 90 at below
    have shifted : (char.val + ('a'.val - 'A'.val)).toNat = char.toNat + 32 := by
      rw [UInt32.toNat_add]
      change (char.toNat + 32) % 2 ^ 32 = char.toNat + 32
      omega
    rw [charClass_eq_two (Or.inl ⟨above, below⟩)]
    apply charClass_eq_two
    right
    change 97 ≤ (char.val + ('a'.val - 'A'.val)).toNat ∧
      (char.val + ('a'.val - 'A'.val)).toNat ≤ 122
    omega
  · rfl

theorem charKey_eq (char : Char) : charKey char = (charClass char.toLower, char.toLower) := by
  rw [charKey, charClass_toLower]

theorem keys_eq_iff {left right : String} :
    keys left = keys right ↔ left.toList.map Char.toLower = right.toList.map Char.toLower := by
  have keyed (text : String) :
      keys text = (text.toList.map Char.toLower).map fun char => (charClass char, char) := by
    rw [keys, List.map_map]
    exact List.map_congr_left fun char _ => charKey_eq char
  rw [keyed, keyed]
  exact List.map_inj_right fun first second same => congrArg Prod.snd same

instance : Std.LawfulEqCmp compareKeys where
  compare_self := Std.ReflCmp.compare_self
  eq_of_compare {left right} same := by
    rw [compareKeys, compareLex, Ordering.then_eq_eq] at same
    exact Prod.ext (Std.LawfulEqOrd.eq_of_compare same.1) (Std.LawfulEqOrd.eq_of_compare same.2)

theorem compareFolded_eq_iff {left right : String} :
    compareFolded left right = .eq ↔
      left.toList.map Char.toLower = right.toList.map Char.toLower := by
  rw [compareFolded, Std.LawfulEqCmp.compare_eq_iff_eq, keys_eq_iff]

theorem isLE_compareFolded_of_compare_eq_lt {left right : String}
    (before : compare left right = .lt) : (compareFolded left right).isLE = true := by
  rw [compare_eq_compareLex, compareLex, Ordering.then_eq_lt] at before
  obtain earlier | ⟨same, -⟩ := before
  · rw [earlier]
    rfl
  · rw [same]
    rfl

/-- What stands between two texts that differ in case only differs from them in case only. -/
theorem compareFolded_eq_of_between {left between right : String}
    (same : compareFolded left right = .eq) (after_left : compare left between = .lt)
    (before_right : compare between right = .lt) : compareFolded left between = .eq := by
  have forth := isLE_compareFolded_of_compare_eq_lt after_left
  have back := isLE_compareFolded_of_compare_eq_lt before_right
  rw [← Std.TransCmp.congr_right same] at back
  exact Std.OrientedCmp.isLE_antisymm forth back

/-! ## Sorted lists -/

theorem compare_eq_lt_of_le {left right : String} (before : le left right = true)
    (different : left ≠ right) : compare left right = .lt := by
  cases compared : compare left right with
  | lt => rfl
  | eq => exact absurd (Std.LawfulEqCmp.eq_of_compare compared) different
  | gt =>
      rw [le, compared] at before
      cases before

theorem pairwise_lt_of_nodup {texts : List String}
    (sorted : texts.Pairwise fun left right => le left right = true) (distinct : texts.Nodup) :
    texts.Pairwise fun left right => compare left right = .lt :=
  (sorted.and distinct).imp fun both => compare_eq_lt_of_le both.1 both.2

theorem pairwise_sort {texts : List String} (distinct : texts.Nodup) :
    (sort texts).Pairwise fun left right => compare left right = .lt := by
  have sorted : (sort texts).Pairwise fun left right => le left right = true := by
    rw [sort]
    apply StableSort.pairwise_sortBy
    · intro first second third before after
      exact le_trans before after
    · intro left right
      exact le_total left right
  exact pairwise_lt_of_nodup sorted ((StableSort.sortBy_perm le texts).nodup_iff.mpr distinct)

/-- Symbols come before digits and digits before letters, and case decides last. -/
example : sort ["DoThing", "_Ready", "abc", "Abc", "a1", "a_", "B"] =
    ["_Ready", "a_", "a1", "Abc", "abc", "B", "DoThing"] := by
  decide +kernel

/-- Two lists in strict order hold the same texts only if they are the same. -/
theorem eq_of_pairwise {left right : List String}
    (left_sorted : left.Pairwise fun first second => compare first second = .lt)
    (right_sorted : right.Pairwise fun first second => compare first second = .lt)
    (same : ∀ text, text ∈ left ↔ text ∈ right) : left = right := by
  have apart {first second : String} (before : compare first second = .lt) : first ≠ second := by
    rintro rfl
    have equal : compare first first = .eq := Std.ReflCmp.compare_self
    rw [equal] at before
    cases before
  have together : left.Perm right :=
    (List.perm_ext_iff_of_nodup (left_sorted.imp apart) (right_sorted.imp apart)).mpr same
  refine together.eq_of_pairwise (fun first second _ _ before after => ?_) left_sorted right_sorted
  have swapped : compare first second = (compare second first).swap := Std.OrientedCmp.eq_swap
  rw [before, after] at swapped
  cases swapped

end IdentifierOrder
end NodeLifecycle
