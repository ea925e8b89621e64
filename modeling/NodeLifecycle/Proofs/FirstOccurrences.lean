import Mathlib.Data.List.Induction
import Mathlib.Data.List.Nodup

/-!
# First occurrences

Erasing duplicates keeps the first element of every class.  With classes given by a key, the kept
elements have distinct keys, no key is lost, and looking for a key finds the same element as before.
-/

namespace NodeLifecycle
namespace FirstOccurrences

variable {α κ : Type} [BEq κ]

/-- Induction for functions that go on with a part of the rest. -/
@[elab_as_elim]
private theorem filter_induction {motive : List α → Prop} (keep : α → α → Bool)
    (nil : motive [])
    (cons : ∀ first rest, motive (rest.filter (keep first)) → motive (first :: rest)) :
    ∀ elements, motive elements
  | [] => nil
  | first :: rest => cons first rest (filter_induction keep nil cons (rest.filter (keep first)))
termination_by elements => elements.length
decreasing_by exact Nat.lt_succ_of_le (List.length_filter_le _ _)

/-- The elements that come first among those with their key. -/
abbrev firstPerKey (key : α → κ) (elements : List α) : List α :=
  elements.eraseDupsBy fun left right => key left == key right

theorem map_firstPerKey (key : α → κ) (elements : List α) :
    (firstPerKey key elements).map key = (elements.map key).eraseDups := by
  induction elements using
    filter_induction (fun first other => decide ((key other == key first) = false)) with
  | nil => rfl
  | cons first rest induction =>
      rw [firstPerKey, List.eraseDupsBy_cons, List.map_cons, List.map_cons, List.eraseDups_cons,
        induction, List.filter_map]
      congr 3
      apply List.filter_congr
      intro other _
      simp

variable [LawfulBEq κ]

theorem nodup_eraseDups (elements : List κ) : elements.eraseDups.Nodup := by
  induction elements using filter_induction (fun first other : κ => !other == first) with
  | nil => exact List.nodup_nil
  | cons first rest induction =>
      rw [List.eraseDups_cons, List.nodup_cons]
      refine ⟨?_, induction⟩
      simp [List.mem_eraseDups]

omit [LawfulBEq κ] in
theorem eraseDups_sublist (elements : List κ) : elements.eraseDups.Sublist elements := by
  induction elements using filter_induction (fun first other : κ => !other == first) with
  | nil => exact List.Sublist.refl _
  | cons first rest induction =>
      rw [List.eraseDups_cons]
      exact (induction.trans List.filter_sublist).cons_cons first

/-- Append an element that has not come up yet. -/
def addNew [DecidableEq κ] (known : List κ) (element : κ) : List κ :=
  if element ∈ known then known else known ++ [element]

/-- Collecting what has not come up yet keeps the first occurrences. -/
theorem foldl_addNew [DecidableEq κ] (elements : List κ) :
    elements.foldl addNew [] = elements.eraseDups := by
  induction elements using List.reverseRecOn with
  | nil => rfl
  | append_singleton elements element ih =>
      rw [List.foldl_append, ih, List.foldl_cons, List.foldl_nil, List.eraseDups_append, addNew]
      by_cases known : element ∈ elements
      · rw [if_pos (List.mem_eraseDups.mpr known)]
        simp [List.removeAll, known]
      · rw [if_neg (mt List.mem_eraseDups.mp known)]
        simp [List.removeAll, known, List.eraseDups_cons]

theorem mem_foldl_addNew [DecidableEq κ] {known elements : List κ} {element : κ} :
    element ∈ elements.foldl addNew known ↔ element ∈ known ∨ element ∈ elements := by
  induction elements generalizing known with
  | nil => simp
  | cons first rest ih =>
      rw [List.foldl_cons, ih, addNew]
      split
      · rename_i listed
        rw [List.mem_cons, or_left_comm, or_iff_right_of_imp (a := element = first)]
        rintro rfl
        exact Or.inl listed
      · rw [List.mem_append, List.mem_singleton, List.mem_cons, or_assoc]

theorem foldl_addNew_of_nodup [DecidableEq κ] {known elements : List κ}
    (distinct : elements.Nodup) :
    elements.foldl addNew known =
      known ++ elements.filter fun element => !known.contains element := by
  induction elements generalizing known with
  | nil => simp
  | cons first rest ih =>
      obtain ⟨apart, others⟩ := List.nodup_cons.mp distinct
      rw [List.foldl_cons, ih others, addNew]
      split
      · rename_i listed
        rw [List.filter_cons_of_neg (by simpa using listed)]
      · rename_i fresh
        rw [List.filter_cons_of_pos (by simpa using fresh), List.append_assoc,
          List.singleton_append]
        congr 2
        apply List.filter_congr
        intro other listed
        have differs : other ≠ first := fun same => apart (same ▸ listed)
        simp [differs]

theorem nodup_keys_firstPerKey (key : α → κ) (elements : List α) :
    ((firstPerKey key elements).map key).Nodup := by
  rw [map_firstPerKey]
  exact nodup_eraseDups _

theorem find?_firstPerKey (key : α → κ) (wanted : κ) (elements : List α) :
    (firstPerKey key elements).find? (fun element => key element == wanted) =
      elements.find? fun element => key element == wanted := by
  induction elements using
    filter_induction (fun first other => decide ((key other == key first) = false)) with
  | nil => rfl
  | cons first rest induction =>
      rw [firstPerKey, List.eraseDupsBy_cons, List.find?_cons, List.find?_cons, induction]
      split
      · rfl
      · rename_i missed
        rw [List.find?_filter]
        congr 1
        funext other
        -- an element with the wanted key cannot have been erased along with the first one
        rw [Bool.eq_iff_iff]
        simp only [decide_eq_true_eq, and_iff_right_iff_imp]
        intro found
        rw [eq_of_beq found, BEq.comm]
        exact missed

theorem find?_eq_some_iff_of_nodup {key : α → κ} {elements : List α}
    (distinct : (elements.map key).Nodup) {wanted : κ} {element : α} :
    elements.find? (fun other => key other == wanted) = some element ↔
      element ∈ elements ∧ key element = wanted := by
  constructor
  · intro found
    exact ⟨List.mem_of_find?_eq_some found, by simpa using List.find?_some found⟩
  · rintro ⟨listed, rfl⟩
    cases found : elements.find? fun other => key other == key element with
    | none =>
        have missed := List.find?_eq_none.mp found element listed
        simp at missed
    | some other =>
        have same : key other = key element := by simpa using List.find?_some found
        rw [List.inj_on_of_nodup_map distinct (List.mem_of_find?_eq_some found) listed same]

/-- Erasing duplicates commutes with a selection that keeps the selected elements apart. -/
theorem eraseDups_filterMap {ι : Type} [BEq ι] [LawfulBEq ι] (select : ι → Option κ)
    (elements : List ι)
    (injective : ∀ left ∈ elements, ∀ right ∈ elements, ∀ selected, select left = some selected →
      select right = some selected → left = right) :
    (elements.filterMap select).eraseDups = elements.eraseDups.filterMap select := by
  induction elements using filter_induction (fun first other : ι => !other == first) with
  | nil => rfl
  | cons first rest induction =>
      have remaining := induction fun left left_mem right right_mem =>
        injective left (List.mem_cons_of_mem _ (List.mem_of_mem_filter left_mem)) right
          (List.mem_cons_of_mem _ (List.mem_of_mem_filter right_mem))
      rw [List.eraseDups_cons]
      cases selected : select first with
      | none =>
          rw [List.filterMap_cons_none selected, List.filterMap_cons_none selected, ← remaining,
            List.filterMap_filter]
          congr 1
          apply List.filterMap_congr
          intro other _
          by_cases repeated : other = first
          · rw [repeated, selected, ite_self]
          · simp [repeated]
      | some key =>
          rw [List.filterMap_cons_some selected, List.filterMap_cons_some selected,
            List.eraseDups_cons, ← remaining, List.filterMap_filter, List.filter_filterMap]
          congr 2
          apply List.filterMap_congr
          intro other member
          by_cases repeated : other = first
          · simp [repeated, selected, Option.filter]
          · have kept : select other ≠ some key := fun same =>
              repeated (injective other (List.mem_cons_of_mem _ member) first
                List.mem_cons_self key same selected)
            cases other_selected : select other with
            | none => simp [repeated]
            | some other_key =>
                rw [other_selected] at kept
                have keys_apart : other_key ≠ key := fun same => kept (congrArg some same)
                simp [repeated, keys_apart, Option.filter]

theorem eraseDups_map {ι : Type} [BEq ι] [LawfulBEq ι] (rename : ι → κ) (elements : List ι)
    (injective : ∀ left ∈ elements, ∀ right ∈ elements, rename left = rename right → left = right) :
    (elements.map rename).eraseDups = elements.eraseDups.map rename := by
  rw [← List.filterMap_eq_map, eraseDups_filterMap, List.filterMap_eq_map]
  intro left left_mem right right_mem selected left_eq right_eq
  refine injective left left_mem right right_mem ?_
  exact Option.some.inj (left_eq.trans right_eq.symm)

end FirstOccurrences
end NodeLifecycle
