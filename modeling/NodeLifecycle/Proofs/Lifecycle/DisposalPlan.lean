import Mathlib.Data.List.Nodup
import NodeLifecycle.Lifecycle.DisposalPlan
import NodeLifecycle.Proofs.FirstOccurrences
import NodeLifecycle.Proofs.Text.Sorting

/-!
# What a merged plan holds

A plan has one entry for each name with an eligible classification, made from the first of them.
Its acquisition order visits every entry once: the entries of the called producers come first, in
the order of their first calls, and the others follow as they are declared.  Nothing is assumed
about the classifications.
-/

namespace NodeLifecycle
namespace DisposalPlan

variable {decl : TypeDecl} {classifications : List Classification}

/-! ## Entries -/

theorem mem_eligible {classification : Classification} :
    classification ∈ eligible classifications ↔
      classification ∈ classifications ∧ classification.roles.disposesOnExit = true :=
  List.mem_filter

theorem find?_eligible (classifications : List Classification) (method : String) :
    (eligible classifications).find? (fun classification => classification.method == method) =
      classifications.find? fun classification =>
        classification.roles.disposesOnExit && classification.method == method := by
  simp only [eligible, List.find?_filter, Bool.decide_and, Bool.decide_eq_true]

theorem tracked_of_find?_eq_some {classification : Classification} {method : String}
    (found : classifications.find? (fun classification =>
        classification.roles.disposesOnExit && classification.method == method) =
      some classification) :
    classification.roles.disposesOnExit = true ∧ classification.method = method := by
  simpa using List.find?_some found

theorem entriesOf_perm (decl : TypeDecl) (classifications : List Classification) :
    (entriesOf decl classifications).Perm
      ((firstPerMethod (eligible classifications)).map .ofClassification) :=
  (StableSort.sortBy_perm _ _).map _

theorem nodup_methods_entriesOf (decl : TypeDecl) (classifications : List Classification) :
    ((entriesOf decl classifications).map DisposalEntry.method).Nodup := by
  rw [((entriesOf_perm decl classifications).map DisposalEntry.method).nodup_iff, List.map_map]
  exact FirstOccurrences.nodup_keys_firstPerKey Classification.method (eligible classifications)

theorem mem_methods_entriesOf {method : String} :
    method ∈ (entriesOf decl classifications).map DisposalEntry.method ↔
      ∃ classification ∈ classifications,
        classification.roles.disposesOnExit = true ∧ classification.method = method := by
  rw [((entriesOf_perm decl classifications).map DisposalEntry.method).mem_iff, List.map_map]
  have kept := FirstOccurrences.map_firstPerKey Classification.method (eligible classifications)
  change method ∈ (firstPerMethod (eligible classifications)).map Classification.method ↔ _
  rw [firstPerMethod, kept, List.mem_eraseDups, List.mem_map]
  simp only [mem_eligible, and_assoc]

/-- Each entry is made from the first classification of its method that is released on exit. -/
theorem mem_entriesOf {entry : DisposalEntry} :
    entry ∈ entriesOf decl classifications ↔
      ∃ first, classifications.find? (fun classification =>
          classification.roles.disposesOnExit && classification.method == entry.method) =
            some first ∧
        .ofClassification first = entry := by
  rw [(entriesOf_perm decl classifications).mem_iff, List.mem_map, ← find?_eligible]
  have distinct := FirstOccurrences.nodup_keys_firstPerKey Classification.method
    (eligible classifications)
  constructor
  · rintro ⟨first, first_mem, rfl⟩
    refine ⟨first, ?_, rfl⟩
    rw [← FirstOccurrences.find?_firstPerKey Classification.method]
    exact (FirstOccurrences.find?_eq_some_iff_of_nodup distinct).mpr ⟨first_mem, rfl⟩
  · rintro ⟨first, found, rfl⟩
    rw [← FirstOccurrences.find?_firstPerKey Classification.method] at found
    exact ⟨first, List.mem_of_find?_eq_some found, rfl⟩

/-! ## Acquisition -/

theorem exists_getElem?_of_indexOf? {entries : List DisposalEntry} {method : String} {index : Nat}
    (found : indexOf? entries method = some index) :
    ∃ entry, entries[index]? = some entry ∧ entry.method = method := by
  obtain ⟨inside, same, _⟩ := List.findIdx?_eq_some_iff_getElem.mp found
  exact ⟨entries[index], List.getElem?_eq_getElem inside, eq_of_beq same⟩

/-- Append the position of a method's entry, unless it has none or is there already. -/
def acquireCalled (entries : List DisposalEntry) (positions : List Nat) (method : String) :
    List Nat :=
  match indexOf? entries method with
  | some index => FirstOccurrences.addNew positions index
  | none => positions

/-- Acquire called producers one after the other, and then the entries that are left. -/
def acquireEach (hooked : List String) (entries : List DisposalEntry) : List Nat :=
  (List.range entries.length).foldl FirstOccurrences.addNew
    (hooked.foldl (acquireCalled entries) [])

/-- The acquisition order comes about one position after the other. -/
theorem acquire_eq_acquireEach (hooked : List String) (entries : List DisposalEntry) :
    acquire hooked entries = acquireEach hooked entries := by
  have called : hooked.foldl (acquireCalled entries) [] = acquiredByCalls hooked entries := by
    rw [acquiredByCalls, ← FirstOccurrences.foldl_addNew, List.foldl_filterMap]
    congr
    funext positions method
    rw [acquireCalled]
    cases indexOf? entries method <;> rfl
  rw [acquireEach, called, FirstOccurrences.foldl_addNew_of_nodup List.nodup_range, acquire]

/-- Distinct positions in a list of the given length. -/
structure ArePositions (size : Nat) (positions : List Nat) : Prop where
  /-- No position is repeated. -/
  nodup : positions.Nodup
  /-- No position is out of range. -/
  lt_size : ∀ index ∈ positions, index < size

namespace ArePositions

variable {size : Nat} {positions : List Nat}

theorem nil : ArePositions size [] where
  nodup := List.nodup_nil
  lt_size := by simp

/-- One more position in range keeps them distinct and in range. -/
theorem addNew (valid : ArePositions size positions) {index : Nat} (inside : index < size) :
    ArePositions size (FirstOccurrences.addNew positions index) := by
  rw [FirstOccurrences.addNew]
  split
  · exact valid
  · rename_i fresh
    constructor
    · refine List.nodup_append.mpr ⟨valid.nodup, List.nodup_singleton index, ?_⟩
      rintro known listed other new rfl
      exact fresh (List.mem_singleton.mp new ▸ listed)
    · intro other listed
      obtain known | new := List.mem_append.mp listed
      · exact valid.lt_size other known
      · rwa [List.mem_singleton.mp new]

/-- So does a call, whether its method has an entry or not. -/
theorem acquireCalled {entries : List DisposalEntry} (valid : ArePositions entries.length positions)
    (method : String) :
    ArePositions entries.length (DisposalPlan.acquireCalled entries positions method) := by
  rw [DisposalPlan.acquireCalled]
  split
  · rename_i found
    obtain ⟨inside, _⟩ := List.findIdx?_eq_some_iff_getElem.mp found
    exact valid.addNew inside
  · exact valid

end ArePositions

theorem arePositions_acquireEach (hooked : List String) (entries : List DisposalEntry) :
    ArePositions entries.length (acquireEach hooked entries) := by
  have called : ArePositions entries.length (hooked.foldl (acquireCalled entries) []) :=
    List.foldlRecOn hooked _ ArePositions.nil fun _ valid method _ => valid.acquireCalled method
  exact List.foldlRecOn (List.range entries.length) _ called fun _ valid _ listed =>
    valid.addNew (List.mem_range.mp listed)

theorem acquire_perm (hooked : List String) (entries : List DisposalEntry) :
    (acquire hooked entries).Perm (List.range entries.length) := by
  have valid := arePositions_acquireEach hooked entries
  rw [acquire_eq_acquireEach, List.perm_ext_iff_of_nodup valid.nodup List.nodup_range]
  intro index
  constructor
  · intro acquired
    exact List.mem_range.mpr (valid.lt_size index acquired)
  · intro inside
    exact FirstOccurrences.mem_foldl_addNew.mpr (Or.inr inside)

private theorem filterMap_getElem?_range {α : Type} (elements : List α) :
    (List.range elements.length).filterMap (fun index => elements[index]?) = elements := by
  induction elements with
  | nil => rfl
  | cons first rest induction =>
      rw [List.length_cons, List.range_succ_eq_map, List.filterMap_cons, List.filterMap_map]
      simp only [List.getElem?_cons_zero]
      congr 1

theorem acquisitionOrder_merge_perm (decl : TypeDecl) (enterTree ready : List Classification) :
    (merge decl enterTree ready).acquisitionOrder.Perm (merge decl enterTree ready).entries := by
  have visited := (acquire_perm (hooked (enterTree ++ ready))
    (entriesOf decl (enterTree ++ ready))).filterMap
      fun index => (entriesOf decl (enterTree ++ ready))[index]?
  rw [filterMap_getElem?_range] at visited
  exact visited

section Order

variable {entries : List DisposalEntry} {hooked : List String}

private theorem mem_acquiredByCalls (distinct : (entries.map DisposalEntry.method).Nodup)
    {index : Nat} {entry : DisposalEntry} (listed : entries[index]? = some entry) :
    index ∈ acquiredByCalls hooked entries ↔ entry.method ∈ hooked := by
  rw [acquiredByCalls, List.mem_eraseDups, List.mem_filterMap]
  constructor
  · rintro ⟨method, called, found⟩
    obtain ⟨other, other_listed, same⟩ := exists_getElem?_of_indexOf? found
    rw [listed, Option.some_inj] at other_listed
    rw [other_listed, same]
    exact called
  · intro called
    refine ⟨entry.method, called, ?_⟩
    obtain ⟨inside, entry_eq⟩ := List.getElem?_eq_some_iff.mp listed
    rw [indexOf?, List.findIdx?_eq_some_iff_getElem]
    refine ⟨inside, by simp [entry_eq], ?_⟩
    intro earlier before
    have apart := (List.pairwise_iff_getElem.mp distinct) earlier index
      (by simpa using Nat.lt_trans before inside) (by simpa using inside) before
    simpa [entry_eq] using apart

/-- The called methods come first, each in the place of its first call. -/
private theorem map_method_acquiredByCalls
    (known : ∀ method ∈ hooked, method ∈ entries.map DisposalEntry.method) :
    (((acquiredByCalls hooked entries).filterMap fun index => entries[index]?).map
      DisposalEntry.method) = hooked.eraseDups := by
  -- the place of a called producer is where its entry stands, so places tell producers apart
  let place (method : String) : Nat := entries.findIdx fun entry => entry.method == method
  have placed (method : String) (called : method ∈ hooked) :
      indexOf? entries method = some (place method) ∧
        (entries[place method]?).map DisposalEntry.method = some method := by
    obtain ⟨entry, entry_mem, rfl⟩ := List.mem_map.mp (known method called)
    have found : entries.findIdx? (fun other => other.method == entry.method) =
        some (place entry.method) :=
      List.findIdx?_eq_some_of_exists ⟨entry, entry_mem, by simp⟩
    obtain ⟨other, listed, same⟩ := exists_getElem?_of_indexOf? found
    exact ⟨found, by rw [listed, Option.map_some, same]⟩
  have positions : hooked.filterMap (indexOf? entries) = hooked.map place := by
    rw [← List.filterMap_eq_map]
    apply List.filterMap_congr
    intro method called
    exact (placed method called).1
  have place_injective : ∀ left ∈ hooked, ∀ right ∈ hooked, place left = place right →
      left = right := by
    intro left left_called right right_called same
    have left_read := (placed left left_called).2
    rw [same, (placed right right_called).2] at left_read
    exact (Option.some.inj left_read).symm
  rw [acquiredByCalls, positions, FirstOccurrences.eraseDups_map place hooked place_injective,
    List.filterMap_map, List.map_filterMap]
  calc
    hooked.eraseDups.filterMap
        (fun method => (entries[place method]?).map DisposalEntry.method) =
        hooked.eraseDups.filterMap some := by
      apply List.filterMap_congr
      intro method called
      exact (placed method (List.mem_eraseDups.mp called)).2
    _ = hooked.eraseDups := List.filterMap_some

private theorem filterMap_remaining (distinct : (entries.map DisposalEntry.method).Nodup) :
    ((List.range entries.length).filter fun index =>
        !(acquiredByCalls hooked entries).contains index).filterMap
          (fun index => entries[index]?) =
      entries.filter fun entry => !hooked.contains entry.method := by
  conv_rhs => rw [← filterMap_getElem?_range entries, List.filter_filterMap]
  rw [List.filterMap_filter]
  apply List.filterMap_congr
  intro index inside
  have listed := List.getElem?_eq_getElem (List.mem_range.mp inside)
  have called : index ∈ acquiredByCalls hooked entries ↔ _ := mem_acquiredByCalls distinct listed
  rw [listed]
  by_cases acquired : index ∈ acquiredByCalls hooked entries
  · simp [Option.filter, acquired, called.mp acquired]
  · simp [Option.filter, acquired, mt called.mpr acquired]

end Order

theorem mem_methods_entriesOf_of_mem_hooked (decl : TypeDecl) {method : String}
    (called : method ∈ hooked classifications) :
    method ∈ (entriesOf decl classifications).map DisposalEntry.method := by
  obtain ⟨classification, listed, rfl⟩ := List.mem_map.mp called
  obtain ⟨given, released⟩ := mem_eligible.mp (List.mem_of_mem_filter listed)
  exact mem_methods_entriesOf.mpr ⟨classification, given, released, rfl⟩

/-- The plan acquires the called producers in the order of their first calls, and then the others
as they are declared. -/
theorem exists_acquisitionOrder_merge (decl : TypeDecl) (enterTree ready : List Classification) :
    ∃ called : List DisposalEntry,
      called.map DisposalEntry.method = (hooked (enterTree ++ ready)).eraseDups ∧
        (merge decl enterTree ready).acquisitionOrder =
          called ++ (merge decl enterTree ready).entries.filter fun entry =>
            !(hooked (enterTree ++ ready)).contains entry.method := by
  refine ⟨_, map_method_acquiredByCalls fun method called =>
    mem_methods_entriesOf_of_mem_hooked decl called, ?_⟩
  rw [acquisitionOrder, merge, acquire, List.filterMap_append,
    filterMap_remaining (nodup_methods_entriesOf decl (enterTree ++ ready))]

end DisposalPlan
end NodeLifecycle
