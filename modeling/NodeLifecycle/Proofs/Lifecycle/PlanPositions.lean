import NodeLifecycle.Proofs.Lifecycle.DisposalPlan

/-!
# Positions in a merged plan

A plan refers to its entries by their positions.  Whatever classifications a plan is merged from,
the positions are collected without a repetition and none is out of range or left out.  So the
entries can be read in both orders, each order visits every entry once, and one is the reverse of
the other.
-/

namespace NodeLifecycle
namespace DisposalPlan

/-- The entries at the given positions, if none of these is out of range. -/
def entriesAt? (plan : DisposalPlan) (positions : List Nat) : Option (List DisposalEntry) :=
  positions.mapM fun index => plan.entries[index]?

/-- Positions in range can be read, and nothing is passed over. -/
theorem entriesAt?_of_forall_lt {plan : DisposalPlan} {positions : List Nat}
    (inside : ∀ index ∈ positions, index < plan.entries.length) :
    plan.entriesAt? positions = some (positions.filterMap fun index => plan.entries[index]?) := by
  induction positions with
  | nil => rfl
  | cons index rest ih =>
      obtain ⟨first_inside, rest_inside⟩ := List.forall_mem_cons.mp inside
      have found := List.getElem?_eq_getElem first_inside
      rw [entriesAt?, List.mapM_cons, ← entriesAt?, ih rest_inside,
        List.filterMap_cons_some found, found]
      rfl

/-- A plan tracks the methods with an eligible classification among the given ones, and its
positions lead to every entry once. -/
structure VisitsEachEntry (classifications : List Classification) (plan : DisposalPlan) :
    Prop where
  /-- No two entries are for the same method. -/
  distinct : (plan.entries.map DisposalEntry.method).Nodup
  /-- The methods with an entry are those with a classification that is released on exit. -/
  tracked : ∀ method, method ∈ plan.entries.map DisposalEntry.method ↔
    ∃ classification ∈ classifications,
      classification.roles.disposesOnExit = true ∧ classification.method = method
  /-- The positions are collected from the called producers, in the order of the calls, and then
  from all entries. -/
  collected : plan.acquisition = acquireEach (hooked classifications) plan.entries
  /-- The positions are all positions, in some order. -/
  complete : plan.acquisition.Perm (List.range plan.entries.length)
  /-- Reading the entries as they are acquired does not fail. -/
  acquired : plan.entriesAt? plan.acquisition = some plan.acquisitionOrder
  /-- Reading the entries as they are released does not fail. -/
  released : plan.entriesAt? plan.acquisition.reverse = some plan.disposalOrder
  /-- Every entry is acquired once. -/
  acquired_once : plan.acquisitionOrder.Perm plan.entries
  /-- Every entry is released once. -/
  released_once : plan.disposalOrder.Perm plan.entries
  /-- What is acquired last is released first. -/
  reversed : plan.disposalOrder = plan.acquisitionOrder.reverse

section Merge

variable (decl : TypeDecl) (enterTree ready : List Classification)

theorem acquisition_merge_perm :
    (merge decl enterTree ready).acquisition.Perm
      (List.range (merge decl enterTree ready).entries.length) :=
  acquire_perm _ _

theorem lt_length_of_mem_acquisition_merge {index : Nat}
    (listed : index ∈ (merge decl enterTree ready).acquisition) :
    index < (merge decl enterTree ready).entries.length :=
  List.mem_range.mp ((acquisition_merge_perm decl enterTree ready).mem_iff.mp listed)

/-- Every merged plan visits each of its entries, whether or not a pass could have made the
classifications that it is merged from. -/
theorem visitsEachEntry_merge :
    (merge decl enterTree ready).VisitsEachEntry (enterTree ++ ready) where
  distinct := nodup_methods_entriesOf decl (enterTree ++ ready)
  tracked _ := mem_methods_entriesOf
  collected := acquire_eq_acquireEach _ _
  complete := acquisition_merge_perm decl enterTree ready
  acquired := by
    apply entriesAt?_of_forall_lt
    intro index listed
    exact lt_length_of_mem_acquisition_merge decl enterTree ready listed
  released := by
    apply entriesAt?_of_forall_lt
    intro index listed
    exact lt_length_of_mem_acquisition_merge decl enterTree ready (List.mem_reverse.mp listed)
  acquired_once := acquisitionOrder_merge_perm decl enterTree ready
  released_once := (disposalOrder_perm _).trans (acquisitionOrder_merge_perm decl enterTree ready)
  reversed := disposalOrder_eq_reverse _

end Merge

end DisposalPlan
end NodeLifecycle
