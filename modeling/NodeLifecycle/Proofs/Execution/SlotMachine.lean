import Mathlib.Data.List.Induction
import Mathlib.Data.List.Nodup
import Mathlib.Logic.Function.Basic
import NodeLifecycle.Lifecycle.HookCall

/-!
# A machine with a slot for each method

The calls of the overrides run on a machine that keeps, for each method, the resource that its slot
holds.  Resources are numbered as they are created.  The machine disposes a resource only when it
empties the slot that holds it, so no resource is disposed twice; a resource is lost exactly when
an acquisition overwrites a slot that still holds one.
-/

namespace NodeLifecycle

/-- What a node holds, and what became of the resources that it does not hold any more. -/
structure SlotState where
  /-- The resource in the slot of each method. -/
  held : String → Option Nat
  /-- The number of resources created so far; it is also the number of the next one. -/
  created : Nat
  /-- The resources that were disposed, the latest first. -/
  disposed : List Nat

namespace SlotState

/-- All slots are empty and nothing has been created. -/
def initial : SlotState where
  held := fun _ => none
  created := 0
  disposed := []

/-- Dispose what a slot holds, then empty the slot. -/
def release (state : SlotState) (method : String) : SlotState where
  held := Function.update state.held method none
  created := state.created
  disposed := (state.held method).toList ++ state.disposed

/-- Put a fresh resource into a slot.  What the slot held is not disposed. -/
def store (state : SlotState) (method : String) : SlotState where
  held := Function.update state.held method (some state.created)
  created := state.created + 1
  disposed := state.disposed

/-- One call.  `released` are the slots that are emptied, in this order, when all resources are
released. -/
def exec (released : List String) (state : SlotState) : HookCall → SlotState
  | .initFromScene _ => state
  | .invoke _ => state
  | .acquire method => state.store method
  | .update method => (state.release method).store method
  | .disposeAll => released.foldl release state

def run (released : List String) (calls : List HookCall) (state : SlotState) : SlotState :=
  calls.foldl (exec released) state

theorem run_append (released : List String) (before after : List HookCall) (state : SlotState) :
    run released (before ++ after) state = run released after (run released before state) :=
  List.foldl_append

theorem run_concat (released : List String) (calls : List HookCall) (call : HookCall)
    (state : SlotState) :
    run released (calls ++ [call]) state = exec released (run released calls state) call :=
  run_append released calls [call] state

variable {state : SlotState} {released : List String} {calls : List HookCall} {method : String}
  {resource : Nat}

/-! ## What the slots hold -/

theorem held_release (state : SlotState) (method other : String) :
    (state.release method).held other = if other = method then none else state.held other :=
  Function.update_apply ..

theorem held_store (state : SlotState) (method other : String) :
    (state.store method).held other =
      if other = method then some state.created else state.held other :=
  Function.update_apply ..

theorem held_foldl_release (released : List String) (state : SlotState) (method : String) :
    (released.foldl release state).held method =
      if method ∈ released then none else state.held method := by
  induction released generalizing state with
  | nil => rfl
  | cons first rest induction =>
      rw [List.foldl_cons, induction, held_release]
      by_cases later : method ∈ rest <;> by_cases now : method = first <;> simp [later, now]

theorem held_exec_eq_none {call : HookCall} (empty : state.held method = none)
    (other : call.producer? ≠ some method) : (exec released state call).held method = none := by
  cases call with
  | initFromScene member => exact empty
  | invoke invoked => exact empty
  | acquire acquired =>
      have apart : method ≠ acquired := fun same => other (by rw [same]; rfl)
      rw [exec, held_store, if_neg apart, empty]
  | update updated =>
      have apart : method ≠ updated := fun same => other (by rw [same]; rfl)
      rw [exec, held_store, if_neg apart, held_release, if_neg apart, empty]
  | disposeAll => rw [exec, held_foldl_release, empty, ite_self]

theorem held_run_eq_none (empty : state.held method = none)
    (unused : ∀ call ∈ calls, call.producer? ≠ some method) :
    (run released calls state).held method = none := by
  induction calls using List.reverseRecOn with
  | nil => exact empty
  | append_singleton earlier call induction =>
      rw [run_concat]
      refine held_exec_eq_none (induction fun other listed => unused other ?_) (unused call ?_)
      · exact List.mem_append_left _ listed
      · exact List.mem_append_right _ List.mem_cons_self

theorem held_run_initial_ne_none_iff (unreleased : .disposeAll ∉ calls) :
    (run released calls initial).held method ≠ none ↔
      ∃ call ∈ calls, call.producer? = some method := by
  induction calls using List.reverseRecOn with
  | nil => simp [run, initial]
  | append_singleton earlier call induction =>
      rw [List.mem_append, not_or, List.mem_singleton] at unreleased
      simp only [run_concat, List.mem_append, List.mem_singleton, or_and_right, exists_or,
        exists_eq_left, ← induction unreleased.1]
      cases call with
      | initFromScene member => simp [exec, HookCall.producer?]
      | invoke invoked => simp [exec, HookCall.producer?]
      | acquire acquired =>
          rw [exec, held_store, HookCall.producer?]
          by_cases same : method = acquired <;> simp [same, eq_comm]
      | update updated =>
          rw [exec, held_store, held_release, HookCall.producer?]
          by_cases same : method = updated <;> simp [same, eq_comm]
      | disposeAll => exact absurd rfl unreleased.2

/-- Where every slot that a run fills is among those to be released, releasing them leaves nothing
behind. -/
theorem held_exec_disposeAll
    (covered : ∀ call ∈ calls, ∀ method, call.producer? = some method → method ∈ released)
    (method : String) :
    (exec released (run released calls initial) .disposeAll).held method = none := by
  rw [exec, held_foldl_release]
  split
  · rfl
  · rename_i uncovered
    exact held_run_eq_none rfl fun call listed produced =>
      uncovered (covered call listed method produced)

/-! ## At most one disposal -/

/-- Every resource is at one place at most: in one slot, or among the disposed ones. -/
structure Valid (state : SlotState) : Prop where
  /-- A held resource has been created. -/
  created_of_held : ∀ {method resource}, state.held method = some resource →
    resource < state.created
  /-- Two slots never hold the same resource. -/
  eq_of_held : ∀ {left right resource}, state.held left = some resource →
    state.held right = some resource → left = right
  /-- A disposed resource has been created. -/
  created_of_disposed : ∀ {resource}, resource ∈ state.disposed → resource < state.created
  /-- A held resource has not been disposed. -/
  not_disposed_of_held : ∀ {method resource}, state.held method = some resource →
    resource ∉ state.disposed
  /-- No resource has been disposed twice. -/
  nodup_disposed : state.disposed.Nodup

theorem valid_initial : initial.Valid where
  created_of_held held := nomatch held
  eq_of_held held := nomatch held
  created_of_disposed disposed := nomatch disposed
  not_disposed_of_held held := nomatch held
  nodup_disposed := List.nodup_nil

theorem held_of_held_release {other : String}
    (held : (state.release method).held other = some resource) :
    other ≠ method ∧ state.held other = some resource := by
  rw [held_release] at held
  split at held
  · cases held
  · exact ⟨‹_›, held⟩

theorem mem_disposed_release :
    resource ∈ (state.release method).disposed ↔
      state.held method = some resource ∨ resource ∈ state.disposed := by
  rw [release, List.mem_append, Option.mem_toList]

theorem Valid.release (valid : state.Valid) (method : String) : (state.release method).Valid where
  created_of_held held := valid.created_of_held (held_of_held_release held).2
  eq_of_held left right :=
    valid.eq_of_held (held_of_held_release left).2 (held_of_held_release right).2
  created_of_disposed disposed :=
    (mem_disposed_release.mp disposed).elim valid.created_of_held valid.created_of_disposed
  not_disposed_of_held := by
    intro other resource held disposed
    obtain ⟨apart, held⟩ := held_of_held_release held
    obtain emptied | earlier := mem_disposed_release.mp disposed
    · exact apart (valid.eq_of_held held emptied)
    · exact valid.not_disposed_of_held held earlier
  nodup_disposed := by
    rw [SlotState.release, List.nodup_append]
    refine ⟨?_, valid.nodup_disposed, ?_⟩
    · cases state.held method <;> simp
    · rintro resource emptied other disposed rfl
      exact valid.not_disposed_of_held (Option.mem_toList.mp emptied) disposed

theorem held_of_held_store {other : String}
    (held : (state.store method).held other = some resource) :
    other = method ∧ resource = state.created ∨
      other ≠ method ∧ state.held other = some resource := by
  rw [held_store] at held
  split at held
  · exact Or.inl ⟨‹_›, (Option.some.inj held).symm⟩
  · exact Or.inr ⟨‹_›, held⟩

theorem Valid.store (valid : state.Valid) (method : String) : (state.store method).Valid where
  created_of_held held := by
    obtain ⟨-, rfl⟩ | ⟨-, held⟩ := held_of_held_store held
    · exact Nat.lt_succ_self _
    · exact Nat.lt_succ_of_lt (valid.created_of_held held)
  eq_of_held := by
    intro left right resource left_held right_held
    obtain ⟨rfl, rfl⟩ | ⟨-, left_before⟩ := held_of_held_store left_held
    · obtain ⟨same, -⟩ | ⟨-, right_before⟩ := held_of_held_store right_held
      · exact same.symm
      · exact absurd (valid.created_of_held right_before) (Nat.lt_irrefl _)
    · obtain ⟨-, rfl⟩ | ⟨-, right_before⟩ := held_of_held_store right_held
      · exact absurd (valid.created_of_held left_before) (Nat.lt_irrefl _)
      · exact valid.eq_of_held left_before right_before
  created_of_disposed disposed := Nat.lt_succ_of_lt (valid.created_of_disposed disposed)
  not_disposed_of_held held disposed := by
    obtain ⟨-, rfl⟩ | ⟨-, held⟩ := held_of_held_store held
    · exact absurd (valid.created_of_disposed disposed) (Nat.lt_irrefl _)
    · exact valid.not_disposed_of_held held disposed
  nodup_disposed := valid.nodup_disposed

theorem Valid.foldl_release (valid : state.Valid) (released : List String) :
    (released.foldl SlotState.release state).Valid := by
  induction released generalizing state with
  | nil => exact valid
  | cons first rest induction => exact induction (valid.release first)

theorem Valid.exec (valid : state.Valid) (released : List String) (call : HookCall) :
    (exec released state call).Valid := by
  cases call with
  | initFromScene member => exact valid
  | invoke invoked => exact valid
  | acquire acquired => exact valid.store acquired
  | update updated => exact (valid.release updated).store updated
  | disposeAll => exact valid.foldl_release released

theorem Valid.run (valid : state.Valid) (released : List String) (calls : List HookCall) :
    (run released calls state).Valid := by
  induction calls generalizing state with
  | nil => exact valid
  | cons call rest induction => exact induction (valid.exec released call)

/-! ## Lost resources -/

/-- A resource is lost if nothing holds it although it was not disposed. -/
structure Lost (state : SlotState) (resource : Nat) : Prop where
  /-- The resource has been created. -/
  created : resource < state.created
  /-- No slot holds the resource. -/
  not_held : ∀ method, state.held method ≠ some resource
  /-- The resource has not been disposed. -/
  not_disposed : resource ∉ state.disposed

theorem lost_release_iff : (state.release method).Lost resource ↔ state.Lost resource := by
  constructor
  · rintro ⟨created, not_held, not_disposed⟩
    rw [mem_disposed_release, not_or] at not_disposed
    refine ⟨created, ?_, not_disposed.2⟩
    intro other held
    by_cases same : other = method
    · exact not_disposed.1 (same ▸ held)
    · exact not_held other (by rw [held_release, if_neg same, held])
  · rintro ⟨created, not_held, not_disposed⟩
    refine ⟨created, fun other held => not_held other (held_of_held_release held).2, ?_⟩
    rw [mem_disposed_release, not_or]
    exact ⟨not_held method, not_disposed⟩

theorem lost_foldl_release_iff :
    (released.foldl release state).Lost resource ↔ state.Lost resource := by
  induction released generalizing state with
  | nil => rfl
  | cons first rest induction => rw [List.foldl_cons, induction, lost_release_iff]

theorem Lost.store (lost : state.Lost resource) (method : String) :
    (state.store method).Lost resource where
  created := Nat.lt_succ_of_lt lost.created
  not_held other held := by
    obtain ⟨-, rfl⟩ | ⟨-, held⟩ := held_of_held_store held
    · exact absurd lost.created (Nat.lt_irrefl _)
    · exact lost.not_held other held
  not_disposed := lost.not_disposed

theorem lost_store_iff (empty : state.held method = none) :
    (state.store method).Lost resource ↔ state.Lost resource := by
  refine ⟨?_, fun lost => lost.store method⟩
  rintro ⟨created, not_held, not_disposed⟩
  have fresh : resource ≠ state.created := by
    rintro rfl
    exact not_held method (by rw [held_store, if_pos rfl])
  refine ⟨Nat.lt_of_le_of_ne (Nat.le_of_lt_succ created) fresh, ?_, not_disposed⟩
  intro other held
  have apart : other ≠ method := by
    rintro rfl
    rw [empty] at held
    cases held
  exact not_held other (by rw [held_store, if_neg apart, held])

theorem Valid.lost_store (valid : state.Valid) (occupied : state.held method = some resource) :
    (state.store method).Lost resource where
  created := Nat.lt_succ_of_lt (valid.created_of_held occupied)
  not_held other held := by
    obtain ⟨-, rfl⟩ | ⟨apart, held⟩ := held_of_held_store held
    · exact absurd (valid.created_of_held occupied) (Nat.lt_irrefl _)
    · exact apart (valid.eq_of_held held occupied)
  not_disposed := valid.not_disposed_of_held occupied

theorem Lost.exec (lost : state.Lost resource) (released : List String) (call : HookCall) :
    (exec released state call).Lost resource := by
  cases call with
  | initFromScene member => exact lost
  | invoke invoked => exact lost
  | acquire acquired => exact lost.store acquired
  | update updated => exact (lost_release_iff.mpr lost).store updated
  | disposeAll => exact lost_foldl_release_iff.mpr lost

/-- A call loses nothing unless it acquires into a slot that holds something. -/
theorem lost_exec_iff {call : HookCall}
    (empty : ∀ method, call = .acquire method → state.held method = none) :
    (exec released state call).Lost resource ↔ state.Lost resource := by
  cases call with
  | initFromScene member => rfl
  | invoke invoked => rfl
  | acquire acquired => exact lost_store_iff (empty acquired rfl)
  | update updated =>
      have emptied : (state.release updated).held updated = none := by
        rw [held_release, if_pos rfl]
      rw [exec, lost_store_iff emptied, lost_release_iff]
  | disposeAll => exact lost_foldl_release_iff

end SlotState

/-! ## Overwriting -/

/-- No acquisition of a run that starts with empty slots finds its slot filled. -/
def NeverOverwrites (released : List String) (calls : List HookCall) : Prop :=
  ∀ before method after, calls = before ++ .acquire method :: after →
    (SlotState.run released before .initial).held method = none

/-- Every resource that is created in a run that starts with empty slots has been disposed in the
end. -/
def ReleasesEverything (released : List String) (calls : List HookCall) : Prop :=
  ∀ resource < (SlotState.run released calls .initial).created,
    resource ∈ (SlotState.run released calls .initial).disposed

section Runs

variable {released : List String} {calls : List HookCall}

theorem neverOverwrites_nil : NeverOverwrites released [] := by
  intro before method after split
  simp at split

/-- The last call of a run adds one condition: if it is an acquisition, its slot is empty. -/
theorem neverOverwrites_concat_iff {call : HookCall} :
    NeverOverwrites released (calls ++ [call]) ↔
      NeverOverwrites released calls ∧ ∀ method, call = .acquire method →
        (SlotState.run released calls .initial).held method = none := by
  constructor
  · intro never
    refine ⟨?_, ?_⟩
    · rintro before method after rfl
      exact never before method (after ++ [call]) (by simp)
    · rintro method rfl
      exact never calls method [] rfl
  · rintro ⟨never, last⟩ before method after split
    -- the acquisition is the last call or one of the earlier calls
    obtain rfl | ⟨rest, final, rfl⟩ := after.eq_nil_or_concat
    · obtain ⟨rfl, rfl⟩ : calls = before ∧ call = .acquire method := by
        simpa using List.append_inj' split rfl
      exact last method rfl
    · refine never before method rest ?_
      rw [List.concat_eq_append, ← List.cons_append, ← List.append_assoc] at split
      exact (List.append_inj' split rfl).1

theorem neverOverwrites_append_iff {tail : List HookCall}
    (harmless : ∀ method, .acquire method ∉ tail) :
    NeverOverwrites released (calls ++ tail) ↔ NeverOverwrites released calls := by
  induction tail using List.reverseRecOn with
  | nil => rw [List.append_nil]
  | append_singleton earlier call induction =>
      rw [← List.append_assoc, neverOverwrites_concat_iff, induction fun method listed =>
        harmless method (List.mem_append_left _ listed)]
      refine and_iff_left ?_
      rintro method rfl
      exact absurd (List.mem_append_right _ List.mem_cons_self) (harmless method)

theorem neverOverwrites_iff_not_lost :
    NeverOverwrites released calls ↔
      ∀ resource, ¬(SlotState.run released calls .initial).Lost resource := by
  induction calls using List.reverseRecOn with
  | nil =>
      refine iff_of_true neverOverwrites_nil ?_
      intro resource lost
      exact absurd lost.created (Nat.not_lt_zero resource)
  | append_singleton earlier call induction =>
      -- what is lost stays lost, so only the last call matters
      rw [neverOverwrites_concat_iff, induction, SlotState.run_concat]
      constructor
      · rintro ⟨kept, last⟩ resource lost
        exact kept resource ((SlotState.lost_exec_iff last).mp lost)
      · intro kept
        refine ⟨fun resource lost => kept resource (lost.exec released call), ?_⟩
        rintro method rfl
        cases occupied : (SlotState.run released earlier .initial).held method with
        | none => rfl
        | some resource =>
            have valid := SlotState.valid_initial.run released earlier
            exact absurd (valid.lost_store occupied) (kept resource)

/-- A run that leaves all slots empty disposes everything exactly if it overwrites nothing. -/
theorem releasesEverything_iff
    (emptied : ∀ method, (SlotState.run released calls .initial).held method = none) :
    ReleasesEverything released calls ↔ NeverOverwrites released calls := by
  rw [neverOverwrites_iff_not_lost]
  constructor
  · intro all resource lost
    exact lost.not_disposed (all resource lost.created)
  · intro kept resource created
    by_contra missed
    refine kept resource ⟨created, ?_, missed⟩
    intro method held
    rw [emptied method] at held
    cases held

/-- Until all resources are released, an acquisition overwrites exactly if an earlier call has
created a resource for the same method. -/
theorem neverOverwrites_iff_pairwise (unreleased : .disposeAll ∉ calls) :
    NeverOverwrites released calls ↔
      calls.Pairwise fun earlier later =>
        ∀ method, earlier.producer? = some method → later ≠ .acquire method := by
  induction calls using List.reverseRecOn with
  | nil => exact iff_of_true neverOverwrites_nil .nil
  | append_singleton earlier call induction =>
      rw [List.mem_append, not_or] at unreleased
      rw [neverOverwrites_concat_iff, induction unreleased.1, List.pairwise_append]
      have occupied (method : String) :
          (SlotState.run released earlier .initial).held method ≠ none ↔ _ :=
        SlotState.held_run_initial_ne_none_iff unreleased.1
      have last : (∀ method, call = .acquire method →
          (SlotState.run released earlier .initial).held method = none) ↔
          ∀ first ∈ earlier, ∀ later ∈ [call], ∀ method,
            first.producer? = some method → later ≠ .acquire method := by
        simp only [List.mem_singleton, forall_eq]
        constructor
        · intro empty first listed method produced acquired
          exact (occupied method).mpr ⟨first, listed, produced⟩ (empty method acquired)
        · intro fresh method acquired
          by_contra filled
          obtain ⟨first, listed, produced⟩ := (occupied method).mp filled
          exact fresh first listed method produced acquired
      rw [last]
      simp

end Runs

end NodeLifecycle
