import Mathlib.Data.List.Pairwise
import NodeLifecycle.Proofs.Framework.Resolution
import NodeLifecycle.Proofs.Lifecycle.TrackedProducers

/-!
# Overloads that share a slot

Overloads of a producer share one entry, which is that of the first classification of the name that
is released on exit.  Every other such classification is either of the same parameters or noted.  In
a class whose overloads differ in their parameters, classifications of one name with the same
parameters are those of one member in two passes, and they give rise to the same entry: no resource
of such a class is dropped without a notice.
-/

namespace NodeLifecycle
namespace DisposalPlan

def entryOf? (plan : DisposalPlan) (method : String) : Option DisposalEntry :=
  plan.entries.find? fun entry => entry.method == method

/-- Whether the entry for a method has other parameters than a classification of the method. -/
def differsFrom (plan : DisposalPlan) (classification : Classification) : Bool :=
  (plan.entryOf? classification.method).any fun entry => entry.params != classification.params

variable {decl : TypeDecl} {enterTree ready : List Classification} {method : String}

/-- The entry for a method comes from the first classification of the method that is released on
exit. -/
theorem entryOf?_merge (decl : TypeDecl) (enterTree ready : List Classification) (method : String) :
    (merge decl enterTree ready).entryOf? method =
      ((enterTree ++ ready).find? fun classification =>
        classification.roles.disposesOnExit && classification.method == method).map
          .ofClassification := by
  ext entry
  refine (FirstOccurrences.find?_eq_some_iff_of_nodup
    (nodup_methods_entriesOf decl (enterTree ++ ready))).trans ?_
  rw [mem_entriesOf, Option.map_eq_some_iff]
  constructor
  · rintro ⟨found, rfl⟩
    exact found
  · rintro ⟨first, found, rfl⟩
    have named := (tracked_of_find?_eq_some found).2
    exact ⟨⟨first, by rwa [DisposalEntry.method_ofClassification, named], rfl⟩, named⟩

theorem notices_eq (decl : TypeDecl) (enterTree ready : List Classification) :
    notices decl enterTree ready =
      ((eligible (enterTree ++ ready)).filter (merge decl enterTree ready).differsFrom).map
        fun classification => .sharedSlot decl.name classification.method := by
  rw [notices]
  congr 2
  funext classification
  rw [isUntracked, find?_eligible, differsFrom, entryOf?_merge, Option.any_map]
  rfl

theorem differsFrom_iff {plan : DisposalPlan} {classification : Classification} :
    plan.differsFrom classification = true ↔
      ∃ entry, plan.entryOf? classification.method = some entry ∧
        entry.params ≠ classification.params := by
  simp [differsFrom, Option.any_eq_true]

theorem sharedSlot_mem_notices_iff :
    .sharedSlot decl.name method ∈ notices decl enterTree ready ↔
      ∃ classification ∈ enterTree ++ ready, classification.roles.disposesOnExit = true ∧
        classification.method = method ∧
          ∃ entry, (merge decl enterTree ready).entryOf? method = some entry ∧
            entry.params ≠ classification.params := by
  rw [notices_eq, List.mem_map]
  constructor
  · rintro ⟨classification, listed, same⟩
    cases same
    obtain ⟨tracked, differs⟩ := List.mem_filter.mp listed
    obtain ⟨given, released⟩ := mem_eligible.mp tracked
    exact ⟨classification, given, released, rfl, differsFrom_iff.mp differs⟩
  · rintro ⟨classification, given, released, rfl, differs⟩
    have tracked := mem_eligible.mpr ⟨given, released⟩
    exact ⟨classification, List.mem_filter.mpr ⟨tracked, differsFrom_iff.mpr differs⟩, rfl⟩

/-- What becomes of the classifications of two passes that are released on exit: the first of a
method makes the entry, and those with other parameters are noted. -/
structure AccountsFor (decl : TypeDecl) (enterTree ready : List Classification) : Prop where
  /-- The entry for a method takes everything from the first classification of the method that is
  released on exit, and without one there is no entry. -/
  entry : ∀ method, (merge decl enterTree ready).entryOf? method =
    ((enterTree ++ ready).find? fun classification =>
      classification.roles.disposesOnExit && classification.method == method).map fun first =>
        { method := first.method
          isAuto := first.roles.isAutoDisposed
          updaterAccess := first.updaterAccess
          params := first.params }
  /-- A method is noted exactly if a classification of it that is released on exit has other
  parameters than its entry. -/
  notice : ∀ method, .sharedSlot decl.name method ∈ notices decl enterTree ready ↔
    ∃ classification ∈ enterTree ++ ready, classification.roles.disposesOnExit = true ∧
      classification.method = method ∧
        ∃ entry, (merge decl enterTree ready).entryOf? method = some entry ∧
          entry.params ≠ classification.params

theorem accountsFor (decl : TypeDecl) (enterTree ready : List Classification) :
    AccountsFor decl enterTree ready where
  entry := entryOf?_merge decl enterTree ready
  notice _ := sharedSlot_mem_notices_iff

end DisposalPlan

/-! ## Overloads of a class -/

/-- What tells a method from its overloads: its name and its parameters. -/
def Member.overload? (member : Member) : Option (String × List Parameter) :=
  member.signature?.map fun signature => (member.name, signature.params)

namespace TypeDecl

variable {decl : TypeDecl} {framework : Framework} {table : SymbolTable} {pass : Pass}

/-- No two methods of a class share both their name and their parameters. -/
def OverloadsDiffer (decl : TypeDecl) : Prop :=
  (decl.members.filterMap Member.overload?).Nodup

instance (decl : TypeDecl) : Decidable decl.OverloadsDiffer :=
  inferInstanceAs (Decidable (decl.members.filterMap Member.overload?).Nodup)

theorem OverloadsDiffer.eq_of_overload?_eq (differ : decl.OverloadsDiffer) {left right : Member}
    {overload : String × List Parameter} (left_mem : left ∈ decl.members)
    (right_mem : right ∈ decl.members) (left_eq : left.overload? = some overload)
    (right_eq : right.overload? = some overload) : left = right := by
  have apart : decl.members.Pairwise fun left right =>
      left.overload? = some overload → right.overload? = some overload → left = right :=
    (List.pairwise_filterMap.mp differ).imp fun distinct left_eq right_eq =>
      absurd rfl (distinct overload left_eq overload right_eq)
  have symmetric : Std.Symm fun left right : Member =>
      left.overload? = some overload → right.overload? = some overload → left = right :=
    ⟨fun _ _ same right_eq left_eq => (same left_eq right_eq).symm⟩
  exact apart.forall_of_forall (fun _ _ _ _ => rfl) left_mem right_mem left_eq right_eq

/-- A classification has the name and the parameters of its member, and makes an entry that depends
on the member alone. -/
theorem exists_overload_of_mem_classifications {classification : Classification}
    (listed : classification ∈ decl.classifications framework table pass) :
    ∃ member ∈ decl.members,
      member.overload? = some (classification.method, classification.params) ∧
      classification.roles.isAutoDisposed = framework.isUpdatable table member ∧
      classification.updaterAccess = framework.updaterAccess member := by
  obtain ⟨member, declared, classified⟩ := List.mem_filterMap.mp listed
  refine ⟨member, declared, ?_⟩
  have outlined := decl.map_outline_classify? framework table pass member
  rw [classified, Option.map_some] at outlined
  obtain ⟨signature, signed, classified⟩ := Option.bind_eq_some_iff.mp classified
  rw [classifyMethod?] at classified
  split at classified
  · cases classified
  · split at outlined
    · cases classified
      have roles_eq := congrArg (fun outline => outline.2.isAutoDisposed) (Option.some.inj outlined)
      exact ⟨by rw [Member.overload?, signed, Option.map_some], roles_eq, rfl⟩
    · cases outlined

/-- Where overloads differ, classifications of one overload make the same entry. -/
theorem OverloadsDiffer.ofClassification_eq (differ : decl.OverloadsDiffer) {other : Pass}
    {left right : Classification}
    (left_mem : left ∈ decl.classifications framework table pass)
    (right_mem : right ∈ decl.classifications framework table other)
    (same_method : left.method = right.method) (same_params : left.params = right.params) :
    DisposalEntry.ofClassification left = .ofClassification right := by
  obtain ⟨member, declared, left_overload, left_auto, left_access⟩ :=
    exists_overload_of_mem_classifications left_mem
  obtain ⟨namesake, also_declared, right_overload, right_auto, right_access⟩ :=
    exists_overload_of_mem_classifications right_mem
  rw [same_method, same_params] at left_overload
  obtain rfl := differ.eq_of_overload?_eq declared also_declared left_overload right_overload
  simp only [DisposalEntry.ofClassification, same_method, same_params, left_auto, right_auto,
    left_access, right_access]

/-- Every merged plan accounts for all classifications that are released on exit; and in a class
whose overloads differ, each of them has an entry as its own or is noted. -/
theorem tracked_or_noted (decl : TypeDecl) :
    (∀ enterTree ready, DisposalPlan.AccountsFor decl enterTree ready) ∧
      ∀ framework table marshalling, decl.OverloadsDiffer →
        ∀ classification ∈ decl.classifications framework table .enterTree ++
            decl.classifications framework table .ready,
          classification.roles.disposesOnExit = true →
            (decl.analyze framework table marshalling).disposal.entryOf? classification.method =
                some
                  { method := classification.method
                    isAuto := classification.roles.isAutoDisposed
                    updaterAccess := classification.updaterAccess
                    params := classification.params } ∨
              .sharedSlot decl.name classification.method ∈
                (decl.analyze framework table marshalling).notices := by
  refine ⟨DisposalPlan.accountsFor decl, ?_⟩
  intro framework table marshalling differ classification given released
  obtain ⟨first, found⟩ : ∃ first, (decl.classifications framework table .enterTree ++
      decl.classifications framework table .ready).find?
        (fun other => other.roles.disposesOnExit && other.method == classification.method) =
          some first :=
    Option.isSome_iff_exists.mp
      (List.find?_isSome.mpr ⟨classification, given, by rw [released, beq_self_eq_true]; rfl⟩)
  have named := (DisposalPlan.tracked_of_find?_eq_some found).2
  have tracked : (decl.disposalPlan framework table).entryOf? classification.method =
      some (.ofClassification first) := by
    rw [disposalPlan, DisposalPlan.entryOf?_merge, found, Option.map_some]
  by_cases same_params : first.params = classification.params
  · obtain ⟨pass, first_mem⟩ := exists_pass_of_mem_append (List.mem_of_find?_eq_some found)
    obtain ⟨other, classification_mem⟩ := exists_pass_of_mem_append given
    left
    rw [differ.ofClassification_eq first_mem classification_mem named same_params] at tracked
    exact tracked
  · right
    refine List.mem_append_left _ (DisposalPlan.sharedSlot_mem_notices_iff.mpr ?_)
    exact ⟨classification, given, released, rfl, _, tracked, same_params⟩

/-- An overload that being ready calls, and one that entering the tree calls and that is replaced on
demand. -/
def competingOverloads : TypeDecl :=
  .player
    [.make [.onReady] [],
      .make [.onEnterTree, .autoDispose] [⟨"count", .builtin .int32 false, .byValue⟩]]

/-- The overload that being ready calls has no entry as its own, and is noted. -/
theorem noted_of_competingOverloads :
    competingOverloads.OverloadsDiffer ∧
      ∃ classification ∈ competingOverloads.classifications (.ofNames .standard)
            (.ofEngineTypes .standard) .enterTree ++
          competingOverloads.classifications (.ofNames .standard) (.ofEngineTypes .standard) .ready,
        classification.roles.disposesOnExit = true ∧ classification.params = [] ∧
          .sharedSlot competingOverloads.name classification.method ∈
            (competingOverloads.analyze (.ofNames .standard) (.ofEngineTypes .standard)
              true).notices := by
  have differ : competingOverloads.OverloadsDiffer := by decide
  let called : Classification := ⟨"Make", ⟨true, true, false⟩, [], .publicAccess, []⟩
  have listed : called ∈ competingOverloads.classifications (.ofNames .standard)
        (.ofEngineTypes .standard) .enterTree ++
      competingOverloads.classifications (.ofNames .standard)
        (.ofEngineTypes .standard) .ready := by
    decide +kernel
  refine ⟨differ, called, listed, rfl, rfl, ?_⟩
  refine ((tracked_or_noted competingOverloads).2 _ _ true differ called listed rfl).resolve_left ?_
  decide +kernel

end TypeDecl
end NodeLifecycle
