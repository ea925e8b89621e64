import NodeLifecycle.Proofs.Framework.Resolution
import NodeLifecycle.Proofs.Lifecycle.TrackedProducers

/-!
# The order of declarations

A plan keeps its entries in the order of the first members that have their names.  The member that
supplies an entry may be a later one: overloads that are not tracked, fields and properties take
part in the order by their names alone.  So the entries are in the order of the declarations that
they come from exactly if, for any two tracked names, the first members and the supplying members
are in the same order.
-/

namespace NodeLifecycle

/-- The entries replaced on demand that no override calls, in the order in which they are
acquired. -/
def ClassAnalysis.uncalledEntries (analysis : ClassAnalysis) : List DisposalEntry :=
  analysis.disposal.acquisitionOrder.filter fun entry =>
    entry.isAuto && !analysis.calledProducers.contains entry.method

namespace DisposalPlan

variable {decl : TypeDecl} {classifications : List Classification}

theorem pairwise_position_entriesOf (decl : TypeDecl) (classifications : List Classification) :
    (entriesOf decl classifications).Pairwise fun left right =>
      position decl left.method ≤ position decl right.method := by
  have sorted : (StableSort.sortBy (fun left right : Classification =>
        decide (position decl left.method ≤ position decl right.method))
      (firstPerMethod (eligible classifications))).Pairwise fun left right =>
        decide (position decl left.method ≤ position decl right.method) = true := by
    apply StableSort.pairwise_sortBy
    · intro first second third before after
      rw [decide_eq_true_eq] at before after ⊢
      exact Nat.le_trans before after
    · intro left right
      rw [decide_eq_true_eq, decide_eq_true_eq]
      exact Nat.le_total _ _
  rw [entriesOf, List.pairwise_map]
  exact sorted.imp of_decide_eq_true

theorem eq_of_position_eq {left right : String}
    (declared : ∃ member ∈ decl.members, member.name = left)
    (same : position decl left = position decl right) : left = right := by
  obtain ⟨member, member_mem, named⟩ := declared
  have inside : position decl left < decl.members.length :=
    List.findIdx_lt_length_of_exists ⟨member, member_mem, by simp [named]⟩
  have left_named : (decl.members[position decl left].name == left) = true :=
    List.findIdx_getElem (w := inside)
  have right_named : (decl.members[position decl right].name == right) = true :=
    List.findIdx_getElem (w := same ▸ inside)
  rw [← eq_of_beq left_named, ← eq_of_beq right_named]
  simp only [same]

end DisposalPlan

namespace TypeDecl

variable {decl : TypeDecl} {framework : Framework} {table : SymbolTable} {pass : Pass}
  {name : String}

/-! ## Declarations -/

/-- Whether a pass finds out that a member is a producer of the given name whose result is released
on exit. -/
def suppliesIn (decl : TypeDecl) (framework : Framework) (table : SymbolTable) (pass : Pass)
    (name : String) (member : Member) : Bool :=
  (decl.classify? framework table [pass.marker] pass.allowsResources member).any
    fun classification =>
      classification.roles.disposesOnExit && classification.method == name

/-- Where the producer of a name is declared: the first that entering the tree tracks, and otherwise
the first that being ready tracks. -/
def declaration? (decl : TypeDecl) (framework : Framework) (table : SymbolTable) (name : String) :
    Option Nat :=
  (decl.members.findIdx? (decl.suppliesIn framework table .enterTree name)).or
    (decl.members.findIdx? (decl.suppliesIn framework table .ready name))

/-- The first tracked classification of a name is that of the first supplying member. -/
theorem find?_classifications_eq_bind (decl : TypeDecl) (framework : Framework)
    (table : SymbolTable) (pass : Pass) (name : String) :
    ((decl.classifications framework table pass).find? fun classification =>
        classification.roles.disposesOnExit && classification.method == name) =
      (decl.members.findIdx? (decl.suppliesIn framework table pass name)).bind fun index =>
        decl.members[index]?.bind
          (decl.classify? framework table [pass.marker] pass.allowsResources) := by
  rw [classifications, List.find?_filterMap, ← Option.bind_assoc,
    ← List.find?_eq_bind_findIdx?_getElem?]
  rfl

theorem exists_supplier_of_find?_classifications {classification : Classification}
    (found : ((decl.classifications framework table pass).find? fun classification =>
        classification.roles.disposesOnExit && classification.method == name) =
      some classification) :
    ∃ index member, decl.members.findIdx? (decl.suppliesIn framework table pass name) = some index ∧
      decl.members[index]? = some member ∧
      decl.classify? framework table [pass.marker] pass.allowsResources member =
        some classification := by
  rw [find?_classifications_eq_bind] at found
  obtain ⟨index, placed, found⟩ := Option.bind_eq_some_iff.mp found
  obtain ⟨member, declared, classified⟩ := Option.bind_eq_some_iff.mp found
  exact ⟨index, member, placed, declared, classified⟩

theorem findIdx?_suppliesIn_eq_none
    (missing : ((decl.classifications framework table pass).find? fun classification =>
        classification.roles.disposesOnExit && classification.method == name) = none) :
    decl.members.findIdx? (decl.suppliesIn framework table pass name) = none := by
  cases placed : decl.members.findIdx? (decl.suppliesIn framework table pass name) with
  | none => rfl
  | some index =>
      obtain ⟨inside, supplies, -⟩ := List.findIdx?_eq_some_iff_getElem.mp placed
      rw [find?_classifications_eq_bind, placed, Option.bind_some,
        List.getElem?_eq_getElem inside, Option.bind_some] at missing
      rw [suppliesIn, missing] at supplies
      cases supplies

/-- An entry is made from what a pass finds out about the member at a position. -/
def ComesFrom (decl : TypeDecl) (framework : Framework) (table : SymbolTable)
    (entry : DisposalEntry) (index : Nat) : Prop :=
  ∃ (member : Member) (pass : Pass) (classification : Classification),
    decl.members[index]? = some member ∧
      decl.classify? framework table [pass.marker] pass.allowsResources member =
        some classification ∧
      .ofClassification classification = entry

/-- A name with an entry has a declaration, and the entry comes from the member that stands
there. -/
theorem exists_declaration?_of_mem_entries {entry : DisposalEntry}
    (listed : entry ∈ (decl.disposalPlan framework table).entries) :
    ∃ index, decl.declaration? framework table entry.method = some index ∧
      decl.ComesFrom framework table entry index := by
  obtain ⟨first, found, made⟩ := DisposalPlan.mem_entriesOf.mp listed
  rw [List.find?_append, Option.or_eq_some_iff] at found
  obtain enter | ⟨no_enter, ready⟩ := found
  · obtain ⟨index, member, placed, declared, classified⟩ :=
      exists_supplier_of_find?_classifications enter
    exact ⟨index, by rw [declaration?, placed, Option.some_or],
      member, .enterTree, first, declared, classified, made⟩
  · obtain ⟨index, member, placed, declared, classified⟩ :=
      exists_supplier_of_find?_classifications ready
    have unplaced := findIdx?_suppliesIn_eq_none no_enter
    exact ⟨index, by rw [declaration?, unplaced, Option.none_or, placed],
      member, .ready, first, declared, classified, made⟩

/-! ## Two orders -/

/-- The first members of two tracked names are in the same order as the members that supply their
entries. -/
def NamesakesKeepOrder (decl : TypeDecl) (framework : Framework) (table : SymbolTable) : Prop :=
  ∀ left right, DisposalPlan.position decl left < DisposalPlan.position decl right →
    ∀ leftAt, decl.declaration? framework table left = some leftAt →
      ∀ rightAt, decl.declaration? framework table right = some rightAt → leftAt < rightAt

theorem exists_member_of_mem_entries {entry : DisposalEntry}
    (listed : entry ∈ (decl.disposalPlan framework table).entries) :
    ∃ member ∈ decl.members, member.name = entry.method := by
  obtain ⟨index, -, member, pass, classification, declared, classified, rfl⟩ :=
    exists_declaration?_of_mem_entries listed
  have member_mem := List.mem_of_getElem? declared
  obtain ⟨other, other_mem, -, named, -⟩ := exists_member_of_mem_classifications
    (List.mem_filterMap.mpr ⟨member, member_mem, classified⟩)
  exact ⟨other, other_mem, named.symm⟩

theorem pairwise_position_entries (decl : TypeDecl) (framework : Framework) (table : SymbolTable) :
    (decl.disposalPlan framework table).entries.Pairwise fun left right =>
      DisposalPlan.position decl left.method < DisposalPlan.position decl right.method := by
  have sorted : (decl.disposalPlan framework table).entries.Pairwise fun left right =>
      DisposalPlan.position decl left.method ≤ DisposalPlan.position decl right.method :=
    DisposalPlan.pairwise_position_entriesOf decl _
  have distinct : (decl.disposalPlan framework table).entries.Pairwise fun left right =>
      left.method ≠ right.method :=
    List.pairwise_map.mp (DisposalPlan.nodup_methods_entriesOf decl _)
  refine (sorted.and distinct).imp_of_mem fun listed _ ordered => ?_
  refine Nat.lt_of_le_of_ne ordered.1 fun same => ordered.2 ?_
  exact DisposalPlan.eq_of_position_eq (exists_member_of_mem_entries listed) same

theorem uncalledEntries_analyze (decl : TypeDecl) (framework : Framework) (table : SymbolTable)
    (marshalling : Bool) :
    (decl.analyze framework table marshalling).uncalledEntries =
      (decl.disposalPlan framework table).entries.filter fun entry =>
        entry.isAuto &&
          !(decl.analyze framework table marshalling).calledProducers.contains entry.method := by
  obtain ⟨called, called_eq, order_eq⟩ := DisposalPlan.exists_acquisitionOrder_merge decl
    (decl.classifications framework table .enterTree) (decl.classifications framework table .ready)
  rw [← calledProducers_analyze decl framework table marshalling] at called_eq order_eq
  -- the acquisition order begins with what overrides call, and all of that is left out here
  have known : called.filter (fun entry => entry.isAuto &&
      !(decl.analyze framework table marshalling).calledProducers.contains entry.method) = [] := by
    rw [List.filter_eq_nil_iff]
    intro entry listed
    have calls : entry.method ∈
        (decl.analyze framework table marshalling).calledProducers := by
      rw [← List.mem_eraseDups, ← called_eq]
      exact List.mem_map_of_mem listed
    simp [calls]
  rw [ClassAnalysis.uncalledEntries]
  change (DisposalPlan.merge decl _ _).acquisitionOrder.filter _ = _
  rw [order_eq, List.filter_append, known, List.nil_append, List.filter_filter]
  apply List.filter_congr
  intro entry _
  rw [Bool.and_assoc, Bool.and_self]

/-- What always holds of the order of a plan: an entry comes from the member at its declaration, and
entries are in the order of the first members that have their names. -/
structure FollowsNamesakes (decl : TypeDecl) (framework : Framework) (table : SymbolTable)
    (analysis : ClassAnalysis) : Prop where
  /-- Every entry has a declaration, and comes from the member there. -/
  supplied : ∀ entry ∈ analysis.disposal.entries,
    ∃ index, decl.declaration? framework table entry.method = some index ∧
      decl.ComesFrom framework table entry index
  /-- The entries are in the order of their first namesakes. -/
  entries : (analysis.disposal.entries.map fun entry =>
    DisposalPlan.position decl entry.method).Pairwise (· < ·)
  /-- What is replaced on demand and called by no override is acquired in this order too. -/
  uncalled : (analysis.uncalledEntries.map fun entry =>
    DisposalPlan.position decl entry.method).Pairwise (· < ·)

/-- A plan is in the order in which the members that supply its entries are declared. -/
structure FollowsDeclarations (declaration? : String → Option Nat) (analysis : ClassAnalysis) :
    Prop where
  /-- The entries are in the order of their declarations. -/
  entries : (analysis.disposal.entries.filterMap fun entry =>
    declaration? entry.method).Pairwise (· < ·)
  /-- What is replaced on demand and called by no override is acquired in this order too. -/
  uncalled : (analysis.uncalledEntries.filterMap fun entry =>
    declaration? entry.method).Pairwise (· < ·)

/-- A list in the order of one key is in another order exactly if the key implies it. -/
theorem pairwise_iff_of_pairwise_lt {α : Type} {key : α → Nat} {before : α → α → Prop}
    {elements : List α} (sorted : elements.Pairwise fun left right => key left < key right) :
    elements.Pairwise before ↔
      ∀ left ∈ elements, ∀ right ∈ elements, key left < key right → before left right := by
  rw [List.pairwise_iff_getElem] at sorted ⊢
  constructor
  · intro ordered left left_mem right right_mem smaller
    obtain ⟨leftAt, left_inside, rfl⟩ := List.getElem_of_mem left_mem
    obtain ⟨rightAt, right_inside, rfl⟩ := List.getElem_of_mem right_mem
    rcases Nat.lt_trichotomy leftAt rightAt with first | rfl | later
    · exact ordered leftAt rightAt left_inside right_inside first
    · omega
    · have greater := sorted rightAt leftAt right_inside left_inside later
      omega
  · intro implied leftAt rightAt left_inside right_inside first
    exact implied _ (List.getElem_mem _) _ (List.getElem_mem _)
      (sorted leftAt rightAt left_inside right_inside first)

theorem followsNamesakes_analyze (decl : TypeDecl) (framework : Framework) (table : SymbolTable)
    (marshalling : Bool) :
    FollowsNamesakes decl framework table (decl.analyze framework table marshalling) where
  supplied entry listed := exists_declaration?_of_mem_entries listed
  entries := List.pairwise_map.mpr (pairwise_position_entries decl framework table)
  uncalled := by
    rw [uncalledEntries_analyze, List.pairwise_map]
    exact (pairwise_position_entries decl framework table).filter _

theorem exists_entry_of_declaration? {index : Nat}
    (declared : decl.declaration? framework table name = some index) :
    ∃ entry ∈ (decl.disposalPlan framework table).entries, entry.method = name := by
  rw [← List.mem_map]
  refine DisposalPlan.mem_methods_entriesOf.mpr ?_
  have by_pass (pass : Pass)
      (placed : decl.members.findIdx? (decl.suppliesIn framework table pass name) = some index) :
      ∃ classification ∈ decl.classifications framework table pass,
        classification.roles.disposesOnExit = true ∧ classification.method = name := by
    obtain ⟨inside, supplies, -⟩ := List.findIdx?_eq_some_iff_getElem.mp placed
    rw [suppliesIn, Option.any_eq_true] at supplies
    obtain ⟨classification, classified, supplies⟩ := supplies
    rw [Bool.and_eq_true] at supplies
    have listed : classification ∈ decl.classifications framework table pass :=
      List.mem_filterMap.mpr ⟨_, List.getElem_mem inside, classified⟩
    exact ⟨classification, listed, supplies.1, eq_of_beq supplies.2⟩
  rw [declaration?, Option.or_eq_some_iff] at declared
  obtain enter | ⟨-, ready⟩ := declared
  · obtain ⟨classification, listed, supplies⟩ := by_pass .enterTree enter
    exact ⟨classification, List.mem_append_left _ listed, supplies⟩
  · obtain ⟨classification, listed, supplies⟩ := by_pass .ready ready
    exact ⟨classification, List.mem_append_right _ listed, supplies⟩

/-- The entries are in the order of their declarations exactly if first namesakes are. -/
theorem pairwise_declaration?_entries_iff (decl : TypeDecl) (framework : Framework)
    (table : SymbolTable) :
    ((decl.disposalPlan framework table).entries.filterMap fun entry =>
        decl.declaration? framework table entry.method).Pairwise (· < ·) ↔
      decl.NamesakesKeepOrder framework table := by
  rw [List.pairwise_filterMap,
    pairwise_iff_of_pairwise_lt (pairwise_position_entries decl framework table)]
  constructor
  · intro ordered left right before leftAt left_declared rightAt right_declared
    obtain ⟨leftEntry, left_listed, rfl⟩ := exists_entry_of_declaration? left_declared
    obtain ⟨rightEntry, right_listed, rfl⟩ := exists_entry_of_declaration? right_declared
    exact ordered leftEntry left_listed rightEntry right_listed before leftAt left_declared rightAt
      right_declared
  · intro keep left _ right _ before
    exact keep left.method right.method before

/-- A plan is always in the order of the first namesakes, and in that of the declarations exactly if
the two orders agree. -/
theorem followsDeclarations_analyze_iff (decl : TypeDecl) (framework : Framework)
    (table : SymbolTable) (marshalling : Bool) :
    FollowsNamesakes decl framework table (decl.analyze framework table marshalling) ∧
      (FollowsDeclarations (decl.declaration? framework table)
          (decl.analyze framework table marshalling) ↔
        decl.NamesakesKeepOrder framework table) := by
  refine ⟨followsNamesakes_analyze decl framework table marshalling, ?_⟩
  constructor
  · intro follows
    exact (pairwise_declaration?_entries_iff decl framework table).mp follows.entries
  · intro keep
    have ordered := (pairwise_declaration?_entries_iff decl framework table).mpr keep
    refine ⟨ordered, ?_⟩
    rw [List.pairwise_filterMap] at ordered ⊢
    rw [uncalledEntries_analyze]
    exact ordered.filter _

/-- An overload that is not tracked stands before another producer, and the tracked overload of its
name after it. -/
def lateOverload : TypeDecl :=
  .player
    [.make [] [], { Member.make [.autoDispose] [] with name := "Open" },
      .make [.autoDispose] [⟨"count", .builtin .int32 false, .byValue⟩]]

/-- The overload declared last is acquired first. -/
theorem not_followsDeclarations_lateOverload :
    ∃ framework, Framework.resolve (.ofEngineTypes .standard) .standard = .ok framework ∧
      ¬FollowsDeclarations (lateOverload.declaration? framework (.ofEngineTypes .standard))
        (lateOverload.analyze framework (.ofEngineTypes .standard) true) := by
  refine ⟨.ofNames .standard, Framework.resolve_ofEngineTypes_standard, fun follows => ?_⟩
  have declared : (lateOverload.analyze (.ofNames .standard) (.ofEngineTypes .standard)
      true).uncalledEntries.filterMap (fun entry =>
        lateOverload.declaration? (.ofNames .standard) (.ofEngineTypes .standard) entry.method) =
      [2, 1] := by decide +kernel
  have ordered := follows.uncalled
  rw [declared] at ordered
  revert ordered
  decide

end TypeDecl
end NodeLifecycle
