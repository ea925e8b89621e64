import Mathlib.Tactic.ByContra
import Mathlib.Tactic.SplitIfs
import NodeLifecycle.ClassAnalysis

/-!
# Roles and calls, member by member

What a pass makes of a method depends on three facts alone: the markers that the method carries,
whether its result has to be released, and whether the pass allows hooks that return resources.
This module reads the roles, the calls and the tracked producers of a pass off the members of the
class, so that later proofs need not look into the classification.
-/

namespace NodeLifecycle
namespace Framework

/-- Whether a member is a method whose result has to be released. -/
def produces (framework : Framework) (table : SymbolTable) (member : Member) : Bool :=
  member.signature?.any fun signature => framework.isResource table signature.returns

/-- Whether a member's result is replaced on demand. -/
def isUpdatable (framework : Framework) (table : SymbolTable) (member : Member) : Bool :=
  framework.produces table member && framework.carries member.attributes .autoDispose

/-- Whether a pass finds out that a member's result is released on exit. -/
def tracks (framework : Framework) (table : SymbolTable) (pass : Pass) (member : Member) : Bool :=
  framework.produces table member &&
    (framework.carries member.attributes .autoDispose ||
      framework.carries member.attributes pass.marker && pass.allowsResources)

/-- The roles of a method in a pass. -/
def rolesIn (framework : Framework) (table : SymbolTable) (pass : Pass) (member : Member) :
    Roles where
  isHook := framework.carries member.attributes pass.marker
  disposesOnExit := framework.tracks table pass member
  isAutoDisposed := framework.isUpdatable table member

/-- The call that a pass makes for a member, if the member is a hook of the pass. -/
def hookCall? (framework : Framework) (table : SymbolTable) (pass : Pass) (member : Member) :
    Option HookCall :=
  if member.isMethod && framework.carries member.attributes pass.marker then
    some
      (if framework.isUpdatable table member then .update member.name
      else if framework.produces table member && pass.allowsResources then .acquire member.name
      else .invoke member.name)
  else
    none

/-- Whether a pass calls a member and keeps the resource that it returns. -/
def callsProducer (framework : Framework) (table : SymbolTable) (pass : Pass) (member : Member) :
    Bool :=
  framework.carries member.attributes pass.marker && framework.tracks table pass member

variable {framework : Framework} {table : SymbolTable} {pass : Pass} {member : Member}

theorem hookMarker?_singleton (framework : Framework) (marker : Marker) (member : Member) :
    framework.hookMarker? [marker] member =
      if framework.carries member.attributes marker then some marker else none := by
  rw [hookMarker?, markersOf, List.find?_filter]
  split
  · rename_i carried
    cases found : Marker.all.find? fun other =>
        decide (framework.carries member.attributes other = true ∧
          [marker].contains other = true) with
    | none =>
        have missed := List.find?_eq_none.mp found marker (Marker.mem_all marker)
        simp [carried] at missed
    | some other =>
        have contained := List.find?_some found
        simp at contained
        rw [contained.2]
  · rename_i missed
    rw [List.find?_eq_none]
    intro other _
    simp only [List.contains_cons, List.contains_nil, Bool.or_false, beq_iff_eq, decide_eq_true_eq,
      not_and]
    rintro carried rfl
    exact missed carried

theorem isUpdatable_iff :
    framework.isUpdatable table member = true ↔
      framework.produces table member = true ∧
        framework.carries member.attributes .autoDispose = true := by
  rw [isUpdatable, Bool.and_eq_true]

theorem callsProducer_iff :
    framework.callsProducer table pass member = true ↔
      framework.carries member.attributes pass.marker = true ∧
        framework.tracks table pass member = true := by
  rw [callsProducer, Bool.and_eq_true]

theorem isMethod_of_produces (produced : framework.produces table member = true) :
    member.isMethod = true := by
  rw [produces] at produced
  rw [Member.isMethod]
  cases found : member.signature? with
  | none => simp [found] at produced
  | some signature => rfl

theorem tracks_of_isUpdatable (updatable : framework.isUpdatable table member = true)
    (pass : Pass) : framework.tracks table pass member = true := by
  rw [isUpdatable_iff] at updatable
  simp [tracks, updatable]

theorem produces_of_tracks (tracked : framework.tracks table pass member = true) :
    framework.produces table member = true := by
  simp only [tracks, Bool.and_eq_true] at tracked
  exact tracked.1

theorem callsProducer_of_not_isUpdatable (tracked : framework.tracks table pass member = true)
    (fixed : framework.isUpdatable table member = false) :
    framework.callsProducer table pass member = true ∧ pass.allowsResources = true := by
  have produced := produces_of_tracks tracked
  have unmarked : framework.carries member.attributes .autoDispose = false := by
    simpa [isUpdatable, produced] using fixed
  have hooked : framework.carries member.attributes pass.marker = true ∧
      pass.allowsResources = true := by
    simpa [tracks, produced, unmarked] using tracked
  exact ⟨callsProducer_iff.mpr ⟨hooked.1, tracked⟩, hooked.2⟩

/-- A pass that allows no resources tracks only what is replaced on demand. -/
theorem isUpdatable_of_tracks_of_not_allowsResources
    (tracked : framework.tracks table pass member = true)
    (forbidden : pass.allowsResources = false) : framework.isUpdatable table member = true := by
  by_contra fixed
  have allowed := (callsProducer_of_not_isUpdatable tracked (Bool.eq_false_iff.mpr fixed)).2
  rw [forbidden] at allowed
  cases allowed

theorem bind_producer?_hookCall? (framework : Framework) (table : SymbolTable) (pass : Pass)
    (member : Member) :
    (framework.hookCall? table pass member).bind HookCall.producer? =
      if framework.callsProducer table pass member then some member.name else none := by
  cases produced : framework.produces table member with
  | false => simp [hookCall?, callsProducer, tracks, isUpdatable, HookCall.producer?, produced]
  | true =>
      simp only [hookCall?, callsProducer, tracks, isUpdatable, isMethod_of_produces produced,
        produced]
      cases framework.carries member.attributes pass.marker <;>
        cases framework.carries member.attributes .autoDispose <;>
        cases pass.allowsResources <;> simp [HookCall.producer?]

theorem hookCall?_eq_some_update_iff {method : String} :
    framework.hookCall? table pass member = some (.update method) ↔
      framework.carries member.attributes pass.marker = true ∧
        framework.isUpdatable table member = true ∧ member.name = method := by
  cases updatable : framework.isUpdatable table member with
  | false =>
      simp only [hookCall?, updatable, Bool.false_eq_true, if_false, false_and, and_false,
        iff_false]
      cases framework.produces table member <;> cases pass.allowsResources <;> simp
  | true =>
      have produced := (isUpdatable_iff.mp updatable).1
      simp [hookCall?, updatable, isMethod_of_produces produced]

theorem hookCall?_eq_some_acquire_iff {method : String} :
    framework.hookCall? table pass member = some (.acquire method) ↔
      framework.callsProducer table pass member = true ∧
        framework.isUpdatable table member = false ∧ member.name = method := by
  cases produced : framework.produces table member with
  | false => simp [hookCall?, callsProducer, tracks, isUpdatable, produced]
  | true =>
      simp only [hookCall?, callsProducer, tracks, isUpdatable, isMethod_of_produces produced,
        produced]
      cases framework.carries member.attributes pass.marker <;>
        cases framework.carries member.attributes .autoDispose <;>
        cases pass.allowsResources <;> simp

theorem hookCall?_ne_initFromScene (name : String) :
    framework.hookCall? table pass member ≠ some (.initFromScene name) := by
  rw [hookCall?]
  split_ifs <;> simp

theorem hookCall?_ne_disposeAll : framework.hookCall? table pass member ≠ some .disposeAll := by
  rw [hookCall?]
  split_ifs <;> simp

end Framework

namespace Classification

/-- The part of a classification that decides on calls and on tracking. -/
def outline (classification : Classification) : String × Roles :=
  (classification.method, classification.roles)

/-- The call for a method with the given roles. -/
def callOf (outline : String × Roles) : Option HookCall :=
  if outline.2.isHook then
    some
      (if outline.2.isAutoDisposed then .update outline.1
      else if outline.2.disposesOnExit then .acquire outline.1
      else .invoke outline.1)
  else
    none

end Classification

namespace TypeDecl

variable {decl : TypeDecl} {framework : Framework} {table : SymbolTable} {pass : Pass}

/-! ## From members to classifications -/

/-- A pass classifies the methods that carry its marker or the disposal marker. -/
theorem map_outline_classify? (decl : TypeDecl) (framework : Framework) (table : SymbolTable)
    (pass : Pass) (member : Member) :
    (decl.classify? framework table [pass.marker] pass.allowsResources member).map
        Classification.outline =
      if member.isMethod && (framework.carries member.attributes pass.marker ||
          framework.carries member.attributes .autoDispose) then
        some (member.name, framework.rolesIn table pass member)
      else
        none := by
  rw [classify?, Member.isMethod]
  cases found : member.signature? with
  | none => rfl
  | some signature =>
      simp only [Option.bind_some, classifyMethod?, Framework.hookMarker?_singleton,
        Framework.rolesIn, Framework.tracks, Framework.isUpdatable, Framework.produces, found,
        Option.any_some, Option.isSome_some, Bool.true_and]
      cases framework.carries member.attributes pass.marker <;>
        cases framework.carries member.attributes .autoDispose <;>
        cases framework.isResource table signature.returns <;> simp [Classification.outline]

theorem map_outline_classifications (decl : TypeDecl) (framework : Framework) (table : SymbolTable)
    (pass : Pass) :
    (decl.classifications framework table pass).map Classification.outline =
      (decl.members.filter fun member =>
          member.isMethod && (framework.carries member.attributes pass.marker ||
            framework.carries member.attributes .autoDispose)).map fun member =>
        (member.name, framework.rolesIn table pass member) := by
  rw [classifications, List.map_filterMap, ← List.filterMap_eq_map', List.filterMap_filter]
  congr 1
  funext member
  exact map_outline_classify? decl framework table pass member

theorem exists_member_of_mem_classifications {classification : Classification}
    (listed : classification ∈ decl.classifications framework table pass) :
    ∃ member ∈ decl.members, member.isMethod = true ∧ classification.method = member.name ∧
      classification.roles = framework.rolesIn table pass member := by
  have outlined : classification.outline ∈
      (decl.classifications framework table pass).map Classification.outline :=
    List.mem_map_of_mem listed
  rw [map_outline_classifications] at outlined
  obtain ⟨member, member_mem, outline_eq⟩ := List.mem_map.mp outlined
  obtain ⟨declared, classified⟩ := List.mem_filter.mp member_mem
  rw [Bool.and_eq_true] at classified
  exact ⟨member, declared, classified.1, (congrArg Prod.fst outline_eq).symm,
    (congrArg Prod.snd outline_eq).symm⟩

/-! ## Calls -/

theorem hookCalls_eq_filterMap (decl : TypeDecl) (framework : Framework) (table : SymbolTable)
    (pass : Pass) :
    decl.hookCalls framework table pass =
      decl.members.filterMap (framework.hookCall? table pass) := by
  have outlined : decl.hookCalls framework table pass =
      ((decl.classifications framework table pass).map Classification.outline).filterMap
        Classification.callOf := by
    rw [List.filterMap_map]
    rfl
  rw [outlined, map_outline_classifications, List.filterMap_map, List.filterMap_filter]
  congr 1
  funext member
  simp only [Function.comp_apply, Classification.callOf, Framework.rolesIn, Framework.hookCall?,
    Framework.tracks, Framework.isUpdatable]
  by_cases hooked : framework.carries member.attributes pass.marker = true <;>
    by_cases marked : framework.carries member.attributes .autoDispose = true <;>
    by_cases produced : framework.produces table member = true <;>
    simp [hooked, marked, produced]

theorem mem_hookCalls {call : HookCall} :
    call ∈ decl.hookCalls framework table pass ↔
      ∃ member ∈ decl.members, framework.hookCall? table pass member = some call := by
  rw [hookCalls_eq_filterMap, List.mem_filterMap]

theorem filterMap_producer?_hookCalls (decl : TypeDecl) (framework : Framework)
    (table : SymbolTable) (pass : Pass) :
    (decl.hookCalls framework table pass).filterMap HookCall.producer? =
      (decl.members.filter (framework.callsProducer table pass)).map Member.name := by
  rw [hookCalls_eq_filterMap, List.filterMap_filterMap, ← List.filterMap_eq_map,
    List.filterMap_filter]
  congr 1
  funext member
  exact Framework.bind_producer?_hookCall? framework table pass member

/-! ## Tracked producers -/

/-- The producers that the plan takes to be called are those that the override calls. -/
theorem hooked_classifications (decl : TypeDecl) (framework : Framework) (table : SymbolTable)
    (pass : Pass) :
    DisposalPlan.hooked (decl.classifications framework table pass) =
      (decl.hookCalls framework table pass).filterMap HookCall.producer? := by
  have outlined : DisposalPlan.hooked (decl.classifications framework table pass) =
      ((((decl.classifications framework table pass).map Classification.outline).filter
        fun outline => outline.2.disposesOnExit).filter fun outline => outline.2.isHook).map
        Prod.fst := by
    rw [List.filter_map, List.filter_map, List.map_map]
    rfl
  rw [outlined, map_outline_classifications, filterMap_producer?_hookCalls]
  simp only [List.filter_map, List.map_map, List.filter_filter]
  congr 1
  apply List.filter_congr
  intro member _
  simp only [Function.comp_apply, Framework.rolesIn, Framework.callsProducer]
  cases tracked : framework.tracks table pass member with
  | false => simp
  | true =>
      rw [Framework.isMethod_of_produces (Framework.produces_of_tracks tracked)]
      cases framework.carries member.attributes pass.marker <;> simp

/-- The first tracked classification of a name has the roles of the first member of that name that
the pass tracks. -/
theorem find?_classifications (decl : TypeDecl) (framework : Framework) (table : SymbolTable)
    (pass : Pass) (name : String) :
    ((decl.classifications framework table pass).find? fun classification =>
        classification.roles.disposesOnExit && classification.method == name).map
          Classification.roles =
      (decl.members.find? fun member =>
        framework.tracks table pass member && member.name == name).map
          (framework.rolesIn table pass) := by
  have outlined : ((decl.classifications framework table pass).find? fun classification =>
        classification.roles.disposesOnExit && classification.method == name).map
          Classification.roles =
      (((decl.classifications framework table pass).map Classification.outline).find?
        fun outline => outline.2.disposesOnExit && outline.1 == name).map Prod.snd := by
    rw [List.find?_map, Option.map_map]
    rfl
  rw [outlined, map_outline_classifications, List.find?_map, List.find?_filter, Option.map_map]
  congr 2
  funext member
  cases tracked : framework.tracks table pass member with
  | false => simp [Framework.rolesIn, tracked]
  | true =>
      have declared := Framework.isMethod_of_produces (Framework.produces_of_tracks tracked)
      have classified : (framework.carries member.attributes pass.marker ||
          framework.carries member.attributes .autoDispose) = true := by
        simp only [Framework.tracks, Bool.and_eq_true, Bool.or_eq_true] at tracked ⊢
        exact tracked.2.elim Or.inr fun hooked => Or.inl hooked.1
      rw [Bool.eq_iff_iff]
      simp [Framework.rolesIn, tracked, declared, classified]

end TypeDecl
end NodeLifecycle
