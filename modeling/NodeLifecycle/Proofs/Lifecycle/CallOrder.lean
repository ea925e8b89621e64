import NodeLifecycle.Proofs.Lifecycle.PassModels

/-!
# The order of calls

A pass makes its calls in three stages.  Entering the tree first fills members from the scene, every
pass calls its hooks, and leaving the tree releases the resources at last.  Within the first two
stages calls come in the order in which the members are declared, one for each member concerned; the
shape of a method never keeps a hook from being called.
-/

namespace NodeLifecycle

namespace HookCall

/-- Whether the call fills a member from the scene. -/
def isFilling : HookCall → Bool
  | initFromScene _ => true
  | _ => false

/-- Whether the call is that of a hook. -/
def isHook : HookCall → Bool
  | initFromScene _ => false
  | disposeAll => false
  | _ => true

theorem isHook_eq_false_of_isFilling {call : HookCall} (filling : call.isFilling = true) :
    call.isHook = false := by
  cases call with
  | initFromScene => rfl
  | invoke | acquire | update | disposeAll => cases filling

end HookCall

namespace Framework

/-- Whether a member is a hook of a pass. -/
def isHookOf (framework : Framework) (pass : Pass) (member : Member) : Bool :=
  member.isMethod && framework.carries member.attributes pass.marker

/-- The call that a pass makes for one of its hooks. -/
def hookCall (framework : Framework) (table : SymbolTable) (pass : Pass) (member : Member) :
    HookCall :=
  if framework.carries member.attributes .autoDispose && framework.produces table member then
    .update member.name
  else if (pass == .enterTree || pass == .ready) && framework.produces table member then
    .acquire member.name
  else
    .invoke member.name

/-- Whether a member is a field or property that is filled from the scene. -/
def isFilled (framework : Framework) (member : Member) : Bool :=
  member.valueType?.isSome && framework.carries member.attributes .sceneUniqueName

variable {framework : Framework} {table : SymbolTable} {pass : Pass} {member : Member}

theorem hookCall?_eq_ite (framework : Framework) (table : SymbolTable) (pass : Pass)
    (member : Member) :
    framework.hookCall? table pass member =
      if framework.isHookOf pass member then some (framework.hookCall table pass member)
      else none := by
  have allowed : (pass == .enterTree || pass == .ready) = pass.allowsResources := by
    cases pass <;> rfl
  simp only [hookCall?, isHookOf, hookCall, isUpdatable, allowed, Bool.and_comm]

theorem isHook_hookCall (framework : Framework) (table : SymbolTable) (pass : Pass)
    (member : Member) : (framework.hookCall table pass member).isHook = true := by
  rw [hookCall]
  split_ifs <;> rfl

theorem isSome_attribute? (framework : Framework) (member : Member) (marker : Marker) :
    (member.attribute? (framework.handle marker)).isSome =
      framework.carries member.attributes marker := by
  rw [Member.attribute?, List.isSome_find?, carries]

theorem map_member_ofMember? (framework : Framework) (member : Member) :
    (SceneInjection.ofMember? framework member).map SceneInjection.member =
      if framework.isFilled member then some member.name else none := by
  have carried := framework.isSome_attribute? member .sceneUniqueName
  rw [isFilled, ← carried]
  cases typed : member.valueType? with
  | none => simp [SceneInjection.ofMember?, typed]
  | some type =>
      cases applied : member.attribute? framework.sceneUniqueName with
      | none => simp [SceneInjection.ofMember?, typed, applied, handle]
      | some marking => simp [SceneInjection.ofMember?, typed, applied, handle]

end Framework

namespace TypeDecl

theorem hookCalls_eq_map (decl : TypeDecl) (framework : Framework) (table : SymbolTable)
    (pass : Pass) :
    decl.hookCalls framework table pass =
      (decl.members.filter (framework.isHookOf pass)).map (framework.hookCall table pass) := by
  rw [hookCalls_eq_filterMap, ← List.filterMap_eq_map, List.filterMap_filter]
  congr 1
  funext member
  exact framework.hookCall?_eq_ite table pass member

theorem map_member_sceneInjections (decl : TypeDecl) (framework : Framework) :
    (decl.sceneInjections framework).map SceneInjection.member =
      (decl.members.filter framework.isFilled).map Member.name := by
  rw [sceneInjections, List.map_filterMap, ← List.filterMap_eq_map, List.filterMap_filter]
  congr 1
  funext member
  exact framework.map_member_ofMember? member

/-- The calls that fill members when the node enters the tree. -/
def fillingCalls (decl : TypeDecl) (framework : Framework) : Pass → List HookCall
  | .enterTree =>
      (decl.sceneInjections framework).map fun injection => .initFromScene injection.member
  | _ => []

/-- The call that releases the resources when the node leaves the tree. -/
def releaseCalls (decl : TypeDecl) (framework : Framework) (table : SymbolTable) :
    Pass → List HookCall
  | .exitTree => if (decl.disposalPlan framework table).isEmpty then [] else [.disposeAll]
  | _ => []

/-- The three stages of a pass. -/
theorem calls_lifecycleModel (decl : TypeDecl) (framework : Framework) (table : SymbolTable)
    (pass : Pass) :
    (decl.lifecycleModel framework table pass).calls =
      decl.fillingCalls framework pass ++ decl.hookCalls framework table pass ++
        decl.releaseCalls framework table pass := by
  cases pass with
  | enterTree => exact (List.append_nil _).symm
  | ready => exact (List.append_nil _).symm
  | exitTree => rfl

end TypeDecl

/-- The calls of a pass follow the members: each hook is called once, whatever its shape, between
the calls that fill members and the call that releases the resources. -/
structure FollowsMembers (framework : Framework) (table : SymbolTable) (members : List Member)
    (pass : Pass) (calls : List HookCall) : Prop where
  /-- There is one call for each hook, in the order of the declarations. -/
  hooks : calls.filter (fun call => call.isHook) =
    (members.filter (framework.isHookOf pass)).map (framework.hookCall table pass)
  /-- Entering the tree fills the marked members in the order of their declarations. -/
  fillings : calls.filter (fun call => call.isFilling) =
    if pass = .enterTree then
      (members.filter framework.isFilled).map fun member => .initFromScene member.name
    else
      []
  /-- No member is filled after another call. -/
  fillingsFirst : calls.Pairwise fun early late => late.isFilling = true → early.isFilling = true
  /-- Only leaving the tree releases the resources. -/
  release : .disposeAll ∈ calls → pass = .exitTree
  /-- No call comes after the release. -/
  releaseLast : calls.Pairwise fun early _ => early ≠ .disposeAll

namespace TypeDecl

variable {decl : TypeDecl} {framework : Framework} {table : SymbolTable} {pass : Pass}
  {call : HookCall}

theorem isHook_of_mem_hookCalls (listed : call ∈ decl.hookCalls framework table pass) :
    call.isHook = true := by
  rw [hookCalls_eq_map] at listed
  obtain ⟨member, -, rfl⟩ := List.mem_map.mp listed
  exact framework.isHook_hookCall table pass member

theorem isFilling_of_mem_fillingCalls (listed : call ∈ decl.fillingCalls framework pass) :
    call.isFilling = true := by
  cases pass with
  | enterTree =>
      obtain ⟨injection, -, rfl⟩ := List.mem_map.mp listed
      rfl
  | ready => exact absurd listed List.not_mem_nil
  | exitTree => exact absurd listed List.not_mem_nil

theorem eq_disposeAll_of_mem_releaseCalls (listed : call ∈ decl.releaseCalls framework table pass) :
    call = .disposeAll := by
  cases pass with
  | enterTree => exact absurd listed List.not_mem_nil
  | ready => exact absurd listed List.not_mem_nil
  | exitTree =>
      rw [releaseCalls] at listed
      split at listed
      · exact absurd listed List.not_mem_nil
      · exact List.mem_singleton.mp listed

theorem fillingCalls_eq (decl : TypeDecl) (framework : Framework) (pass : Pass) :
    decl.fillingCalls framework pass =
      if pass = .enterTree then
        (decl.members.filter framework.isFilled).map fun member => .initFromScene member.name
      else
        [] := by
  have filled := congrArg (List.map HookCall.initFromScene)
    (decl.map_member_sceneInjections framework)
  rw [List.map_map, List.map_map] at filled
  cases pass with
  | enterTree => exact filled
  | ready => rfl
  | exitTree => rfl

theorem filter_isHook_calls (decl : TypeDecl) (framework : Framework) (table : SymbolTable)
    (pass : Pass) :
    (decl.lifecycleModel framework table pass).calls.filter (fun call => call.isHook) =
      decl.hookCalls framework table pass := by
  have unhooked : (decl.fillingCalls framework pass).filter (fun call => call.isHook) = [] := by
    refine List.filter_eq_nil_iff.mpr fun call listed => ?_
    rw [HookCall.isHook_eq_false_of_isFilling (isFilling_of_mem_fillingCalls listed)]
    exact Bool.false_ne_true
  have hooked : (decl.hookCalls framework table pass).filter (fun call => call.isHook) =
      decl.hookCalls framework table pass :=
    List.filter_eq_self.mpr fun _ => isHook_of_mem_hookCalls
  have silent : (decl.releaseCalls framework table pass).filter (fun call => call.isHook) = [] := by
    refine List.filter_eq_nil_iff.mpr fun call listed => ?_
    rw [eq_disposeAll_of_mem_releaseCalls listed]
    exact Bool.false_ne_true
  rw [calls_lifecycleModel, List.filter_append, List.filter_append, unhooked, hooked, silent,
    List.nil_append, List.append_nil]

theorem isFilling_eq_false_of_mem
    (listed : call ∈ decl.hookCalls framework table pass ++
      decl.releaseCalls framework table pass) :
    call.isFilling = false := by
  obtain hooked | released := List.mem_append.mp listed
  · have hook := isHook_of_mem_hookCalls hooked
    cases filling : call.isFilling with
    | false => rfl
    | true =>
        rw [HookCall.isHook_eq_false_of_isFilling filling] at hook
        contradiction
  · rw [eq_disposeAll_of_mem_releaseCalls released]
    rfl

theorem filter_isFilling_calls (decl : TypeDecl) (framework : Framework) (table : SymbolTable)
    (pass : Pass) :
    (decl.lifecycleModel framework table pass).calls.filter (fun call => call.isFilling) =
      decl.fillingCalls framework pass := by
  have filled : (decl.fillingCalls framework pass).filter (fun call => call.isFilling) =
      decl.fillingCalls framework pass :=
    List.filter_eq_self.mpr fun _ => isFilling_of_mem_fillingCalls
  have others : (decl.hookCalls framework table pass ++
      decl.releaseCalls framework table pass).filter (fun call => call.isFilling) = [] := by
    refine List.filter_eq_nil_iff.mpr fun call listed => ?_
    rw [isFilling_eq_false_of_mem listed]
    exact Bool.false_ne_true
  rw [calls_lifecycleModel, List.append_assoc, List.filter_append, filled, others, List.append_nil]

theorem pairwise_isFilling_calls (decl : TypeDecl) (framework : Framework) (table : SymbolTable)
    (pass : Pass) :
    (decl.lifecycleModel framework table pass).calls.Pairwise
      fun early late => late.isFilling = true → early.isFilling = true := by
  rw [calls_lifecycleModel, List.append_assoc, List.pairwise_append]
  refine ⟨?_, ?_, ?_⟩
  · exact List.pairwise_of_forall_mem_list fun early early_filling _ _ _ =>
      isFilling_of_mem_fillingCalls early_filling
  · refine List.pairwise_of_forall_mem_list fun early _ late late_other filling => ?_
    rw [isFilling_eq_false_of_mem late_other] at filling
    contradiction
  · intro early early_filling late _ _
    exact isFilling_of_mem_fillingCalls early_filling

/-- Nothing is called once the resources are released. -/
theorem pairwise_ne_disposeAll_calls (decl : TypeDecl) (framework : Framework)
    (table : SymbolTable) (pass : Pass) :
    (decl.lifecycleModel framework table pass).calls.Pairwise fun early _ =>
      early ≠ .disposeAll := by
  have before : ∀ call ∈ decl.fillingCalls framework pass ++ decl.hookCalls framework table pass,
      call ≠ .disposeAll := by
    rintro call listed rfl
    obtain filling | hook := List.mem_append.mp listed
    · cases isFilling_of_mem_fillingCalls filling
    · cases isHook_of_mem_hookCalls hook
  have single : (decl.releaseCalls framework table pass).Pairwise fun early _ =>
      early ≠ .disposeAll := by
    cases pass with
    | enterTree => exact List.Pairwise.nil
    | ready => exact List.Pairwise.nil
    | exitTree =>
        rw [releaseCalls]
        split
        · exact List.Pairwise.nil
        · exact List.pairwise_singleton _ _
  rw [calls_lifecycleModel, List.pairwise_append]
  exact ⟨List.pairwise_of_forall_mem_list fun early listed _ _ => before early listed, single,
    fun early listed _ _ => before early listed⟩

/-- The calls of every pass follow the members of the class. -/
theorem followsMembers_analyze (decl : TypeDecl) (framework : Framework) (table : SymbolTable)
    (marshalling : Bool) (pass : Pass) :
    FollowsMembers framework table decl.members pass
      ((decl.analyze framework table marshalling).model pass).calls where
  hooks := by
    rw [model_analyze, filter_isHook_calls, hookCalls_eq_map]
  fillings := by
    rw [model_analyze, filter_isFilling_calls, fillingCalls_eq]
  fillingsFirst := by
    rw [model_analyze]
    exact decl.pairwise_isFilling_calls framework table pass
  release called := by
    rw [model_analyze, disposeAll_mem_calls_iff] at called
    exact called.1
  releaseLast := by
    rw [model_analyze]
    exact decl.pairwise_ne_disposeAll_calls framework table pass

end TypeDecl
end NodeLifecycle
