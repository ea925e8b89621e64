import NodeLifecycle.Proofs.Framework.Resolution
import NodeLifecycle.Proofs.Lifecycle.CallOrder
import NodeLifecycle.Proofs.Lifecycle.TrackedProducers

/-!
# The roles of members

The roles of a class are gathered from the classifications of its methods, from its scene injections
and from its method table, while calls, plan and table are made separately.  They agree: a method
has the role of a hook exactly if some pass calls it, with the kind of call that the role tells.
What is replaced on demand has an entry in the plan, and the entry's role.  The other roles are the
injections and the declared methods of the table, each once.
-/

namespace NodeLifecycle

/-- The role that a call shows the called method to have. -/
def HookCall.role? : HookCall → Option MemberRole
  | initFromScene _ => none
  | invoke method => some (.primary method false)
  | acquire method => some (.primary method true)
  | update method => some (.primary method true)
  | disposeAll => none

namespace HookCall

variable {call : HookCall} {method : String}

theorem role?_eq_some_primary_true_iff :
    call.role? = some (.primary method true) ↔ call = .acquire method ∨ call = .update method := by
  cases call <;> simp [role?]

theorem role?_eq_some_primary_false_iff :
    call.role? = some (.primary method false) ↔ call = .invoke method := by
  cases call <;> simp [role?]

theorem isHook_of_role?_eq_some {role : MemberRole} (shown : call.role? = some role) :
    call.isHook = true := by
  cases call with
  | initFromScene | disposeAll => cases shown
  | invoke | acquire | update => rfl

end HookCall

namespace MemberRole

/-- The injection of a member that is filled from the scene. -/
def injection? : MemberRole → Option SceneInjection
  | sceneInjected injection => some injection
  | _ => none

/-- The entry of a method that the engine can call. -/
def marshalled? : MemberRole → Option MethodEntry
  | marshalled entry => some entry
  | _ => none

variable {role : MemberRole}

theorem injection?_eq_some_iff {injection : SceneInjection} :
    role.injection? = some injection ↔ role = .sceneInjected injection := by
  cases role <;> simp [injection?]

theorem marshalled?_eq_some_iff {entry : MethodEntry} :
    role.marshalled? = some entry ↔ role = .marshalled entry := by
  cases role <;> simp [marshalled?]

end MemberRole

namespace Classification

variable {classification : Classification} {method : String} {returns : Bool}

/-- The role of a hook is the one that its call shows. -/
theorem primary_mem_memberRoles_iff
    (released : classification.roles.isAutoDisposed = true →
      classification.roles.disposesOnExit = true) :
    .primary method returns ∈ classification.memberRoles ↔
      ∃ call, classification.call? = some call ∧ call.role? = some (.primary method returns) := by
  obtain ⟨name, ⟨hook, disposes, auto⟩, params, access, diagnostics⟩ := classification
  cases hook with
  | false => simp [memberRoles, call?]
  | true =>
      cases auto with
      | false => cases disposes <;> simp [memberRoles, call?, HookCall.role?, eq_comm]
      | true =>
          obtain rfl : disposes = true := released rfl
          simp [memberRoles, call?, HookCall.role?, eq_comm]

theorem autoDisposed_mem_memberRoles_iff {access : Accessibility} {params : List Parameter} :
    .autoDisposed method access params ∈ classification.memberRoles ↔
      classification.roles.isAutoDisposed = true ∧ method = classification.method ∧
        access = classification.updaterAccess ∧ params = classification.params := by
  simp [memberRoles]

theorem eq_none_of_mem_memberRoles {role : MemberRole}
    (listed : role ∈ classification.memberRoles) :
    role.injection? = none ∧ role.marshalled? = none := by
  rw [memberRoles, List.mem_append] at listed
  obtain hook | auto := listed
  · split at hook
    · rw [List.mem_singleton.mp hook]
      exact ⟨rfl, rfl⟩
    · cases hook
  · split at auto
    · rw [List.mem_singleton.mp auto]
      exact ⟨rfl, rfl⟩
    · cases auto

end Classification

/-- The roles of a class tell what its calls, its plan, its injections and its table tell. -/
structure ClassAnalysis.RolesAgree (analysis : ClassAnalysis) : Prop where
  /-- No role is listed twice. -/
  distinct : analysis.roles.Nodup
  /-- A method is the hook of a resource exactly if some pass calls it and keeps what it returns. -/
  returning : ∀ method, .primary method true ∈ analysis.roles ↔
    ∃ pass, .acquire method ∈ (analysis.model pass).calls ∨
      .update method ∈ (analysis.model pass).calls
  /-- A method is a hook without a resource exactly if some pass calls it and keeps nothing. -/
  silent : ∀ method, .primary method false ∈ analysis.roles ↔
    ∃ pass, .invoke method ∈ (analysis.model pass).calls
  /-- What the plan replaces on demand has the role with the same accessibility and parameters. -/
  replaced : ∀ entry ∈ analysis.disposal.entries, entry.isAuto = true →
    .autoDisposed entry.method entry.updaterAccess entry.params ∈ analysis.roles
  /-- What has the role of being replaced on demand has an entry in the plan. -/
  planned : ∀ method access params, .autoDisposed method access params ∈ analysis.roles →
    ∃ entry ∈ analysis.disposal.entries, entry.method = method
  /-- The members that are filled are those of the injections. -/
  filled : analysis.roles.filterMap MemberRole.injection? = analysis.scene.eraseDups
  /-- The methods that the engine can call are the entries of the table that do not stand for
  generated overrides; none without a table. -/
  marshalled : analysis.roles.filterMap MemberRole.marshalled? =
    (analysis.methodTable.elim [] fun methods =>
      methods.entries.filter fun entry => !entry.isSynthetic).eraseDups

namespace TypeDecl

variable {decl : TypeDecl} {framework : Framework} {table : SymbolTable}
  {methods : Option MethodTable} {pass : Pass}

/-! ## Where roles come from -/

theorem mem_memberRoles {role : MemberRole} :
    role ∈ decl.memberRoles framework table methods ↔
      (∃ pass, ∃ classification ∈ decl.classifications framework table pass,
        role ∈ classification.memberRoles) ∨
        (∃ injection ∈ decl.sceneInjections framework, .sceneInjected injection = role) ∨
        ∃ entry ∈ (methods.map MethodTable.declared).getD [], .marshalled entry = role := by
  simp only [memberRoles, List.mem_eraseDups, List.mem_append, List.mem_flatMap, List.mem_map,
    Pass.mem_all, true_and, or_assoc]
  constructor
  · rintro (⟨classification, ⟨pass, listed⟩, given⟩ | others)
    · exact Or.inl ⟨pass, classification, listed, given⟩
    · exact Or.inr others
  · rintro (⟨pass, classification, listed, given⟩ | others)
    · exact Or.inl ⟨classification, ⟨pass, listed⟩, given⟩
    · exact Or.inr others

/-- What is replaced on demand is released on exit, in every pass. -/
theorem disposesOnExit_of_isAutoDisposed {classification : Classification}
    (listed : classification ∈ decl.classifications framework table pass)
    (auto : classification.roles.isAutoDisposed = true) :
    classification.roles.disposesOnExit = true := by
  obtain ⟨member, -, -, -, roles_eq⟩ := exists_member_of_mem_classifications listed
  rw [roles_eq] at auto ⊢
  exact Framework.tracks_of_isUpdatable auto pass

theorem mem_calls_iff_of_role? {call : HookCall} {role : MemberRole}
    (shown : call.role? = some role) :
    call ∈ (decl.lifecycleModel framework table pass).calls ↔
      ∃ classification ∈ decl.classifications framework table pass,
        classification.call? = some call := by
  have hooks := decl.filter_isHook_calls framework table pass
  rw [hookCalls] at hooks
  rw [← List.mem_filterMap, ← hooks, List.mem_filter]
  exact (and_iff_left (HookCall.isHook_of_role?_eq_some shown)).symm

theorem primary_mem_memberRoles_iff {method : String} {returns : Bool} :
    .primary method returns ∈ decl.memberRoles framework table methods ↔
      ∃ pass, ∃ call ∈ (decl.lifecycleModel framework table pass).calls,
        call.role? = some (.primary method returns) := by
  rw [mem_memberRoles]
  simp only [reduceCtorEq, and_false, exists_false, or_false]
  constructor
  · rintro ⟨pass, classification, listed, given⟩
    obtain ⟨call, called, shown⟩ := (Classification.primary_mem_memberRoles_iff
      (disposesOnExit_of_isAutoDisposed listed)).mp given
    exact ⟨pass, call, (mem_calls_iff_of_role? shown).mpr ⟨classification, listed, called⟩, shown⟩
  · rintro ⟨pass, call, called, shown⟩
    obtain ⟨classification, listed, called⟩ := (mem_calls_iff_of_role? shown).mp called
    exact ⟨pass, classification, listed, (Classification.primary_mem_memberRoles_iff
      (disposesOnExit_of_isAutoDisposed listed)).mpr ⟨call, called, shown⟩⟩

theorem autoDisposed_mem_memberRoles_iff {method : String} {access : Accessibility}
    {params : List Parameter} :
    .autoDisposed method access params ∈ decl.memberRoles framework table methods ↔
      ∃ pass, ∃ classification ∈ decl.classifications framework table pass,
        classification.roles.isAutoDisposed = true ∧ method = classification.method ∧
          access = classification.updaterAccess ∧ params = classification.params := by
  rw [mem_memberRoles]
  simp only [Classification.autoDisposed_mem_memberRoles_iff, reduceCtorEq, and_false,
    exists_false, or_false]

/-! ## Roles of one kind -/

/-- Roles of a kind that no classification gives are what the kind selects from the injections and
from the entries, each once. -/
theorem filterMap_memberRoles {κ : Type} [BEq κ] [LawfulBEq κ] {select : MemberRole → Option κ}
    {make : κ → MemberRole}
    (made : ∀ {role selected}, select role = some selected ↔ role = make selected)
    (unclassified : ∀ classification : Classification, ∀ role ∈ classification.memberRoles,
      select role = none)
    (decl : TypeDecl) (framework : Framework) (table : SymbolTable)
    (methods : Option MethodTable) :
    (decl.memberRoles framework table methods).filterMap select =
      ((decl.sceneInjections framework).filterMap (select ∘ MemberRole.sceneInjected) ++
        ((methods.map MethodTable.declared).getD []).filterMap
          (select ∘ MemberRole.marshalled)).eraseDups := by
  have classified : ((Pass.all.flatMap (decl.classifications framework table)).flatMap
      Classification.memberRoles).filterMap select = [] := by
    rw [List.filterMap_eq_nil_iff]
    intro role listed
    obtain ⟨classification, -, given⟩ := List.mem_flatMap.mp listed
    exact unclassified classification role given
  rw [memberRoles, ← FirstOccurrences.eraseDups_filterMap, List.filterMap_append,
    List.filterMap_append, classified, List.nil_append, List.filterMap_map, List.filterMap_map]
  intro left _ right _ selected left_eq right_eq
  rw [made.mp left_eq, made.mp right_eq]

theorem filterMap_injection?_memberRoles (decl : TypeDecl) (framework : Framework)
    (table : SymbolTable) (methods : Option MethodTable) :
    (decl.memberRoles framework table methods).filterMap MemberRole.injection? =
      (decl.sceneInjections framework).eraseDups := by
  rw [filterMap_memberRoles MemberRole.injection?_eq_some_iff fun _ _ given =>
    (Classification.eq_none_of_mem_memberRoles given).1]
  simp [Function.comp_def, MemberRole.injection?]

theorem filterMap_marshalled?_memberRoles (decl : TypeDecl) (framework : Framework)
    (table : SymbolTable) (methods : Option MethodTable) :
    (decl.memberRoles framework table methods).filterMap MemberRole.marshalled? =
      (methods.elim [] fun methods =>
        methods.entries.filter fun entry => !entry.isSynthetic).eraseDups := by
  rw [filterMap_memberRoles MemberRole.marshalled?_eq_some_iff fun _ _ given =>
    (Classification.eq_none_of_mem_memberRoles given).2]
  cases methods <;> simp [Function.comp_def, MemberRole.marshalled?, MethodTable.declared]

/-! ## Agreement -/

/-- The roles of every class agree with its calls, its plan, its injections and its table. -/
theorem rolesAgree_analyze (decl : TypeDecl) (framework : Framework) (table : SymbolTable)
    (marshalling : Bool) : (decl.analyze framework table marshalling).RolesAgree where
  distinct := FirstOccurrences.nodup_eraseDups _
  returning method := by
    simp only [model_analyze]
    refine primary_mem_memberRoles_iff.trans (exists_congr fun pass => ?_)
    simp only [HookCall.role?_eq_some_primary_true_iff, and_or_left, exists_or, exists_eq_right]
  silent method := by
    simp only [model_analyze]
    refine primary_mem_memberRoles_iff.trans (exists_congr fun pass => ?_)
    simp only [HookCall.role?_eq_some_primary_false_iff, exists_eq_right]
  replaced entry listed auto := by
    obtain ⟨first, found, rfl⟩ := DisposalPlan.mem_entriesOf.mp listed
    obtain ⟨pass, classified⟩ := exists_pass_of_mem_append (List.mem_of_find?_eq_some found)
    exact autoDisposed_mem_memberRoles_iff.mpr ⟨pass, first, classified, auto, rfl, rfl, rfl⟩
  planned method access params given := by
    obtain ⟨pass, classification, listed, auto, rfl, -, -⟩ :=
      autoDisposed_mem_memberRoles_iff.mp given
    obtain ⟨member, declared, -, named, roles_eq⟩ := exists_member_of_mem_classifications listed
    rw [roles_eq] at auto
    rw [named]
    exact exists_entry_of_isUpdatable declared auto
  filled := decl.filterMap_injection?_memberRoles framework table _
  marshalled := decl.filterMap_marshalled?_memberRoles framework table _

/-- A field that is filled, a hook that keeps nothing and that the engine can call, and a hook that
is replaced on demand. -/
def everyRole : TypeDecl :=
  .player
    [{ Member.make [.sceneUniqueName] [] with
        name := "label", shape := .field (.named FrameworkNames.standard.nodeClass true) },
      { Member.make [.onEnterTree] [] with
        name := "Start", shape := .method ⟨.void false, [], .ordinary, false⟩ },
      .make [.onReady, .autoDispose] [⟨"count", .builtin .int32 false, .byValue⟩]]

/-- The table also has an entry for each generated override, and none of these has a role. -/
theorem rolesAgree_everyRole :
    let analysis := everyRole.analyze (.ofNames .standard) (.ofEngineTypes .standard) true
    analysis.RolesAgree ∧
      analysis.roles =
        [.primary "Start" false,
          .autoDisposed "Make" .publicAccess [⟨"count", .builtin .int32 false, .byValue⟩],
          .primary "Make" true,
          .sceneInjected ⟨"label", .named FrameworkNames.standard.nodeClass true, "%label", false⟩,
          .marshalled ⟨"Start", "", .void false, none, [], false⟩] ∧
      analysis.methodTable.map (fun methods => methods.entries.map MethodEntry.name) =
        some ["_EnterTree", "_ExitTree", "_Ready", "Start"] :=
  ⟨rolesAgree_analyze everyRole _ _ true, by decide +kernel, by decide +kernel⟩

end TypeDecl
end NodeLifecycle
