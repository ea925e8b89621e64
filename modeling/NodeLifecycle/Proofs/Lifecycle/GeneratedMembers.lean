import Mathlib.Data.List.Nodup
import NodeLifecycle.Proofs.Lifecycle.CallOrder
import NodeLifecycle.Proofs.Lifecycle.TrackedProducers
import NodeLifecycle.Source.Lifecycle

/-!
# The members that lifecycle units declare

Names of generated members are a fixed opening followed by a name that the user has chosen.  No
opening is a prefix of another one, so a generated name tells its opening, whatever the user has
chosen.  A class whose members filled from the scene have different names is therefore free of
clashes: every resource has one field, one releasing method and, if it is replaced on demand, one
replacing method, and no two generated members share a name.
-/

namespace NodeLifecycle

/-! ## Openings -/

/-- The kinds of generated members, by the way in which they are named. -/
inductive NameScheme where
  /-- The methods that fill members from the scene. -/
  | sceneInit
  /-- The method that releases all resources. -/
  | disposeAll
  /-- The fields that hold resources. -/
  | slot
  /-- The methods that replace resources. -/
  | updater
  /-- The methods that release resources, apart for the two kinds of resources. -/
  | reset (auto : Bool)
  /-- The overrides. -/
  | override (pass : Pass)
  /-- The methods with the hook calls of a class that also runs inside the editor. -/
  | guardedBody (pass : Pass)
deriving DecidableEq

namespace NameScheme

/-- What all names of the kind begin with. -/
def opening : NameScheme → String
  | sceneInit => "__InitFromScene_"
  | disposeAll => GeneratedName.disposeAll
  | slot => "__disposable_"
  | updater => "Update"
  | reset auto => if auto then "Dispose" else "__Dispose_"
  | override pass => pass.overrideName
  | guardedBody pass => GeneratedName.guardedBody pass.overrideName

def all : List NameScheme :=
  [sceneInit, disposeAll, slot, updater, reset true, reset false] ++ Pass.all.map override ++
    Pass.all.map guardedBody

theorem mem_all (scheme : NameScheme) : scheme ∈ all := by
  cases scheme with
  | reset auto => cases auto <;> simp [all]
  | _ => simp [all]

/-- No opening is a prefix of another one. -/
theorem eq_of_prefix_opening {left right : NameScheme}
    (shorter : left.opening.toList <+: right.opening.toList) : left = right := by
  have incomparable : ∀ left ∈ all, ∀ right ∈ all,
      left.opening.toList <+: right.opening.toList → left = right := by decide +kernel
  exact incomparable left left.mem_all right right.mem_all shorter

end NameScheme

/-- A generated member: its kind, and the name of the member that it serves if there is one. -/
structure GeneratedMember where
  /-- The kind. -/
  scheme : NameScheme
  /-- The name of the served member. -/
  served : String
deriving DecidableEq

namespace GeneratedMember

def name (member : GeneratedMember) : String :=
  member.scheme.opening ++ member.served

/-- Generated members of different kinds or for different members have different names. -/
theorem name_injective : Function.Injective name := by
  rintro ⟨left, left_served⟩ ⟨right, right_served⟩ same
  have letters := congrArg String.toList same
  simp only [name, String.toList_append] at letters
  have kind : left = right := by
    obtain shorter | longer := List.prefix_or_prefix_of_prefix
      (List.prefix_append left.opening.toList left_served.toList)
      (letters ▸ List.prefix_append right.opening.toList right_served.toList)
    · exact NameScheme.eq_of_prefix_opening shorter
    · exact (NameScheme.eq_of_prefix_opening longer).symm
  subst kind
  rw [String.toList_inj.mp (List.append_cancel_left letters)]

/-- The overrides, and the methods with the hook calls of a class that also runs inside the
editor. -/
def overrides : List GeneratedMember :=
  Pass.all.map (fun pass => ⟨.override pass, ""⟩) ++
    Pass.all.map fun pass => ⟨.guardedBody pass, ""⟩

theorem map_name_overrides :
    overrides.map name =
      Pass.all.map Pass.overrideName ++
        Pass.all.map fun pass => GeneratedName.guardedBody pass.overrideName := by
  simp [overrides, name, NameScheme.opening, Function.comp_def]

theorem nodup_overrides : overrides.Nodup := by
  decide

end GeneratedMember

/-! ## Declared members -/

namespace Helper

def name : Helper → String
  | sceneInit injection => injection.initName
  | disposeAll _ => GeneratedName.disposeAll
  | slot entry => entry.slotName
  | updater entry => GeneratedName.updater entry.method
  | reset entry => entry.resetName

/-- A helper as a generated member. -/
def declared : Helper → GeneratedMember
  | sceneInit injection => ⟨.sceneInit, injection.member⟩
  | disposeAll _ => ⟨.disposeAll, ""⟩
  | slot entry => ⟨.slot, entry.method⟩
  | updater entry => ⟨.updater, entry.method⟩
  | reset entry => ⟨.reset entry.isAuto, entry.method⟩

theorem name_declared (helper : Helper) : helper.declared.name = helper.name := by
  cases helper with
  | disposeAll => exact String.append_empty
  | sceneInit | slot | updater | reset => rfl

theorem declared_not_mem_overrides (helper : Helper) :
    helper.declared ∉ GeneratedMember.overrides := by
  cases helper <;> simp [declared, GeneratedMember.overrides]

/-- The name of a method that releases a resource. -/
def resetName? : Helper → Option String
  | reset entry => some entry.resetName
  | _ => none

end Helper

def ClassAnalysis.helpers (analysis : ClassAnalysis) : List Helper :=
  analysis.models.flatMap LifecycleModel.helpers

theorem ClassAnalysis.mem_helpers_iff {analysis : ClassAnalysis} {helper : Helper} :
    helper ∈ analysis.helpers ↔ ∃ pass, helper ∈ (analysis.model pass).helpers := by
  rw [helpers, List.mem_flatMap]
  constructor
  · rintro ⟨model, listed, helping⟩
    simp only [models, List.mem_cons, List.not_mem_nil, or_false] at listed
    obtain rfl | rfl | rfl := listed
    · exact ⟨.enterTree, helping⟩
    · exact ⟨.ready, helping⟩
    · exact ⟨.exitTree, helping⟩
  · rintro ⟨pass, helping⟩
    exact ⟨analysis.model pass, by cases pass <;> simp [model, models], helping⟩

/-- The names that the units of a class can declare: those of the helpers, those of the overrides,
and those of the methods with the hook calls of a class that also runs inside the editor. -/
def ClassAnalysis.declaredNames (analysis : ClassAnalysis) : List String :=
  analysis.helpers.map Helper.name ++ Pass.all.map Pass.overrideName ++
    Pass.all.map fun pass => GeneratedName.guardedBody pass.overrideName

/-- Whatever the helpers are, names clash only among them. -/
theorem ClassAnalysis.nodup_declaredNames_iff {analysis : ClassAnalysis} :
    analysis.declaredNames.Nodup ↔ (analysis.helpers.map Helper.declared).Nodup := by
  have helpers_named : analysis.helpers.map Helper.name =
      (analysis.helpers.map Helper.declared).map GeneratedMember.name := by
    rw [List.map_map]
    exact List.map_congr_left fun helper _ => helper.name_declared.symm
  rw [declaredNames, List.append_assoc, ← GeneratedMember.map_name_overrides, helpers_named,
    ← List.map_append, List.nodup_map_iff GeneratedMember.name_injective, List.nodup_append]
  refine and_iff_left_of_imp fun _ => ⟨GeneratedMember.nodup_overrides, ?_⟩
  rintro _ helping _ overriding rfl
  obtain ⟨helper, -, rfl⟩ := List.mem_map.mp helping
  exact helper.declared_not_mem_overrides overriding

/-- The units of a class declare what belongs to its resources, and no name twice. -/
structure DeclaresConsistently (analysis : ClassAnalysis) : Prop where
  /-- Every resource has one field. -/
  slot : ∀ entry ∈ analysis.disposal.entries, analysis.helpers.count (.slot entry) = 1
  /-- Every resource has one method that releases it. -/
  reset : ∀ entry ∈ analysis.disposal.entries, analysis.helpers.count (.reset entry) = 1
  /-- A resource has one method that replaces it if it is replaced on demand, and none if not. -/
  updater : ∀ entry ∈ analysis.disposal.entries,
    analysis.helpers.count (.updater entry) = if entry.isAuto then 1 else 0
  /-- All fields and methods for resources belong to tracked ones. -/
  tracked : ∀ entry,
    .slot entry ∈ analysis.helpers ∨ .updater entry ∈ analysis.helpers ∨
        .reset entry ∈ analysis.helpers →
      entry ∈ analysis.disposal.entries
  /-- The method that releases everything calls each releasing method once. -/
  disposeAll : ∀ resets, .disposeAll resets ∈ analysis.helpers →
    resets.Perm (analysis.helpers.filterMap Helper.resetName?)
  /-- No two declared members share a name. -/
  names : analysis.declaredNames.Nodup

namespace TypeDecl

variable {decl : TypeDecl} {framework : Framework} {table : SymbolTable} {plan : DisposalPlan}

theorem helpers_analyze (decl : TypeDecl) (framework : Framework) (table : SymbolTable)
    (marshalling : Bool) :
    (decl.analyze framework table marshalling).helpers =
      (decl.sceneInjections framework).map .sceneInit ++
        disposalHelpers (decl.disposalPlan framework table) := by
  simp [ClassAnalysis.helpers, ClassAnalysis.models, analyze, enterTreeModel, readyModel,
    exitTreeModel]

theorem served_eq_of_mem {entry : DisposalEntry} {member : GeneratedMember}
    (listed : member ∈ (entryHelpers entry).map Helper.declared) :
    member.served = entry.method := by
  obtain ⟨helper, helping, rfl⟩ := List.mem_map.mp listed
  obtain rfl | ⟨-, rfl⟩ | rfl := mem_entryHelpers.mp helping <;> rfl

theorem nodup_declared_disposalHelpers
    (distinct : (plan.entries.map DisposalEntry.method).Nodup) :
    ((disposalHelpers plan).map Helper.declared).Nodup := by
  rw [disposalHelpers_eq]
  split
  · exact List.nodup_nil
  · rw [List.map_cons, List.map_flatMap, List.nodup_cons, List.nodup_flatMap]
    refine ⟨?_, ?_, ?_⟩
    · intro listed
      obtain ⟨entry, -, helping⟩ := List.mem_flatMap.mp listed
      obtain ⟨helper, kind, same⟩ := List.mem_map.mp helping
      obtain rfl | ⟨-, rfl⟩ | rfl := mem_entryHelpers.mp kind <;> cases same
    · intro entry _
      rw [entryHelpers]
      split <;> simp [Helper.declared]
    · refine (List.pairwise_map.mp distinct).imp fun apart member left right => apart ?_
      rw [← served_eq_of_mem left, ← served_eq_of_mem right]

/-- The helpers of a class are different members exactly if the members that are filled from the
scene have different names. -/
theorem nodup_declared_helpers_analyze_iff (decl : TypeDecl) (framework : Framework)
    (table : SymbolTable) (marshalling : Bool) :
    ((decl.analyze framework table marshalling).helpers.map Helper.declared).Nodup ↔
      ((decl.members.filter framework.isFilled).map Member.name).Nodup := by
  have filled : ((decl.sceneInjections framework).map Helper.sceneInit).map Helper.declared =
      ((decl.members.filter framework.isFilled).map Member.name).map fun name =>
        ⟨.sceneInit, name⟩ := by
    rw [← map_member_sceneInjections, List.map_map, List.map_map]
    rfl
  have injective : Function.Injective fun name => (⟨.sceneInit, name⟩ : GeneratedMember) := by
    intro left right same
    cases same
    rfl
  have supporting : ((disposalHelpers (decl.disposalPlan framework table)).map
      Helper.declared).Nodup :=
    nodup_declared_disposalHelpers (DisposalPlan.nodup_methods_entriesOf decl _)
  rw [helpers_analyze, List.map_append, filled, List.nodup_append, List.nodup_map_iff injective]
  refine and_iff_left ⟨supporting, ?_⟩
  rintro _ filling _ listed rfl
  obtain ⟨name, -, rfl⟩ := List.mem_map.mp filling
  obtain ⟨helper, helping, same⟩ := List.mem_map.mp listed
  obtain ⟨-, rfl⟩ | ⟨entry, -, rfl | ⟨-, rfl⟩ | rfl⟩ := mem_disposalHelpers.mp helping
  all_goals cases same

theorem filterMap_resetName?_helpers (decl : TypeDecl) (framework : Framework)
    (table : SymbolTable) (marshalling : Bool) :
    (decl.analyze framework table marshalling).helpers.filterMap Helper.resetName? =
      (decl.disposalPlan framework table).entries.map DisposalEntry.resetName := by
  have silent : ((decl.sceneInjections framework).map Helper.sceneInit).filterMap
      Helper.resetName? = [] := by
    simp [List.filterMap_map, Helper.resetName?]
  have released (entry : DisposalEntry) :
      (entryHelpers entry).filterMap Helper.resetName? = [entry.resetName] := by
    rw [entryHelpers]
    split <;> rfl
  rw [helpers_analyze, List.filterMap_append, silent, List.nil_append, disposalHelpers_eq]
  split
  · next untracked => rw [untracked, List.filterMap_nil, List.map_nil]
  · rw [List.filterMap_cons_none rfl, List.filterMap_flatMap, List.map_eq_flatMap]
    exact List.flatMap_congr fun entry _ => released entry

/-- The lifecycle units of a class declare consistently exactly if the members that are filled from
the scene have different names. -/
theorem declaresConsistently_analyze_iff (decl : TypeDecl) (framework : Framework)
    (table : SymbolTable) (marshalling : Bool) :
    DeclaresConsistently (decl.analyze framework table marshalling) ↔
      ((decl.members.filter framework.isFilled).map Member.name).Nodup := by
  rw [← nodup_declared_helpers_analyze_iff decl framework table marshalling]
  refine ⟨fun consistent => ClassAnalysis.nodup_declaredNames_iff.mp consistent.names,
    fun distinct => ?_⟩
  have each_once := List.Nodup.of_map _ distinct
  refine ⟨?slot, ?reset, ?updater, ?tracked, ?disposeAll,
    ClassAnalysis.nodup_declaredNames_iff.mpr distinct⟩
  case slot =>
    intro entry listed
    refine List.count_eq_one_of_mem each_once (ClassAnalysis.mem_helpers_iff.mpr ⟨.exitTree, ?_⟩)
    exact slot_mem_helpers_iff.mpr ⟨rfl, listed⟩
  case reset =>
    intro entry listed
    refine List.count_eq_one_of_mem each_once (ClassAnalysis.mem_helpers_iff.mpr ⟨.exitTree, ?_⟩)
    exact reset_mem_helpers_iff.mpr ⟨rfl, listed⟩
  case updater =>
    intro entry listed
    rw [each_once.count]
    refine if_congr ?_ rfl rfl
    rw [ClassAnalysis.mem_helpers_iff]
    constructor
    · rintro ⟨pass, helping⟩
      rw [model_analyze] at helping
      exact (updater_mem_helpers_iff.mp helping).2.2
    · intro auto
      exact ⟨.exitTree, updater_mem_helpers_iff.mpr ⟨rfl, listed, auto⟩⟩
  case tracked =>
    intro entry helping
    simp only [ClassAnalysis.mem_helpers_iff, model_analyze] at helping
    obtain ⟨pass, slot⟩ | ⟨pass, updater⟩ | ⟨pass, reset⟩ := helping
    · exact (slot_mem_helpers_iff.mp slot).2
    · exact (updater_mem_helpers_iff.mp updater).2.1
    · exact (reset_mem_helpers_iff.mp reset).2
  case disposeAll =>
    intro resets helping
    obtain ⟨pass, helping⟩ := ClassAnalysis.mem_helpers_iff.mp helping
    rw [model_analyze] at helping
    obtain ⟨-, -, rfl⟩ := disposeAll_mem_helpers_iff.mp helping
    rw [filterMap_resetName?_helpers]
    exact (decl.disposalOrder_disposalPlan_perm framework table).map DisposalEntry.resetName

end TypeDecl
end NodeLifecycle
