import Mathlib.Data.List.Find
import NodeLifecycle.Generation
import NodeLifecycle.Proofs.FirstOccurrences
import NodeLifecycle.Proofs.Framework.Resolution

/-!
# Repeated and foreign attributes

An attribute of a member matters only if it is the first application of a marker, and attributes of
a class only in that there is a tool attribute.  Whatever else stands in the attribute lists can be
left out, and what is left can be put in any order: the analysis of the class is the same, and so is
the text of its units.  Handles of different markers may coincide.
-/

namespace NodeLifecycle

/-! ## Attribute lists -/

namespace Framework

variable {framework : Framework} {attributes kept : List Attribute}

/-- Two attribute lists have the same first application of every marker. -/
def SameMarkings (framework : Framework) (left right : List Attribute) : Prop :=
  ∀ marker, left.find? (fun applied => applied.fingerprint == framework.handle marker) =
    right.find? fun applied => applied.fingerprint == framework.handle marker

/-- Whether an attribute is an application of a marker. -/
def isMarking (framework : Framework) (applied : Attribute) : Bool :=
  Marker.all.any fun marker => applied.fingerprint == framework.handle marker

/-- The first attribute for each handle that is that of a marker. -/
def firstMarkings (framework : Framework) (attributes : List Attribute) : List Attribute :=
  FirstOccurrences.firstPerKey Attribute.fingerprint (attributes.filter framework.isMarking)

/-- Leaving out what is not the first application of a marker keeps the markings. -/
theorem sameMarkings_firstMarkings (framework : Framework) (attributes : List Attribute) :
    framework.SameMarkings attributes (framework.firstMarkings attributes) := by
  intro marker
  rw [firstMarkings, FirstOccurrences.find?_firstPerKey, List.find?_filter]
  congr 1
  funext applied
  rw [Bool.eq_iff_iff, decide_eq_true_eq]
  refine (and_iff_right_of_imp fun marking => ?_).symm
  exact List.any_eq_true.mpr ⟨marker, marker.mem_all, marking⟩

theorem sameMarkings_of_perm (permuted : kept.Perm (framework.firstMarkings attributes)) :
    framework.SameMarkings attributes kept := by
  intro marker
  rw [framework.sameMarkings_firstMarkings attributes marker]
  refine List.find?_eq_find?_of_perm permuted.symm ?_
  rintro left ⟨left_kept, left_marking⟩ right ⟨right_kept, right_marking⟩
  have distinct := FirstOccurrences.nodup_keys_firstPerKey Attribute.fingerprint
    (attributes.filter framework.isMarking)
  exact List.inj_on_of_nodup_map distinct left_kept right_kept
    ((eq_of_beq left_marking).trans (eq_of_beq right_marking).symm)

theorem SameMarkings.carries_eq (same : framework.SameMarkings attributes kept) :
    framework.carries attributes = framework.carries kept := by
  funext marker
  rw [carries, carries, ← List.isSome_find?, ← List.isSome_find?, same marker]

end Framework

/-! ## Members -/

/-- The second member differs from the first at most in its attributes, and the same markings are
found on it. -/
def Member.SameUpToMarkings (framework : Framework) (member other : Member) : Prop :=
  ∃ kept, framework.SameMarkings member.attributes kept ∧ other = { member with attributes := kept }

/-- The second member carries the first application of each marker on the first member, in any
order, and nothing else. -/
def Member.ReducesTo (framework : Framework) (member reduced : Member) : Prop :=
  ∃ kept, kept.Perm (framework.firstMarkings member.attributes) ∧
    reduced = { member with attributes := kept }

theorem Member.ReducesTo.sameUpToMarkings {framework : Framework} {member reduced : Member}
    (reduces : member.ReducesTo framework reduced) :
    member.SameUpToMarkings framework reduced := by
  obtain ⟨kept, permuted, rfl⟩ := reduces
  exact ⟨kept, Framework.sameMarkings_of_perm permuted, rfl⟩

namespace Member.SameUpToMarkings

variable {framework : Framework} {table : SymbolTable} {member other : Member}
  (same : member.SameUpToMarkings framework other)

include same

theorem name_eq : member.name = other.name := by
  obtain ⟨kept, -, rfl⟩ := same
  rfl

theorem updaterAccess_eq : framework.updaterAccess member = framework.updaterAccess other := by
  obtain ⟨kept, markings, rfl⟩ := same
  have found : member.attribute? framework.autoDispose =
      ({ member with attributes := kept } : Member).attribute? framework.autoDispose :=
    markings .autoDispose
  rw [Framework.updaterAccess, Framework.updaterAccess, found]

theorem ofMember?_eq :
    SceneInjection.ofMember? framework member = SceneInjection.ofMember? framework other := by
  obtain ⟨kept, markings, rfl⟩ := same
  have found : member.attribute? framework.sceneUniqueName =
      ({ member with attributes := kept } : Member).attribute? framework.sceneUniqueName :=
    markings .sceneUniqueName
  rw [SceneInjection.ofMember?, SceneInjection.ofMember?, found]
  rfl

theorem entryFor?_eq : framework.entryFor? table member = framework.entryFor? table other := by
  obtain ⟨kept, markings, rfl⟩ := same
  have entries (signature : Signature) : framework.entryOfMethod? table member signature =
      framework.entryOfMethod? table { member with attributes := kept } signature := by
    rw [Framework.entryOfMethod?, Framework.entryOfMethod?, Framework.isDispatchable,
      Framework.isDispatchable, markings.carries_eq]
  exact congrArg member.signature?.bind (funext entries)

theorem classify?_eq {decl reduced : TypeDecl} (named : decl.name = reduced.name)
    (hooks : List Marker) (allowsResources : Bool) :
    decl.classify? framework table hooks allowsResources member =
      reduced.classify? framework table hooks allowsResources other := by
  have access := same.updaterAccess_eq
  obtain ⟨kept, markings, rfl⟩ := same
  have hook : framework.hookMarker? hooks member =
      framework.hookMarker? hooks { member with attributes := kept } := by
    rw [Framework.hookMarker?, Framework.hookMarker?, Framework.markersOf, Framework.markersOf,
      markings.carries_eq]
  have classified (signature : Signature) :
      decl.classifyMethod? framework table hooks allowsResources member signature =
        reduced.classifyMethod? framework table hooks allowsResources
          { member with attributes := kept } signature := by
    rw [TypeDecl.classifyMethod?, TypeDecl.classifyMethod?, hook, markings.carries_eq, access,
      named]
    rfl
  exact congrArg member.signature?.bind (funext classified)

end Member.SameUpToMarkings

/-! ## Classes -/

/-- The second class differs from the first at most in attributes: the same markings are found on
the members, and both have a tool attribute or neither has. -/
structure TypeDecl.SameUpToMarkings (framework : Framework) (decl other : TypeDecl) : Prop where
  /-- The members differ at most in attributes that do not matter. -/
  members : List.Forall₂ (Member.SameUpToMarkings framework) decl.members other.members
  /-- Both classes run inside the editor or neither does. -/
  tool : decl.hasAttribute framework.tool = other.hasAttribute framework.tool
  /-- All else is the same. -/
  rest : other = { decl with attributes := other.attributes, members := other.members }

/-- Every member of the second class carries the first application of each marker alone, and the
class itself keeps one tool attribute if there is one. -/
structure TypeDecl.ReducesTo (framework : Framework) (decl reduced : TypeDecl) : Prop where
  /-- The members are reduced one by one. -/
  members : List.Forall₂ (Member.ReducesTo framework) decl.members reduced.members
  /-- At most one attribute is left on the class. -/
  attributes : (decl.hasAttribute framework.tool = false ∧ reduced.attributes = []) ∨
    ∃ applied ∈ decl.attributes, applied.fingerprint = framework.tool ∧
      reduced.attributes = [applied]
  /-- All else is the same. -/
  rest : reduced = { decl with attributes := reduced.attributes, members := reduced.members }

theorem TypeDecl.ReducesTo.sameUpToMarkings {framework : Framework} {decl reduced : TypeDecl}
    (reduces : decl.ReducesTo framework reduced) : decl.SameUpToMarkings framework reduced where
  members := reduces.members.imp fun _ _ => Member.ReducesTo.sameUpToMarkings
  tool := by
    obtain ⟨unmarked, none_left⟩ | ⟨applied, listed, marking, one_left⟩ := reduces.attributes
    · rw [unmarked, hasAttribute, none_left, List.any_nil]
    · have marked : decl.hasAttribute framework.tool = true :=
        List.any_eq_true.mpr ⟨applied, listed, beq_iff_eq.mpr marking⟩
      rw [marked, hasAttribute, one_left, List.any_cons, beq_iff_eq.mpr marking, Bool.true_or]
  rest := reduces.rest

theorem filterMap_eq_of_forall₂ {α β γ : Type} {related : α → β → Prop} {left : List α}
    {right : List β} {first : α → Option γ} {second : β → Option γ}
    (pairs : List.Forall₂ related left right)
    (agree : ∀ before after, related before after → first before = second after) :
    left.filterMap first = right.filterMap second := by
  induction pairs with
  | nil => rfl
  | cons pair _ induction =>
      rw [List.filterMap_cons, List.filterMap_cons, agree _ _ pair, induction]

namespace TypeDecl.SameUpToMarkings

variable {framework : Framework} {table : SymbolTable} {decl other : TypeDecl}
  (same : decl.SameUpToMarkings framework other)

include same

theorem name_eq : decl.name = other.name :=
  (congrArg TypeDecl.name same.rest).symm

theorem modifiersText_eq : decl.modifiersText = other.modifiersText :=
  (congrArg TypeDecl.modifiersText same.rest).symm

theorem isPartial_eq : decl.isPartial = other.isPartial :=
  (congrArg TypeDecl.isPartial same.rest).symm

theorem map_name_members : decl.members.map Member.name = other.members.map Member.name := by
  simp only [← List.filterMap_eq_map]
  exact filterMap_eq_of_forall₂ same.members fun _ _ pair => congrArg some pair.name_eq

theorem position_eq : DisposalPlan.position decl = DisposalPlan.position other := by
  funext name
  have positions := congrArg (List.findIdx fun declared => declared == name) same.map_name_members
  rw [List.findIdx_map, List.findIdx_map] at positions
  exact positions

theorem classifications_eq :
    decl.classifications framework table = other.classifications framework table := by
  funext pass
  exact filterMap_eq_of_forall₂ same.members fun _ _ pair =>
    pair.classify?_eq same.name_eq [pass.marker] pass.allowsResources

theorem sceneInjections_eq : decl.sceneInjections framework = other.sceneInjections framework :=
  filterMap_eq_of_forall₂ same.members fun _ _ pair => pair.ofMember?_eq

theorem disposalPlan_eq :
    decl.disposalPlan framework table = other.disposalPlan framework table := by
  simp only [disposalPlan, DisposalPlan.merge, DisposalPlan.entriesOf, same.position_eq,
    same.classifications_eq]

theorem descriptor_eq (pass : Pass) :
    ClassDescriptor.ofDecl framework decl pass = ClassDescriptor.ofDecl framework other pass := by
  have bases : decl.base = other.base := (congrArg TypeDecl.base same.rest).symm
  have declared : decl.hasMember pass.overrideName = other.hasMember pass.overrideName := by
    have names := congrArg (List.any · fun declared => declared == pass.overrideName)
      same.map_name_members
    rw [List.any_map, List.any_map] at names
    exact names
  rw [ClassDescriptor.ofDecl, ClassDescriptor.ofDecl, same.name_eq, bases, declared, same.tool,
    same.modifiersText_eq, same.isPartial_eq]

theorem ofParts_eq (pass : Pass) (calls : List HookCall) (helpers : List Helper)
    (classifications : List Classification) :
    LifecycleModel.ofParts framework decl pass calls helpers classifications =
      LifecycleModel.ofParts framework other pass calls helpers classifications := by
  rw [LifecycleModel.ofParts, LifecycleModel.ofParts, same.descriptor_eq, same.name_eq]

theorem lifecycleModel_eq :
    decl.lifecycleModel framework table = other.lifecycleModel framework table := by
  funext pass
  cases pass with
  | enterTree =>
      rw [lifecycleModel, lifecycleModel, enterTreeModel, enterTreeModel, same.ofParts_eq,
        hookCalls, hookCalls, same.sceneInjections_eq, same.classifications_eq]
  | ready =>
      rw [lifecycleModel, lifecycleModel, readyModel, readyModel, same.ofParts_eq, hookCalls,
        hookCalls, same.classifications_eq]
  | exitTree =>
      rw [lifecycleModel, lifecycleModel, exitTreeModel, exitTreeModel, same.ofParts_eq, hookCalls,
        hookCalls, same.classifications_eq, same.disposalPlan_eq]

theorem methodTable?_eq (marshalling : Bool) :
    decl.methodTable? framework table marshalling =
      other.methodTable? framework table marshalling := by
  have entries : decl.members.filterMap (framework.entryFor? table) =
      other.members.filterMap (framework.entryFor? table) :=
    filterMap_eq_of_forall₂ same.members fun _ _ pair => pair.entryFor?_eq
  rw [methodTable?, methodTable?, generatedOverrides, generatedOverrides, same.lifecycleModel_eq,
    same.isPartial_eq, MethodTable.build, MethodTable.build, MethodTable.entriesOf,
    MethodTable.entriesOf, entries, same.name_eq]

/-- Attributes that are not found have no influence on the analysis of a class. -/
theorem analyze_eq (marshalling : Bool) :
    decl.analyze framework table marshalling = other.analyze framework table marshalling := by
  have models : decl.lifecycleModel framework table = other.lifecycleModel framework table :=
    same.lifecycleModel_eq
  simp only [analyze, memberRoles, DisposalPlan.notices, same.name_eq, same.methodTable?_eq,
    same.disposalPlan_eq, same.sceneInjections_eq, same.classifications_eq]
  congr 1
  · exact congrFun models .enterTree
  · exact congrFun models .ready
  · exact congrFun models .exitTree

end TypeDecl.SameUpToMarkings

namespace TypeDecl

/-- Only the first application of each marker and the presence of a tool attribute have an influence
on the analysis of a class and on its output. -/
theorem analyze_eq_of_reducesTo {framework : Framework} {decl reduced : TypeDecl}
    (reduces : decl.ReducesTo framework reduced) (table : SymbolTable) :
    (∀ marshalling, decl.analyze framework table marshalling =
        reduced.analyze framework table marshalling) ∧
      ∀ config : GenerationConfig,
        config.process framework table decl = config.process framework table reduced := by
  have analyses (marshalling : Bool) : decl.analyze framework table marshalling =
      reduced.analyze framework table marshalling :=
    reduces.sameUpToMarkings.analyze_eq marshalling
  exact ⟨analyses, fun config => congrArg config.render (analyses config.emitsScriptMethods)⟩

end TypeDecl

/-- The standard attribute of a marker with the given arguments. -/
def Attribute.marking (marker : Marker) (positional : List AttributeValue) : Attribute :=
  ⟨FrameworkNames.standard.markerClass marker, positional, []⟩

/-- An accessibility as an argument of an attribute. -/
def AttributeValue.access (level : String) : AttributeValue :=
  .enumMember FrameworkNames.standard.accessibilityEnum level

/-- A class with the given attributes on itself and on its one method. -/
def TypeDecl.maker (attributes onMethod : List Attribute) : TypeDecl :=
  { player [{ Member.make [] [] with attributes := onMethod }] with attributes := attributes }

/-- The second accessibility, the foreign attributes and the repeated markers are of no account. -/
theorem TypeDecl.analyze_eq_of_repeated :
    let framework := Framework.ofNames .standard
    let tool : Attribute := ⟨FrameworkNames.standard.toolAttribute, [], []⟩
    let foreign : Attribute := ⟨⟨"Export", ["Godot"]⟩, [], []⟩
    let decl := maker [foreign, tool, tool]
      [.marking .onReady [], foreign, .marking .autoDispose [.access "Internal"],
        .marking .onReady [], .marking .autoDispose [.access "Public"]]
    let reduced := maker [tool] [.marking .autoDispose [.access "Internal"], .marking .onReady []]
    decl.ReducesTo framework reduced ∧
      ∀ table : SymbolTable,
        (∀ marshalling, decl.analyze framework table marshalling =
            reduced.analyze framework table marshalling) ∧
          ∀ config : GenerationConfig,
            config.process framework table decl = config.process framework table reduced := by
  intro framework tool foreign decl reduced
  have reduces : decl.ReducesTo framework reduced :=
    { members := List.Forall₂.cons ⟨_, by decide +kernel, rfl⟩ List.Forall₂.nil
      attributes := Or.inr ⟨tool, by simp [decl, maker], rfl, rfl⟩
      rest := rfl }
  exact ⟨reduces, analyze_eq_of_reducesTo reduces⟩

end NodeLifecycle
