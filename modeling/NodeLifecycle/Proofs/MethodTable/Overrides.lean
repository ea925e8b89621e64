import NodeLifecycle.Proofs.Lifecycle.Work
import NodeLifecycle.Proofs.MethodTable.Dispatch
import NodeLifecycle.Proofs.MethodTable.Registration

/-!
# Registered overrides

A table is given the overrides that are generated, which are those of the passes with work.  Each
override takes the calls of its name without arguments, unless a declared method takes them, and a
synthetic entry stands for it only then.
-/

namespace NodeLifecycle

namespace Framework

variable {framework : Framework} {table : SymbolTable} {member : Member} {entry : MethodEntry}

theorem map_of_mapM_wireParameter?_eq_some {params : List Parameter}
    {wired : List WireParameter}
    (mapped : params.mapM (framework.wireParameter? table) = some wired) :
    (wired.map fun parameter => (parameter.name, parameter.type)) =
      params.map fun parameter => (parameter.name, parameter.type) := by
  induction params generalizing wired with
  | nil =>
      rw [List.mapM_nil] at mapped
      rw [← Option.some.inj mapped]
      rfl
  | cons first rest induction =>
      rw [List.mapM_cons] at mapped
      obtain ⟨head, first_wired, remaining⟩ := Option.bind_eq_some_iff.mp mapped
      obtain ⟨tail, rest_mapped, made⟩ := Option.bind_eq_some_iff.mp remaining
      obtain ⟨kind, -, rfl⟩ := Option.map_eq_some_iff.mp first_wired
      rw [← Option.some.inj made, List.map_cons, List.map_cons, induction rest_mapped]

theorem outline_of_entryFor?_eq_some (found : framework.entryFor? table member = some entry) :
    entry.name = member.name ∧ member.signature?.map Signature.arity = some entry.arity ∧
      entry.isSynthetic = false := by
  obtain ⟨signature, method, made⟩ := Option.bind_eq_some_iff.mp found
  rw [entryOfMethod?, Option.ite_none_right_eq_some] at made
  obtain ⟨returnKind, -, mapped⟩ := Option.bind_eq_some_iff.mp made.2
  obtain ⟨params, wired, rfl⟩ := Option.map_eq_some_iff.mp mapped
  refine ⟨rfl, ?_, rfl⟩
  have same_length := congrArg List.length (map_of_mapM_wireParameter?_eq_some wired)
  rw [List.length_map, List.length_map] at same_length
  rw [method, Option.map_some, MethodEntry.arity, same_length, Signature.arity]

end Framework

namespace MethodEntry

/-- Whether the entry stands for the generated override of the given name. -/
def standsFor (name : String) (entry : MethodEntry) : Bool :=
  entry.isSynthetic && entry.name == name

end MethodEntry

namespace MethodTable

variable {framework : Framework} {table : SymbolTable} {decl : TypeDecl} {name : String}
  {entries : List MethodEntry} {overrides : List String}

/-! ## Synthetic entries -/

/-- An override is added once, if it is given and nothing takes its calls before. -/
theorem countP_standsFor_foldl_addOverride :
    (overrides.foldl addOverride entries).countP (MethodEntry.standsFor name) =
      entries.countP (MethodEntry.standsFor name) +
        if name ∈ overrides ∧ entries.any (MethodEntry.answers name 0) = false then 1 else 0 := by
  induction overrides generalizing entries with
  | nil => simp
  | cons override rest ih =>
      rw [List.foldl_cons, ih, addOverride]
      by_cases taken : entries.any (MethodEntry.answers override 0) = true
      · rw [if_pos taken]
        congr 2
        rw [eq_iff_iff, List.mem_cons]
        refine and_congr_left fun free => (or_iff_right ?_).symm
        rintro rfl
        rw [free] at taken
        cases taken
      · rw [if_neg taken, List.countP_append, List.countP_singleton, List.any_append]
        rw [Bool.not_eq_true] at taken
        by_cases own : name = override
        · subst own
          simp [taken, MethodEntry.standsFor, MethodEntry.answers, MethodEntry.synthetic,
            MethodEntry.arity]
        · simp [own, Ne.symm own, MethodEntry.standsFor, MethodEntry.answers,
            MethodEntry.synthetic]

theorem countP_standsFor_sortByName_numberFrom (before : List String) :
    (sortByName (numberFrom before entries)).countP (MethodEntry.standsFor name) =
      entries.countP (MethodEntry.standsFor name) := by
  have unnumbered (numbered : List MethodEntry) :
      numbered.countP (MethodEntry.standsFor name) =
        (numbered.map MethodEntry.unnumbered).countP (MethodEntry.standsFor name) := by
    rw [List.countP_map]
    rfl
  have sorted : (sortByName (numberFrom before entries)).Perm (numberFrom before entries) :=
    StableSort.sortBy_perm _ _
  rw [sorted.countP_eq, unnumbered, map_unnumbered_numberFrom, ← unnumbered]

theorem any_answers_entryFor?_eq_false_iff {arity : Nat} :
    (decl.members.filterMap (framework.entryFor? table)).any (MethodEntry.answers name arity) =
        false ↔
      ∀ member ∈ decl.members, member.name = name →
        member.signature?.map Signature.arity = some arity →
          framework.entryFor? table member = none := by
  rw [List.any_eq_false]
  constructor
  · intro silent member declared named shaped
    refine Option.eq_none_iff_forall_ne_some.mpr fun entry found => ?_
    obtain ⟨same_name, same_arity, -⟩ := Framework.outline_of_entryFor?_eq_some found
    rw [shaped] at same_arity
    exact silent entry (List.mem_filterMap.mpr ⟨member, declared, found⟩)
      (MethodEntry.answers_iff.mpr ⟨same_name.trans named, (Option.some.inj same_arity).symm⟩)
  · intro unmapped entry listed answered
    obtain ⟨member, declared, found⟩ := List.mem_filterMap.mp listed
    obtain ⟨same_name, same_arity, -⟩ := Framework.outline_of_entryFor?_eq_some found
    obtain ⟨named, shaped⟩ := MethodEntry.answers_iff.mp answered
    rw [unmapped member declared (same_name.symm.trans named) (by rw [same_arity, shaped])] at found
    cases found

/-- A table has one synthetic entry for each override that no declared method takes, and no
others. -/
theorem countP_standsFor_build (framework : Framework) (table : SymbolTable) (decl : TypeDecl)
    (overrides : List String) (name : String) :
    (build framework table decl overrides).entries.countP (MethodEntry.standsFor name) =
      if name ∈ overrides ∧ (decl.members.filterMap (framework.entryFor? table)).any
          (MethodEntry.answers name 0) = false then 1 else 0 := by
  have declared : (decl.members.filterMap (framework.entryFor? table)).countP
      (MethodEntry.standsFor name) = 0 := by
    rw [List.countP_eq_zero]
    intro entry listed
    obtain ⟨member, -, found⟩ := List.mem_filterMap.mp listed
    rw [MethodEntry.standsFor, (Framework.outline_of_entryFor?_eq_some found).2.2]
    exact Bool.false_ne_true
  rw [build, entriesOf, countP_standsFor_sortByName_numberFrom,
    countP_standsFor_foldl_addOverride, declared, Nat.zero_add]

theorem isSome_dispatch?_build (framework : Framework) (table : SymbolTable) (decl : TypeDecl)
    (given : name ∈ overrides) :
    ((build framework table decl overrides).dispatch? name 0).isSome = true := by
  let listed := overrides.foldl addOverride (decl.members.filterMap (framework.entryFor? table))
  have found : (listed.find? (MethodEntry.answers name 0)).isSome = true := by
    rw [find?_foldl_addOverride, if_pos ⟨rfl, given⟩, Option.isSome_or, Option.isSome_some,
      Bool.or_true]
  have numbered : ((numberFrom [] listed).find? (MethodEntry.answers name 0)).map
      MethodEntry.unnumbered =
        (listed.find? (MethodEntry.answers name 0)).map MethodEntry.unnumbered :=
    find?_numberFrom [] listed
  rw [dispatch?, build, entriesOf, find?_sortByName, ← Option.isSome_map, numbered,
    Option.isSome_map, found]

end MethodTable

/-- A table registers the overrides of the passes with work. -/
structure ClassAnalysis.RegistersOverrides (analysis : ClassAnalysis) (framework : Framework)
    (table : SymbolTable) (members : List Member) (methods : MethodTable) : Prop where
  /-- Calls of the overrides go somewhere. -/
  taken : ∀ pass, (analysis.model pass).hasWork = true →
    (methods.dispatch? pass.overrideName 0).isSome = true
  /-- A synthetic entry stands for an override whose calls no declared method takes. -/
  synthetic : ∀ name,
    (∃ entry ∈ methods.entries, entry.isSynthetic = true ∧ entry.name = name) ↔
      (∃ pass, (analysis.model pass).hasWork = true ∧ pass.overrideName = name) ∧
        ∀ member ∈ members, member.name = name →
          member.signature?.map Signature.arity = some 0 →
            framework.entryFor? table member = none
  /-- No two synthetic entries stand for the same override. -/
  once : ∀ name, methods.entries.countP (MethodEntry.standsFor name) ≤ 1

namespace TypeDecl

theorem mem_generatedOverrides_iff {decl : TypeDecl} {framework : Framework} {table : SymbolTable}
    {name : String} :
    name ∈ decl.generatedOverrides framework table ↔
      ∃ pass, (decl.lifecycleModel framework table pass).hasWork = true ∧
        pass.overrideName = name := by
  simp [generatedOverrides]

theorem registersOverrides_build (decl : TypeDecl) (framework : Framework) (table : SymbolTable)
    (marshalling : Bool) :
    (decl.analyze framework table marshalling).RegistersOverrides framework table decl.members
      (.build framework table decl (decl.generatedOverrides framework table)) where
  taken pass work := by
    rw [model_analyze] at work
    exact MethodTable.isSome_dispatch?_build framework table decl
      (mem_generatedOverrides_iff.mpr ⟨pass, work, rfl⟩)
  synthetic name := by
    have counted := MethodTable.countP_standsFor_build framework table decl
      (decl.generatedOverrides framework table) name
    have present : (∃ entry ∈ (MethodTable.build framework table decl
          (decl.generatedOverrides framework table)).entries,
        entry.isSynthetic = true ∧ entry.name = name) ↔
        0 < (MethodTable.build framework table decl
          (decl.generatedOverrides framework table)).entries.countP
            (MethodEntry.standsFor name) := by
      rw [List.countP_pos_iff]
      simp only [MethodEntry.standsFor, Bool.and_eq_true, beq_iff_eq]
    rw [present, counted, ← MethodTable.any_answers_entryFor?_eq_false_iff]
    simp only [model_analyze, ← mem_generatedOverrides_iff]
    split <;> simp_all
  once name := by
    rw [MethodTable.countP_standsFor_build]
    split <;> decide

/-- Each pass has work exactly if the members give it some, and the method table of a class that can
be continued registers exactly the overrides of the passes with work. -/
theorem registersOverrides_analyze (decl : TypeDecl) (framework : Framework) (table : SymbolTable)
    (marshalling : Bool) :
    let analysis := decl.analyze framework table marshalling
    (analysis.enterTree.hasWork = true ↔ ∃ member ∈ decl.members,
        framework.isFilled member = true ∨ framework.isHookOf .enterTree member = true) ∧
      (analysis.ready.hasWork = true ↔
        ∃ member ∈ decl.members, framework.isHookOf .ready member = true) ∧
      (analysis.exitTree.hasWork = true ↔
        (∃ member ∈ decl.members, framework.isHookOf .exitTree member = true) ∨
          ∃ member ∈ decl.members, framework.produces table member = true ∧
            (framework.carries member.attributes .autoDispose = true ∨
              framework.carries member.attributes .onEnterTree = true ∨
                framework.carries member.attributes .onReady = true)) ∧
      (decl.isPartial = true → marshalling = true →
        ∃ methods, analysis.methodTable = some methods ∧
          analysis.RegistersOverrides framework table decl.members methods) := by
  intro analysis
  refine ⟨hasWork_enterTree_iff, hasWork_ready_iff,
    hasWork_exitTree_iff.trans (or_congr_right entries_disposalPlan_ne_nil_iff), ?_⟩
  intro continued wanted
  refine ⟨_, ?_, decl.registersOverrides_build framework table marshalling⟩
  change decl.methodTable? framework table marshalling = _
  rw [methodTable?, continued, wanted, Bool.and_self, if_pos rfl]

/-- A declared `_Ready` with a parameter leaves the calls without arguments to the generated one. -/
theorem registersOverrides_of_overload :
    let decl := TypeDecl.player
      [.make [.onReady] [], .action "_Ready" [⟨"count", .builtin .int32 false, .byValue⟩]]
    let framework := Framework.ofNames .standard
    let table := SymbolTable.game [decl] (by decide) (by decide)
    let analysis := decl.analyze framework table true
    Framework.resolve table .standard = .ok framework ∧
      analysis.ready.hasWork = true ∧ analysis.exitTree.hasWork = true ∧
      ∃ methods, analysis.methodTable = some methods ∧
        methods.entries.map (fun entry => (entry.infoName, entry.isSynthetic)) =
          [("_ExitTree", true), ("_Ready", false), ("_Ready2", true)] ∧
        analysis.RegistersOverrides framework table decl.members methods := by
  intro decl framework table analysis
  obtain ⟨-, ready, exit, registered⟩ := registersOverrides_analyze decl framework table true
  obtain ⟨methods, made, registers⟩ := registered rfl rfl
  have hooked : ∃ member ∈ decl.members, framework.isHookOf .ready member = true :=
    ⟨_, List.mem_cons_self, by decide +kernel⟩
  have produced : framework.produces table (.make [.onReady] []) = true := by decide +kernel
  refine ⟨Framework.resolve_game, ready.mpr hooked,
    exit.mpr (Or.inr ⟨_, List.mem_cons_self, produced, by decide +kernel⟩), methods, made, ?_,
    registers⟩
  rw [← Option.some.inj made]
  decide +kernel

end TypeDecl
end NodeLifecycle
