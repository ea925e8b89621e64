import Mathlib.Logic.Relation
import NodeLifecycle.Proofs.Symbol.BaseChains

/-!
# The interface search

A search takes any of the waiting names next.  It keeps an invariant: what waits can be reached, and
an interface of a type that has been seen has been seen itself or still waits.  Every step uses up
work, so every search ends, and the invariant fixes its answer.  Without shared handles it is
whether a type with the wanted handle can be reached through base classes and then through
interfaces.
-/

namespace NodeLifecycle
namespace SymbolTable

/-- A registered type is on the interface list of another one. -/
def ListsInterface (table : SymbolTable) (decl next : TypeDecl) : Prop :=
  ∃ name ∈ decl.interfaces, table.get? name = some next

/-- A type with the wanted handle is reached from a name through any number of base classes and then
through any number of interface lists. -/
def Implements (table : SymbolTable) (name : QualifiedName) (wanted : Fingerprint) : Prop :=
  ∃ distance ancestor target, table.AncestorAt name distance ancestor ∧
    Relation.ReflTransGen table.ListsInterface ancestor target ∧ target.fingerprint = wanted

/-! ## Searches that take names in any order -/

/-- What a search knows. -/
structure SearchState where
  /-- The handles that have come up. -/
  seen : List Fingerprint
  /-- The names that have not been taken yet. -/
  waiting : List QualifiedName

/-- A search goes on after any waiting name but one with the wanted handle. -/
inductive SearchStep (table : SymbolTable) (wanted : Fingerprint) :
    SearchState → SearchState → Prop where
  | missing {seen : List Fingerprint} {waiting rest : List QualifiedName} {name : QualifiedName}
      (taken : waiting.Perm (name :: rest)) (missing : table.get? name = none) :
      SearchStep table wanted ⟨seen, waiting⟩ ⟨seen, rest⟩
  | repeated {seen : List Fingerprint} {waiting rest : List QualifiedName} {name : QualifiedName}
      {decl : TypeDecl} (taken : waiting.Perm (name :: rest)) (found : table.get? name = some decl)
      (missed : decl.fingerprint ≠ wanted) (repeated : decl.fingerprint ∈ seen) :
      SearchStep table wanted ⟨seen, waiting⟩ ⟨seen, rest⟩
  | fresh {seen : List Fingerprint} {waiting rest next : List QualifiedName} {name : QualifiedName}
      {decl : TypeDecl} (taken : waiting.Perm (name :: rest)) (found : table.get? name = some decl)
      (missed : decl.fingerprint ≠ wanted) (fresh : decl.fingerprint ∉ seen)
      (added : next.Perm (decl.interfaces ++ rest)) :
      SearchStep table wanted ⟨seen, waiting⟩ ⟨decl.fingerprint :: seen, next⟩

/-- A search ends with success when it takes a name with the wanted handle, and without when no name
is left. -/
inductive SearchEnds (table : SymbolTable) (wanted : Fingerprint) :
    List QualifiedName → Bool → Prop where
  | success {waiting : List QualifiedName} {name : QualifiedName} {decl : TypeDecl}
      (taken : name ∈ waiting) (found : table.get? name = some decl)
      (hit : decl.fingerprint = wanted) : SearchEnds table wanted waiting true
  | exhausted : SearchEnds table wanted [] false

variable {table : SymbolTable} {wanted : Fingerprint}

theorem SearchStep.work_lt {before after : SearchState}
    (step : table.SearchStep wanted before after) :
    table.pendingWork after.seen + after.waiting.length <
      table.pendingWork before.seen + before.waiting.length := by
  cases step with
  | missing taken missing => simp [taken.length_eq]
  | repeated taken found missed repeated => simp [taken.length_eq]
  | fresh taken found missed fresh added =>
      have used := pendingWork_cons_le (mem_decls_of_get?_eq_some found) fresh
      simp only [taken.length_eq, added.length_eq, List.length_append, List.length_cons]
      omega

/-- No search goes on for ever. -/
theorem wellFounded_searchStep (table : SymbolTable) (wanted : Fingerprint) :
    WellFounded fun after before => table.SearchStep wanted before after :=
  Subrelation.wf SearchStep.work_lt
    (measure fun state : SearchState =>
      table.pendingWork state.seen + state.waiting.length).wf

theorem exists_searchStep_or_searchEnds (table : SymbolTable) (wanted : Fingerprint)
    (state : SearchState) :
    (∃ next, table.SearchStep wanted state next) ∨
      ∃ answer, table.SearchEnds wanted state.waiting answer := by
  obtain ⟨seen, _ | ⟨name, rest⟩⟩ := state
  · exact .inr ⟨false, .exhausted⟩
  · cases found : table.get? name with
    | none => exact .inl ⟨_, .missing (.refl _) found⟩
    | some decl =>
        by_cases hit : decl.fingerprint = wanted
        · exact .inr ⟨true, .success List.mem_cons_self found hit⟩
        · by_cases known : decl.fingerprint ∈ seen
          · exact .inl ⟨_, .repeated (.refl _) found hit known⟩
          · exact .inl ⟨_, .fresh (.refl _) found hit known (.refl _)⟩

theorem SearchStep.kept {before after : SearchState} (step : table.SearchStep wanted before after)
    {name : QualifiedName} {decl : TypeDecl} (found : table.get? name = some decl)
    (known : decl.fingerprint ∈ before.seen ∨ name ∈ before.waiting) :
    decl.fingerprint ∈ after.seen ∨ name ∈ after.waiting := by
  cases step with
  | missing taken missing =>
      refine known.imp_right fun waits => ?_
      rcases List.mem_cons.mp (taken.mem_iff.mp waits) with rfl | later
      · rw [missing] at found
        cases found
      · exact later
  | repeated taken also_found missed repeated =>
      rcases known with seen | waits
      · exact .inl seen
      · rcases List.mem_cons.mp (taken.mem_iff.mp waits) with rfl | later
        · obtain rfl := Option.some.inj (found.symm.trans also_found)
          exact .inl repeated
        · exact .inr later
  | fresh taken also_found missed fresh added =>
      rcases known with seen | waits
      · exact .inl (List.mem_cons_of_mem _ seen)
      · rcases List.mem_cons.mp (taken.mem_iff.mp waits) with rfl | later
        · obtain rfl := Option.some.inj (found.symm.trans also_found)
          exact .inl List.mem_cons_self
        · exact .inr (added.mem_iff.mpr (List.mem_append_right _ later))

/-! ## The invariant -/

/-- A type is reached from one of several names through interface lists. -/
def ReachedFrom (table : SymbolTable) (starts : List QualifiedName) (target : TypeDecl) : Prop :=
  ∃ name ∈ starts, ∃ start, table.get? name = some start ∧
    Relation.ReflTransGen table.ListsInterface start target

/-- What a search that began with several names knows at any time. -/
structure Explores (table : SymbolTable) (wanted : Fingerprint) (starts : List QualifiedName)
    (state : SearchState) : Prop where
  /-- Everything that waits is reached from the start. -/
  reached : ∀ name ∈ state.waiting, ∀ decl, table.get? name = some decl →
    table.ReachedFrom starts decl
  /-- No name of the start is lost. -/
  started : ∀ name ∈ starts, ∀ decl, table.get? name = some decl →
    decl.fingerprint ∈ state.seen ∨ name ∈ state.waiting
  /-- No interface of a type that has been seen is lost. -/
  closed : ∀ decl ∈ table.decls, decl.fingerprint ∈ state.seen →
    ∀ name ∈ decl.interfaces, ∀ next, table.get? name = some next →
      next.fingerprint ∈ state.seen ∨ name ∈ state.waiting
  /-- The wanted handle has not come up. -/
  missed : wanted ∉ state.seen

theorem explores_start {starts waiting : List QualifiedName} (permuted : waiting.Perm starts) :
    table.Explores wanted starts ⟨[], waiting⟩ where
  reached _ waits decl found := ⟨_, permuted.mem_iff.mp waits, decl, found, .refl⟩
  started _ listed _ _ := .inr (permuted.mem_iff.mpr listed)
  closed _ _ seen := nomatch seen
  missed := nofun

/-- The invariant survives every step, if no two types share a handle. -/
theorem Explores.step (distinct : table.DistinctHandles) {starts : List QualifiedName}
    {before after : SearchState} (known : table.Explores wanted starts before)
    (step : table.SearchStep wanted before after) : table.Explores wanted starts after := by
  have started : ∀ name ∈ starts, ∀ decl, table.get? name = some decl →
      decl.fingerprint ∈ after.seen ∨ name ∈ after.waiting :=
    fun name listed decl found => step.kept found (known.started name listed decl found)
  have closed : ∀ decl ∈ table.decls, decl.fingerprint ∈ before.seen →
      ∀ name ∈ decl.interfaces, ∀ next, table.get? name = some next →
        next.fingerprint ∈ after.seen ∨ name ∈ after.waiting :=
    fun decl registered seen name listed next found =>
      step.kept found (known.closed decl registered seen name listed next found)
  cases step with
  | missing taken missing =>
      exact
        { reached := fun name waits =>
            known.reached name (taken.mem_iff.mpr (List.mem_cons_of_mem _ waits))
          started, closed, missed := known.missed }
  | repeated taken found missed repeated =>
      exact
        { reached := fun name waits =>
            known.reached name (taken.mem_iff.mpr (List.mem_cons_of_mem _ waits))
          started, closed, missed := known.missed }
  | @fresh seen waiting rest next name decl taken found missed fresh added =>
      refine { reached := ?_, started, closed := ?_, missed := ?_ }
      · intro later waits target found_target
        rcases List.mem_append.mp (added.mem_iff.mp waits) with listed | waited
        · obtain ⟨start_name, is_start, start, found_start, path⟩ :=
            known.reached name (taken.mem_iff.mpr List.mem_cons_self) decl found
          exact ⟨start_name, is_start, start, found_start,
            path.tail ⟨later, listed, found_target⟩⟩
        · exact known.reached later (taken.mem_iff.mpr (List.mem_cons_of_mem _ waited)) target
            found_target
      · intro other registered seen_after interface listed target found_target
        rcases List.mem_cons.mp seen_after with same | seen_before
        · -- only the taken type has its handle, and its interfaces wait now
          obtain rfl := distinct.eq_of_fingerprint_eq registered
            (mem_decls_of_get?_eq_some found) same
          exact .inr (added.mem_iff.mpr (List.mem_append_left _ listed))
        · exact closed other registered seen_before interface listed target found_target
      · exact List.not_mem_cons_of_ne_of_not_mem missed.symm known.missed

theorem Explores.steps (distinct : table.DistinctHandles) {starts : List QualifiedName}
    {before after : SearchState} (known : table.Explores wanted starts before)
    (run : Relation.ReflTransGen (table.SearchStep wanted) before after) :
    table.Explores wanted starts after := by
  induction run with
  | refl => exact known
  | tail _ step ih => exact ih.step distinct step

/-- When nothing waits any more, all types that are reached have been seen. -/
theorem Explores.fingerprint_mem_seen {starts : List QualifiedName} {seen : List Fingerprint}
    (known : table.Explores wanted starts ⟨seen, []⟩) {target : TypeDecl}
    (reached : table.ReachedFrom starts target) : target.fingerprint ∈ seen := by
  obtain ⟨name, listed, start, found, path⟩ := reached
  have both : target ∈ table.decls ∧ target.fingerprint ∈ seen := by
    induction path with
    | refl =>
        exact ⟨mem_decls_of_get?_eq_some found,
          (known.started name listed start found).resolve_right (by simp)⟩
    | tail _ edge ih =>
        obtain ⟨interface, on_list, found_next⟩ := edge
        exact ⟨mem_decls_of_get?_eq_some found_next,
          (known.closed _ ih.1 ih.2 interface on_list _ found_next).resolve_right (by simp)⟩
  exact both.2

/-- The invariant fixes the answer. -/
theorem Explores.answer_iff {starts : List QualifiedName} {state : SearchState} {answer : Bool}
    (known : table.Explores wanted starts state)
    (ends : table.SearchEnds wanted state.waiting answer) :
    answer = true ↔ ∃ target, table.ReachedFrom starts target ∧ target.fingerprint = wanted := by
  obtain ⟨seen, waiting⟩ := state
  cases ends with
  | success taken found hit =>
      exact iff_of_true rfl ⟨_, known.reached _ taken _ found, hit⟩
  | exhausted =>
      refine iff_of_false Bool.false_ne_true ?_
      rintro ⟨target, reached, rfl⟩
      exact known.missed (known.fingerprint_mem_seen reached)

/-! ## The order that is taken -/

theorem exists_run_reachesInterface (table : SymbolTable) (wanted : Fingerprint)
    (seen : List Fingerprint) (waiting : List QualifiedName) :
    ∃ state, Relation.ReflTransGen (table.SearchStep wanted) ⟨seen, waiting⟩ state ∧
      table.SearchEnds wanted state.waiting (table.reachesInterface wanted seen waiting) := by
  induction seen, waiting using reachesInterface.induct table wanted with
  | case1 seen =>
      rw [reachesInterface]
      exact ⟨_, .refl, .exhausted⟩
  | case2 seen name rest missing ih =>
      obtain ⟨state, run, ends⟩ := ih
      rw [reachesInterface_cons_of_get?_eq_none missing]
      exact ⟨state, .head (.missing (.refl _) missing) run, ends⟩
  | case3 seen name rest decl found hit =>
      rw [reachesInterface_cons_of_get?_eq_some found, if_pos hit]
      exact ⟨_, .refl, .success List.mem_cons_self found hit⟩
  | case4 seen name rest decl found missed repeated ih =>
      obtain ⟨state, run, ends⟩ := ih
      rw [reachesInterface_cons_of_get?_eq_some found, if_neg missed, if_pos repeated]
      exact ⟨state, .head (.repeated (.refl _) found missed repeated) run, ends⟩
  | case5 seen name rest decl found missed fresh ih =>
      obtain ⟨state, run, ends⟩ := ih
      rw [reachesInterface_cons_of_get?_eq_some found, if_neg missed, if_neg fresh]
      have added := (List.reverse_perm decl.interfaces).append_right rest
      exact ⟨state, .head (.fresh (.refl _) found missed fresh added) run, ends⟩

theorem exists_reachedFrom_baseChain_iff (distinct : table.DistinctHandles) {name : QualifiedName} :
    (∃ target, table.ReachedFrom ((table.baseChain name).map TypeDecl.name) target ∧
        target.fingerprint = wanted) ↔
      table.Implements name wanted := by
  constructor
  · rintro ⟨target, ⟨start_name, listed, start, found, path⟩, hit⟩
    obtain ⟨ancestor, visited, rfl⟩ := List.mem_map.mp listed
    obtain ⟨distance, reached⟩ := (mem_baseChain_iff distinct).mp visited
    rw [mem_decls_iff.mp reached.mem_decls] at found
    cases found
    exact ⟨distance, start, target, reached, path, hit⟩
  · rintro ⟨distance, ancestor, target, reached, path, hit⟩
    have visited := mem_baseChain_of_ancestorAt distinct reached
    exact ⟨target, ⟨ancestor.name, List.mem_map_of_mem visited, ancestor,
      mem_decls_iff.mp reached.mem_decls, path⟩, hit⟩

/-- Whatever order a search takes the names of a base chain and of the interface lists in, its
answer is whether the handle can be reached. -/
theorem searchEnds_iff_implements (distinct : table.DistinctHandles) {name : QualifiedName}
    {waiting : List QualifiedName}
    (permuted : waiting.Perm ((table.baseChain name).map TypeDecl.name))
    {state : SearchState} {answer : Bool}
    (run : Relation.ReflTransGen (table.SearchStep wanted) ⟨[], waiting⟩ state)
    (ends : table.SearchEnds wanted state.waiting answer) :
    answer = true ↔ table.Implements name wanted := by
  rw [← exists_reachedFrom_baseChain_iff distinct]
  exact ((explores_start permuted).steps distinct run).answer_iff ends

theorem implementsInterface_iff (distinct : table.DistinctHandles) {name : QualifiedName} :
    table.implementsInterface name wanted = true ↔ table.Implements name wanted := by
  obtain ⟨state, run, ends⟩ := exists_run_reachesInterface table wanted []
    ((table.baseChain name).map TypeDecl.name).reverse
  exact searchEnds_iff_implements distinct (List.reverse_perm _) run ends

/-! ## The order of interface lists -/

/-- The same names are registered, each with the same base class and with the same interfaces in
some order. -/
def SameButInterfaceOrder (left right : SymbolTable) : Prop :=
  ∀ name, Option.Rel
    (fun decl other => decl.base = other.base ∧ decl.interfaces.Perm other.interfaces)
    (left.get? name) (right.get? name)

namespace SameButInterfaceOrder

variable {left right : SymbolTable} (same : left.SameButInterfaceOrder right)

include same

theorem symm : right.SameButInterfaceOrder left := by
  intro name
  have alike := same name
  generalize left.get? name = found at alike ⊢
  generalize right.get? name = other at alike ⊢
  cases alike with
  | none => exact .none
  | some alike => exact .some ⟨alike.1.symm, alike.2.symm⟩

theorem exists_get?_eq_some {name : QualifiedName} {decl : TypeDecl}
    (found : left.get? name = some decl) :
    ∃ other, right.get? name = some other ∧ decl.base = other.base ∧
      decl.interfaces.Perm other.interfaces := by
  have alike := same name
  rw [found] at alike
  generalize right.get? name = other at alike ⊢
  cases alike with
  | some alike => exact ⟨_, rfl, alike⟩

theorem names_perm : left.names.Perm right.names := by
  rw [List.perm_ext_iff_of_nodup left.nodup_names right.nodup_names]
  intro name
  rw [← not_iff_not, ← get?_eq_none_iff, ← get?_eq_none_iff]
  have alike := same name
  generalize left.get? name = found at alike ⊢
  generalize right.get? name = other at alike ⊢
  cases alike with
  | none => exact Iff.rfl
  | some alike => exact iff_of_false nofun nofun

theorem distinctHandles (distinct : left.DistinctHandles) : right.DistinctHandles := by
  have by_name (table : SymbolTable) : table.decls.map TypeDecl.fingerprint =
      table.names.map QualifiedName.fingerprint := by
    rw [← map_name_decls, List.map_map]
    rfl
  rw [DistinctHandles, by_name] at distinct ⊢
  exact (same.names_perm.map _).nodup_iff.mp distinct

theorem exists_ancestorAt {name : QualifiedName} {distance : Nat} {decl : TypeDecl}
    (reached : left.AncestorAt name distance decl) :
    ∃ other, right.get? decl.name = some other ∧ right.AncestorAt name distance other := by
  induction reached with
  | self found =>
      obtain ⟨other, found_other, -, -⟩ := same.exists_get?_eq_some found
      rw [name_eq_of_get?_eq_some found]
      exact ⟨other, found_other, .self found_other⟩
  | base reached declared found ih =>
      obtain ⟨twin, found_twin, reached_twin⟩ := ih
      obtain ⟨also_twin, also_found, bases, -⟩ :=
        same.exists_get?_eq_some (mem_decls_iff.mp reached.mem_decls)
      obtain rfl := Option.some.inj (found_twin.symm.trans also_found)
      obtain ⟨other, found_other, -, -⟩ := same.exists_get?_eq_some found
      rw [name_eq_of_get?_eq_some found]
      exact ⟨other, found_other, .base reached_twin (bases ▸ declared) found_other⟩

theorem exists_reflTransGen {start target twin : TypeDecl} (registered : start ∈ left.decls)
    (found_twin : right.get? start.name = some twin)
    (path : Relation.ReflTransGen left.ListsInterface start target) :
    target ∈ left.decls ∧ ∃ other, right.get? target.name = some other ∧
      Relation.ReflTransGen right.ListsInterface twin other := by
  induction path with
  | refl => exact ⟨registered, twin, found_twin, .refl⟩
  | tail _ edge ih =>
      obtain ⟨known, middle, found_middle, path⟩ := ih
      obtain ⟨interface, listed, found⟩ := edge
      obtain ⟨also_middle, also_found, -, permuted⟩ :=
        same.exists_get?_eq_some (mem_decls_iff.mp known)
      obtain rfl := Option.some.inj (found_middle.symm.trans also_found)
      obtain ⟨other, found_other, -, -⟩ := same.exists_get?_eq_some found
      rw [name_eq_of_get?_eq_some found]
      exact ⟨mem_decls_of_get?_eq_some found, other, found_other,
        path.tail ⟨interface, permuted.mem_iff.mp listed, found_other⟩⟩

theorem implements {name : QualifiedName} {wanted : Fingerprint}
    (reaches : left.Implements name wanted) : right.Implements name wanted := by
  obtain ⟨distance, ancestor, target, reached, path, hit⟩ := reaches
  obtain ⟨twin, found_twin, reached_twin⟩ := same.exists_ancestorAt reached
  obtain ⟨-, other, found_other, path_twin⟩ :=
    same.exists_reflTransGen reached.mem_decls found_twin path
  refine ⟨distance, twin, other, reached_twin, path_twin, ?_⟩
  rw [← hit, TypeDecl.fingerprint, name_eq_of_get?_eq_some found_other, TypeDecl.fingerprint]

end SameButInterfaceOrder

/-- If no two types share a handle, the interface search finds exactly the handles that are reached
through base classes and then through interface lists.  Every search ends, whatever order it takes
the waiting names in, and its answer depends neither on that order nor on the order of interface
lists. -/
theorem implementsInterface_explores (table : SymbolTable) (distinct : table.DistinctHandles)
    (name : QualifiedName) (wanted : Fingerprint) :
    (table.implementsInterface name wanted = true ↔ table.Implements name wanted) ∧
      (∀ waiting, waiting.Perm ((table.baseChain name).map TypeDecl.name) →
        Acc (fun after before => table.SearchStep wanted before after) ⟨[], waiting⟩ ∧
        ∀ state, Relation.ReflTransGen (table.SearchStep wanted) ⟨[], waiting⟩ state →
          ((∃ next, table.SearchStep wanted state next) ∨
            ∃ answer, table.SearchEnds wanted state.waiting answer) ∧
          ∀ answer, table.SearchEnds wanted state.waiting answer →
            answer = table.implementsInterface name wanted) ∧
      ∀ other : SymbolTable, table.SameButInterfaceOrder other →
        other.implementsInterface name wanted = table.implementsInterface name wanted := by
  refine ⟨implementsInterface_iff distinct, fun waiting permuted => ⟨?_, fun state run => ⟨?_, ?_⟩⟩,
    fun other same => ?_⟩
  · exact (wellFounded_searchStep table wanted).apply _
  · exact exists_searchStep_or_searchEnds table wanted state
  · intro answer ends
    rw [Bool.eq_iff_iff, searchEnds_iff_implements distinct permuted run ends,
      implementsInterface_iff distinct]
  · rw [Bool.eq_iff_iff, implementsInterface_iff distinct,
      implementsInterface_iff (same.distinctHandles distinct)]
    exact ⟨same.symm.implements, same.implements⟩

/-- An interface of a game with the given interfaces above it. -/
def interfaceAbove (name : String) (listed : List String) : TypeDecl :=
  { TypeDecl.referenced ⟨name, ["Game"]⟩ .interfaceType "Game" with
    interfaces := listed.map fun simple => ⟨simple, ["Game"]⟩ }

/-- Two interfaces list each other and a missing one, and the first is on the list of a base class.
The search from the class below finds the second and does not find an unrelated one. -/
theorem implementsInterface_explores_circle :
    let name : QualifiedName := ⟨"Player", ["Game"]⟩
    let table := empty.registerEach
      [interfaceAbove "IFirst" ["IMissing", "ISecond"], interfaceAbove "ISecond" ["IFirst"],
        interfaceAbove "IThird" [], classBelow "Player" "Base",
        { classBelow "Base" "Player" with interfaces := [⟨"IFirst", ["Game"]⟩] }]
    table.DistinctHandles ∧
      table.Implements name (interfaceAbove "ISecond" ["IFirst"]).fingerprint ∧
      ¬table.Implements name (interfaceAbove "IThird" []).fingerprint := by
  intro name table
  have distinct : table.DistinctHandles := by
    rw [DistinctHandles]
    decide +kernel
  refine ⟨distinct, (implementsInterface_explores table distinct name _).1.mp (by decide +kernel),
    mt (implementsInterface_explores table distinct name _).1.mpr (by decide +kernel)⟩

end SymbolTable
end NodeLifecycle
