import NodeLifecycle.Proofs.Generation.Isolation
import NodeLifecycle.Proofs.MethodTable.Overrides
import NodeLifecycle.Proofs.Text.Reading

/-!
# Plain names in tables

The entries of a class with plain names have plain names.  Parameters keep their names and types,
and the numbers behind the names of overloads are digits.
-/

namespace NodeLifecycle

/-- Whether an entry and its field have plain names, and so have its parameters and all types. -/
structure MethodEntry.HasPlainNames (entry : MethodEntry) : Prop where
  /-- The name, with the number behind it under which the entry is registered. -/
  infoName : Text.IsPlain entry.infoName
  /-- The names in the return type. -/
  returns : ∀ name ∈ entry.returns.names, name.IsPlain
  /-- The names of the parameters. -/
  params : ∀ parameter ∈ entry.params, Text.IsPlain parameter.name
  /-- The names in the types of the parameters. -/
  paramTypes : ∀ parameter ∈ entry.params, ∀ name ∈ parameter.type.names, name.IsPlain

theorem MethodEntry.HasPlainNames.name {entry : MethodEntry} (plain : entry.HasPlainNames) :
    Text.IsPlain entry.name :=
  (Text.isPlain_append.mp plain.infoName).1

/-- Whether a member has a plain name, and so have its parameters and all types that it mentions. -/
structure Member.HasPlainNames (member : Member) : Prop where
  /-- The member's name. -/
  name : Text.IsPlain member.name
  /-- The names in the types. -/
  typeNames : ∀ name ∈ member.typeNames, name.IsPlain
  /-- The names of the parameters. -/
  params : ∀ signature, member.signature? = some signature →
    ∀ parameter ∈ signature.params, Text.IsPlain parameter.name

namespace MethodTable

variable {framework : Framework} {table : SymbolTable} {decl : TypeDecl}
  {entries : List MethodEntry} {overrides : List String}

theorem hasPlainNames_of_entryFor? {member : Member} {entry : MethodEntry}
    (plain : member.HasPlainNames) (found : framework.entryFor? table member = some entry) :
    entry.HasPlainNames := by
  obtain ⟨signature, method, made⟩ := Option.bind_eq_some_iff.mp found
  rw [Framework.entryOfMethod?, Option.ite_none_right_eq_some] at made
  obtain ⟨returnKind, -, mapped⟩ := Option.bind_eq_some_iff.mp made.2
  obtain ⟨wired, params_wired, rfl⟩ := Option.map_eq_some_iff.mp mapped
  have same_params := Framework.map_of_mapM_wireParameter?_eq_some params_wired
  have declared : ∀ parameter ∈ wired, ∃ source ∈ signature.params,
      source.name = parameter.name ∧ source.type = parameter.type := by
    intro parameter listed
    have outlined := List.mem_map_of_mem (f := fun parameter : WireParameter =>
      (parameter.name, parameter.type)) listed
    rw [same_params] at outlined
    obtain ⟨source, source_mem, same⟩ := List.mem_map.mp outlined
    exact ⟨source, source_mem, congrArg Prod.fst same, congrArg Prod.snd same⟩
  have plain_types := plain.typeNames
  rw [Member.typeNames_of_signature?_eq_some method, List.forall_mem_append,
    List.forall_mem_flatMap] at plain_types
  exact
    { infoName := by
        rw [MethodEntry.infoName, String.append_empty]
        exact plain.name
      returns := plain_types.1
      params := fun parameter listed => by
        obtain ⟨source, source_mem, same, -⟩ := declared parameter listed
        rw [← same]
        exact plain.params signature method source source_mem
      paramTypes := fun parameter listed => by
        obtain ⟨source, source_mem, -, same⟩ := declared parameter listed
        rw [← same]
        exact plain_types.2 source source_mem }

theorem hasPlainNames_synthetic {name : String} (plain : Text.IsPlain name) :
    (MethodEntry.synthetic name).HasPlainNames where
  infoName := by
    rw [MethodEntry.infoName, MethodEntry.synthetic, String.append_empty]
    exact plain
  returns _ listed := absurd listed List.not_mem_nil
  params _ listed := absurd listed List.not_mem_nil
  paramTypes _ listed := absurd listed List.not_mem_nil

theorem hasPlainNames_of_mem_foldl_addOverride (plain : ∀ entry ∈ entries, entry.HasPlainNames)
    (plain_overrides : ∀ override ∈ overrides, Text.IsPlain override) :
    ∀ entry ∈ overrides.foldl addOverride entries, entry.HasPlainNames := by
  intro entry listed
  rcases mem_of_mem_foldl_addOverride listed with declared | ⟨override, given, rfl⟩
  · exact plain entry declared
  · exact hasPlainNames_synthetic (plain_overrides override given)

theorem isPlain_overloadSuffix (index : Nat) : Text.IsPlain (overloadSuffix index) := by
  intro char inside
  simp [Text.isNameChar, Char.isAlphanum, isDigit_of_mem_overloadSuffix inside]

theorem hasPlainNames_of_mem_numberFrom (before : List String)
    (plain : ∀ entry ∈ entries, entry.HasPlainNames) :
    ∀ entry ∈ numberFrom before entries, entry.HasPlainNames := by
  induction entries generalizing before with
  | nil => exact plain
  | cons first rest ih =>
      rw [List.forall_mem_cons] at plain
      rw [numberFrom, List.forall_mem_cons]
      refine ⟨?_, ih _ plain.2⟩
      exact
        { plain.1 with
          infoName := Text.isPlain_append.mpr ⟨plain.1.name, isPlain_overloadSuffix _⟩ }

theorem hasPlainNames_of_mem_build (plain : ∀ member ∈ decl.members, member.HasPlainNames)
    (plain_overrides : ∀ override ∈ overrides, Text.IsPlain override) :
    ∀ entry ∈ (build framework table decl overrides).entries, entry.HasPlainNames := by
  intro entry listed
  have numbered := (StableSort.sortBy_perm _ _).mem_iff.mp listed
  refine hasPlainNames_of_mem_numberFrom [] ?_ entry numbered
  refine hasPlainNames_of_mem_foldl_addOverride ?_ plain_overrides
  intro declared_entry declared
  obtain ⟨member, member_mem, found⟩ := List.mem_filterMap.mp declared
  exact hasPlainNames_of_entryFor? (plain member member_mem) found

end MethodTable

end NodeLifecycle
