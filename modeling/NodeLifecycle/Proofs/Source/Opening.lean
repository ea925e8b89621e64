import NodeLifecycle.Lifecycle.Model
import NodeLifecycle.Proofs.Text.Reading

/-!
# Opening lines

The lines of a unit before the body of its class are made of names, keywords and little else.  With
plain names they hold none of the characters that make the lines of a body what they are.
-/

namespace NodeLifecycle
namespace SourceUnit

/-- Whether a character may stand in the opening lines of a unit with plain names. -/
def isOpeningChar (char : Char) : Bool :=
  Text.isNameChar char || "/ ;#\x7b".toList.contains char

/-- Whether a line looks like an opening line. -/
def IsOpening (line : String) : Prop :=
  ∀ char ∈ line.toList, isOpeningChar char = true

instance (line : String) : Decidable (IsOpening line) :=
  decidable_of_iff (line.toList.all isOpeningChar = true) List.all_eq_true

section Lines

variable {left right name line : String} {char : Char}

@[simp] theorem isOpening_append :
    IsOpening (left ++ right) ↔ IsOpening left ∧ IsOpening right := by
  simp only [IsOpening, String.toList_append, List.forall_mem_append]

theorem isOpening_of_isPlain (plain : Text.IsPlain name) : IsOpening name := by
  intro char inside
  rw [isOpeningChar, plain char inside, Bool.true_or]

theorem IsOpening.not_mem (opens : IsOpening line) (other : isOpeningChar char = false) :
    char ∉ line.toList := by
  intro inside
  rw [opens char inside] at other
  cases other

end Lines

theorem isOpening_of_mem_preamble {generatorNamespace generatorName : String}
    {type : QualifiedName} {usings : List String}
    (plain_namespace : Text.IsPlain generatorNamespace)
    (plain_generator : Text.IsPlain generatorName) (plain_type : type.IsPlain)
    (plain_usings : ∀ used ∈ usings, Text.IsPlain used) {line : String}
    (listed : line ∈ preamble generatorNamespace generatorName type usings) : IsOpening line := by
  simp only [preamble, namespaceLines, List.mem_append, List.mem_map, List.mem_cons,
    List.not_mem_nil, or_false] at listed
  obtain ((rfl | named) | ⟨used, listed, rfl⟩) | rfl | rfl | rfl := listed
  · have signed := isOpening_of_isPlain plain_namespace
    simp only [isOpening_append, signed, isOpening_of_isPlain plain_generator]
    decide
  · split at named
    · cases named
    · have scope_opens := isOpening_of_isPlain plain_type.scopeText
      simp only [List.mem_cons, List.not_mem_nil, or_false] at named
      obtain rfl | rfl := named
      · simp only [isOpening_append, scope_opens]
        decide
      · decide
  · simp only [isOpening_append, isOpening_of_isPlain (plain_usings used listed)]
    decide
  · decide
  · decide
  · decide

theorem isOpening_keyword (modifier : TypeModifier) : IsOpening modifier.keyword := by
  cases modifier with
  | access level => cases level <;> decide
  | _ => decide

theorem isOpening_modifiersText (decl : TypeDecl) : IsOpening decl.modifiersText := by
  refine Text.forall_mem_intercalate (by decide : IsOpening " ") fun keyword listed => ?_
  obtain ⟨modifier, -, rfl⟩ := List.mem_map.mp listed
  exact isOpening_keyword modifier

theorem isOpening_classLine {modifiers : String} {type : QualifiedName}
    (modifiers_open : IsOpening modifiers) (plain : type.IsPlain) :
    IsOpening (modifiers ++ " class " ++ type.simple) := by
  simp only [isOpening_append, modifiers_open, isOpening_of_isPlain plain.simple]
  decide

end SourceUnit
end NodeLifecycle
