import NodeLifecycle.ClassAnalysis
import NodeLifecycle.Proofs.Lifecycle.CallOrder
import NodeLifecycle.Proofs.Source.HelperTexts
import NodeLifecycle.Proofs.Text.Literals
import NodeLifecycle.Proofs.Text.Reading

/-!
# Looking nodes up

A member that is filled from the scene takes the node's path, and whether the node has to be there,
from the first scene marker that it carries.  An argument of the marker is looked for by name and
then by position; what is missing or of the wrong kind is replaced by what the member itself says.
The generated method assigns the result of the look-up to the member, and both facts are read back
from its text, for paths of any characters.
-/

namespace NodeLifecycle

namespace AttributeValue

variable {value : AttributeValue}

theorem isNull_iff : value.isNull = true ↔ value = .null := by
  cases value <;> simp [isNull]

theorem text?_eq_some_iff {content : String} :
    value.text? = some content ↔ value = .text content := by
  cases value <;> simp [text?]

theorem bool?_eq_some_iff {content : Bool} :
    value.bool? = some content ↔ value = .bool content := by
  cases value <;> simp [bool?]

end AttributeValue

namespace Attribute

/-- The value that an attribute gives to a parameter of its class. -/
inductive Gives (applied : Attribute) (position : Nat) (name : String) (value : AttributeValue) :
    Prop
  /-- The first argument with the parameter's name counts, where `null` is passed over and the case
  of ASCII letters does not matter. -/
  | named {before after : List (String × AttributeValue)} {key : String}
      (listed : applied.named = before ++ (key, value) :: after)
      (same : sameUpToCase key name = true) (solid : value ≠ .null)
      (first : ∀ argument ∈ before, sameUpToCase argument.1 name = true → argument.2 = .null)
  /-- Without such an argument, the one at the parameter's position counts. -/
  | positional
      (unnamed : ∀ argument ∈ applied.named, sameUpToCase argument.1 name = true →
        argument.2 = .null)
      (listed : applied.positional[position]? = some value)

variable {applied : Attribute} {position : Nat} {name : String} {value : AttributeValue}

theorem fits_iff {argument : String × AttributeValue} :
    (sameUpToCase argument.1 name && !argument.2.isNull) = true ↔
      sameUpToCase argument.1 name = true ∧ argument.2 ≠ .null := by
  rw [Bool.and_eq_true, Bool.not_eq_true', ← Bool.not_eq_true, AttributeValue.isNull_iff]

theorem find?_named_eq_none_iff {arguments : List (String × AttributeValue)} :
    arguments.find? (fun argument => sameUpToCase argument.1 name && !argument.2.isNull) = none ↔
      ∀ argument ∈ arguments, sameUpToCase argument.1 name = true → argument.2 = .null := by
  rw [List.find?_eq_none]
  refine forall₂_congr fun argument _ => ?_
  rw [fits_iff, not_and, ne_eq, not_not]

theorem argument?_eq_some_iff :
    applied.argument? position name = some value ↔ applied.Gives position name value := by
  rw [argument?]
  constructor
  · intro found
    cases search : applied.named.find? fun argument =>
        sameUpToCase argument.1 name && !argument.2.isNull with
    | none =>
        rw [search, Option.map_none, Option.none_or] at found
        exact .positional (find?_named_eq_none_iff.mp search) found
    | some argument =>
        rw [search, Option.map_some, Option.some_or, Option.some.injEq] at found
        subst found
        obtain ⟨fits, before, after, listed, passed⟩ := List.find?_eq_some_iff_append.mp search
        obtain ⟨same, solid⟩ := fits_iff.mp fits
        refine .named listed same solid (find?_named_eq_none_iff.mp ?_)
        rw [List.find?_eq_none]
        intro earlier inside
        rw [Bool.not_eq_true, ← Bool.not_eq_true']
        exact passed earlier inside
  · intro given
    cases given with
    | @named before after key listed same solid first =>
        have fits : (sameUpToCase key name && !value.isNull) = true :=
          (@fits_iff name (key, value)).mpr ⟨same, solid⟩
        rw [listed, List.find?_append, find?_named_eq_none_iff.mpr first, Option.none_or,
          List.find?_cons, fits]
        rfl
    | positional unnamed listed =>
        rw [find?_named_eq_none_iff.mpr unnamed, Option.map_none, Option.none_or, listed]

theorem bind_argument?_eq_some_iff {α : Type} {unwrap? : AttributeValue → Option α}
    {wrap : α → AttributeValue} {content : α}
    (unwrap_iff : ∀ {value}, unwrap? value = some content ↔ value = wrap content) :
    (applied.argument? position name).bind unwrap? = some content ↔
      applied.Gives position name (wrap content) := by
  rw [Option.bind_eq_some_iff, ← argument?_eq_some_iff]
  constructor
  · rintro ⟨value, found, unwrapped⟩
    rw [found, unwrap_iff.mp unwrapped]
  · intro found
    exact ⟨_, found, unwrap_iff.mpr rfl⟩

end Attribute

namespace SceneInjection

/-! ## What the marker says -/

/-- An injection does as an attribute says. -/
structure Obeys (injection : SceneInjection) (applied : Attribute) : Prop where
  /-- The path is the attribute's own, if this is a text with at least one character, and otherwise
  the member's name as a unique name of the scene. -/
  path : applied.Gives 0 "nodePath" (.text injection.path) ∧ injection.path ≠ "" ∨
    (∀ given, applied.Gives 0 "nodePath" (.text given) → given = "") ∧
      injection.path = "%" ++ injection.member
  /-- The node is required as the attribute says, if it gives a truth value, and otherwise unless
  the member may be null. -/
  mode : applied.Gives 1 "required" (.bool injection.isRequired) ∨
    (∀ given, ¬applied.Gives 1 "required" (.bool given)) ∧
      injection.isRequired = !injection.type.isNullable

/-- An injection fills a member as the first scene marker on it says. -/
structure Fills (framework : Framework) (member : Member) (injection : SceneInjection) :
    Prop where
  /-- The member is filled under its name. -/
  name : injection.member = member.name
  /-- The member has a value, and its type is kept. -/
  type : member.valueType? = some injection.type
  /-- The first attribute with the handle of the marker decides. -/
  marking : ∃ before applied after, member.attributes = before ++ applied :: after ∧
    applied.fingerprint = framework.sceneUniqueName ∧
    (∀ earlier ∈ before, earlier.fingerprint ≠ framework.sceneUniqueName) ∧ injection.Obeys applied

theorem pathOf_eq_iff {applied : Attribute} {memberName path : String} :
    pathOf applied memberName = path ↔
      applied.Gives 0 "nodePath" (.text path) ∧ path ≠ "" ∨
        (∀ given, applied.Gives 0 "nodePath" (.text given) → given = "") ∧
          path = "%" ++ memberName := by
  simp only [← Attribute.bind_argument?_eq_some_iff AttributeValue.text?_eq_some_iff]
  rw [pathOf]
  cases (applied.argument? 0 "nodePath").bind AttributeValue.text? with
  | none => simp [eq_comm]
  | some given =>
      simp only [Option.some.injEq, forall_eq', String.isEmpty_iff]
      by_cases empty : given = ""
      · subst empty
        rw [if_pos rfl, and_iff_right rfl, eq_comm, or_iff_right]
        rintro ⟨empty, solid⟩
        exact solid empty.symm
      · rw [if_neg empty, or_iff_left (fun derived => empty derived.1)]
        constructor
        · rintro rfl
          exact ⟨rfl, empty⟩
        · exact And.left

theorem requiredBy_eq_iff {applied : Attribute} {type : DeclaredType} {required : Bool} :
    requiredBy applied type = required ↔
      applied.Gives 1 "required" (.bool required) ∨
        (∀ given, ¬applied.Gives 1 "required" (.bool given)) ∧ required = !type.isNullable := by
  simp only [← Attribute.bind_argument?_eq_some_iff AttributeValue.bool?_eq_some_iff]
  rw [requiredBy]
  cases (applied.argument? 1 "required").bind AttributeValue.bool? with
  | none => simp [eq_comm]
  | some given => simp

variable {framework : Framework} {member : Member} {injection : SceneInjection}

theorem obeys_iff {applied : Attribute} :
    injection.Obeys applied ↔
      pathOf applied injection.member = injection.path ∧
        requiredBy applied injection.type = injection.isRequired := by
  rw [pathOf_eq_iff, requiredBy_eq_iff]
  exact ⟨fun obeys => ⟨obeys.path, obeys.mode⟩, fun both => ⟨both.1, both.2⟩⟩

/-- A member is filled exactly as its first scene marker says. -/
theorem ofMember?_eq_some_iff :
    ofMember? framework member = some injection ↔ injection.Fills framework member := by
  constructor
  · intro resolved
    simp only [ofMember?, Option.bind_eq_bind, Option.bind_eq_some_iff] at resolved
    obtain ⟨type, typed, applied, marked, made⟩ := resolved
    obtain rfl := Option.some.inj made
    rw [Member.attribute?, List.find?_eq_some_iff_append] at marked
    obtain ⟨handled, before, after, listed, passed⟩ := marked
    refine ⟨rfl, typed, before, applied, after, listed, beq_iff_eq.mp handled, ?_,
      obeys_iff.mpr ⟨rfl, rfl⟩⟩
    simpa using passed
  · rintro ⟨name, typed, before, applied, after, listed, handled, passed, obeys⟩
    have marked : member.attribute? framework.sceneUniqueName = some applied := by
      rw [Member.attribute?, List.find?_eq_some_iff_append]
      exact ⟨beq_iff_eq.mpr handled, before, after, listed, by simpa using passed⟩
    obtain ⟨path, mode⟩ := obeys_iff.mp obeys
    simp only [ofMember?, typed, marked, Option.bind_eq_bind, Option.bind_some, ← name, path, mode]
    rfl

theorem isSome_ofMember? (framework : Framework) (member : Member) :
    (ofMember? framework member).isSome = framework.isFilled member := by
  have resolved := congrArg Option.isSome (framework.map_member_ofMember? member)
  rw [Option.isSome_map] at resolved
  rw [resolved]
  cases framework.isFilled member <;> rfl

theorem forall₂_fills (framework : Framework) (members : List Member) :
    List.Forall₂ (fun member injection => injection.Fills framework member)
      (members.filter framework.isFilled) (members.filterMap (ofMember? framework)) := by
  induction members with
  | nil => exact .nil
  | cons member members ih =>
      have filled := isSome_ofMember? framework member
      cases resolved : ofMember? framework member with
      | none =>
          rw [resolved] at filled
          rw [List.filterMap_cons_none resolved, List.filter_cons_of_neg (by simp [← filled])]
          exact ih
      | some injection =>
          rw [resolved] at filled
          rw [List.filterMap_cons_some resolved, List.filter_cons_of_pos filled.symm]
          exact .cons (ofMember?_eq_some_iff.mp resolved) ih

end SceneInjection

/-! ## What is generated -/

/-- A call that looks a node of the scene up. -/
structure NodeLookup where
  /-- The function that is called. -/
  function : String
  /-- The path that is handed over. -/
  path : String
deriving DecidableEq

namespace NodeLookup

/-- What stands in front of the call in the method that fills a member. -/
def opening (member : String) : String :=
  "private void " ++ GeneratedName.sceneInit member ++ "()" ++ "\n    \x7b" ++ "\n        " ++
    "this." ++ member ++ " = this."

/-- What stands behind the arguments of the call. -/
def closing : String := ");" ++ "\n    \x7d"

/-- The look-up in the text of the method that assigns its result to a member of a type.  The path
is what the literal between the parentheses stands for. -/
def ofText? (member : String) (type : DeclaredType) (text : String) : Option NodeLookup := do
  let call ← Text.between? (opening member) closing text
  let function := Text.leadingName call
  let argument ← Text.between? (function ++ "<" ++ type.qualified ++ ">(") "" call
  let path ← Literal.decode? argument
  return { function, path }

end NodeLookup

namespace SceneInjection

variable (injection : SceneInjection)

/-- The call in the method that fills the member, up to its closing parenthesis. -/
def lookupCall : String :=
  injection.lookupName ++ "<" ++ injection.type.qualified ++ ">(" ++ Literal.ofText injection.path

theorem source_sceneInit :
    (Helper.sceneInit injection).source =
      NodeLookup.opening injection.member ++ injection.lookupCall ++ NodeLookup.closing := by
  have solid : ∀ statement ∈ ["this." ++ injection.member ++ " = this." ++ injection.lookupName ++
      "<" ++ injection.type.qualified ++ ">(" ++ Literal.ofText injection.path ++ ");"],
      statement ≠ "" := by
    rw [List.forall_mem_singleton]
    exact append_ne_empty (by decide)
  rw [Helper.source_of_lines_eq rfl solid]
  unfold NodeLookup.opening NodeLookup.closing lookupCall initName
  simp only [List.map_cons, List.map_nil, String.join_cons, String.join_nil, String.append_empty,
    String.append_assoc]

theorem isPlain_lookupName : Text.IsPlain injection.lookupName := by
  rw [lookupName]
  split <;> decide

theorem leadingName_lookupCall :
    Text.leadingName injection.lookupCall = injection.lookupName := by
  rw [lookupCall]
  simp only [String.append_assoc]
  apply Text.leadingName_append injection.isPlain_lookupName
  rw [String.toList_append]
  rfl

/-- The look-up is read back from the method, whatever characters the path has. -/
theorem ofText?_source_sceneInit :
    NodeLookup.ofText? injection.member injection.type (Helper.sceneInit injection).source =
      some ⟨injection.lookupName, injection.path⟩ := by
  have call := Text.between?_eq_some_iff.mpr injection.source_sceneInit.symm
  have argument : Text.between? (injection.lookupName ++ "<" ++ injection.type.qualified ++ ">(")
      "" injection.lookupCall = some (Literal.ofText injection.path) :=
    Text.between?_eq_some_iff.mpr String.append_empty
  rw [NodeLookup.ofText?, call]
  simp only [Option.bind_eq_bind, Option.bind_some, injection.leadingName_lookupCall, argument,
    Literal.decode?_ofText]
  rfl

/-- A quote in the path does not end the literal. -/
example : NodeLookup.ofText? "Title" (.named ⟨"Label", ["Godot"]⟩ true)
    ("private void __InitFromScene_Title()\n    \x7b\n" ++
      "        this.Title = this.GetNodeOrNull<Godot.Label>(\"Top \\\"Bar\\\"\");\n    \x7d") =
    some ⟨"GetNodeOrNull", "Top \"Bar\""⟩ := by
  decide +kernel

end SceneInjection

/-- Every field or property with the scene marker, and nothing else, is filled as its first marker
says, in the order of the declarations.  The method that fills it assigns to it what is found at the
injection's path, by `GetNode` exactly if the node is required, and the unit of the pass holds this
method. -/
theorem TypeDecl.looks_up_scene_nodes (decl : TypeDecl) (framework : Framework) :
    List.Forall₂ (fun member injection => injection.Fills framework member)
        (decl.members.filter framework.isFilled) (decl.sceneInjections framework) ∧
      ∀ injection ∈ decl.sceneInjections framework,
        NodeLookup.ofText? injection.member injection.type (Helper.sceneInit injection).source =
            some ⟨if injection.isRequired then "GetNode" else "GetNodeOrNull", injection.path⟩ ∧
          ∀ table marshals generatorNamespace unit,
            SourceUnit.ofModel? generatorNamespace
                ((decl.analyze framework table marshals).model .enterTree) = some unit →
              ∃ before after, unit.text =
                before ++ "\n    " ++ (Helper.sceneInit injection).source ++ "\n" ++ after := by
  refine ⟨SceneInjection.forall₂_fills framework decl.members, fun injection listed => ?_⟩
  refine ⟨injection.ofText?_source_sceneInit, fun table marshals generatorNamespace unit made => ?_⟩
  apply SourceUnit.exists_text_eq_of_mem_helpers made
  rw [model_analyze]
  exact sceneInit_mem_helpers_iff.mpr ⟨rfl, listed⟩

end NodeLifecycle
