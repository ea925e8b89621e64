import NodeLifecycle.Proofs.Framework.Resolution
import NodeLifecycle.Proofs.Lifecycle.PassModels
import NodeLifecycle.Proofs.Source.Opening
import NodeLifecycle.Source.Lifecycle

/-!
# The calls in a lifecycle unit

The hook calls of a lifecycle unit stand in the body of one method, each on a line of its own.  The
header of that method occurs nowhere before, and no line of the body but the last is a closing
brace, so the calls of a class with plain names are read back from the text of the unit.
-/

namespace NodeLifecycle

namespace HookCall

/-- The member or method that a call names. -/
def subject? : HookCall → Option String
  | initFromScene member => some member
  | invoke method => some method
  | acquire method => some method
  | update method => some method
  | disposeAll => none

variable {call : HookCall}

theorem single_statement (plain : ∀ name, call.subject? = some name → Text.IsPlain name) :
    '\n' ∉ call.statement.toList := by
  have single (name : String) (named : call.subject? = some name) : '\n' ∉ name.toList :=
    (plain name named).not_mem rfl
  cases call with
  | disposeAll => decide
  | initFromScene name =>
      change '\n' ∉ ("__InitFromScene_" ++ name ++ "()").toList
      simp [String.toList_append, single name rfl]
  | invoke name =>
      change '\n' ∉ (name ++ "()").toList
      simp [String.toList_append, single name rfl]
  | acquire name =>
      change '\n' ∉ ("__disposable_" ++ name ++ " = " ++ name ++ "()").toList
      simp [String.toList_append, single name rfl]
  | update name =>
      change '\n' ∉ ("Update" ++ name ++ "()").toList
      simp [String.toList_append, single name rfl]

theorem exists_head?_statement (plain : ∀ name, call.subject? = some name → Text.IsPlain name) :
    ∃ first, call.statement.toList.head? = some first ∧
      Text.isBlank first = false ∧ first ≠ '/' := by
  cases call with
  | disposeAll => exact ⟨'_', by decide, by decide, by decide⟩
  | initFromScene name =>
      refine ⟨'_', ?_, by decide, by decide⟩
      change ("__InitFromScene_" ++ name ++ "()").toList.head? = _
      simp [String.toList_append]
  | acquire name =>
      refine ⟨'_', ?_, by decide, by decide⟩
      change ("__disposable_" ++ name ++ " = " ++ name ++ "()").toList.head? = _
      simp [String.toList_append]
  | update name =>
      refine ⟨'U', ?_, by decide, by decide⟩
      change ("Update" ++ name ++ "()").toList.head? = _
      simp [String.toList_append]
  | invoke name =>
      have named := plain name rfl
      rw [Text.IsPlain] at named
      cases letters : name.toList with
      | nil =>
          refine ⟨'(', ?_, by decide, by decide⟩
          simp [statement, String.toList_append, letters]
      | cons first rest =>
          rw [letters] at named
          have first_named := named first List.mem_cons_self
          refine ⟨first, ?_, Text.isBlank_eq_false_of_isNameChar first_named, ?_⟩
          · simp [statement, String.toList_append, letters]
          · rintro rfl
            cases first_named

end HookCall

namespace SourceUnit

/-! ## Reading a body -/

/-- Whether a trimmed line says something: it is neither empty nor a comment. -/
def isCode (line : String) : Bool :=
  !line.isEmpty && !"//".toList.isPrefixOf line.toList

/-- The lines of code up to the first one that is a closing brace, trimmed. -/
def bodyCode (lines : List String) : List String :=
  ((lines.takeWhile fun line => Text.trim line != "\x7d").map Text.trim).filter isCode

/-- The code in the body of a method, read from a text.  The first line from the header on is the
header itself, and the second one opens the body. -/
def bodyCode? (header : String) (text : String) : Option (List String) :=
  (Text.from? header.toList text.toList).map fun rest => bodyCode ((Text.lines rest).drop 2)

/-- The line of a call in a body. -/
def callLine (call : HookCall) : String :=
  "        " ++ call.statement ++ ";"

section Calls

variable {call : HookCall} {calls : List HookCall}

theorem single_callLine (plain : ∀ name, call.subject? = some name → Text.IsPlain name) :
    '\n' ∉ (callLine call).toList := by
  simp [callLine, String.toList_append, HookCall.single_statement plain]

theorem head?_append_semicolon {first : Char}
    (begins : call.statement.toList.head? = some first) :
    (call.statement ++ ";").toList.head? = some first := by
  rw [String.toList_append, List.head?_append, begins, Option.some_or]

theorem getLast?_append_semicolon (text : String) :
    (text ++ ";").toList.getLast? = some ';' :=
  Text.getLast?_append_of_eq_some (by decide)

theorem trim_callLine (plain : ∀ name, call.subject? = some name → Text.IsPlain name) :
    Text.trim (callLine call) = call.statement ++ ";" := by
  obtain ⟨first, begins, solid, -⟩ := HookCall.exists_head?_statement plain
  rw [callLine, String.append_assoc]
  exact Text.trim_append (by decide) (head?_append_semicolon begins) solid
    (getLast?_append_semicolon _) (by decide)

theorem isCode_statement (plain : ∀ name, call.subject? = some name → Text.IsPlain name) :
    isCode (call.statement ++ ";") = true := by
  obtain ⟨first, begins, -, no_slash⟩ := HookCall.exists_head?_statement plain
  obtain ⟨rest, letters⟩ := List.head?_eq_some_iff.mp (head?_append_semicolon begins)
  have nonempty : (call.statement ++ ";").isEmpty = false := by
    rw [String.isEmpty_eq_false_iff, ne_eq, ← String.toList_eq_nil_iff, letters]
    exact List.cons_ne_nil _ _
  have no_comment : "//".toList.isPrefixOf (first :: rest) = false := by
    rw [Bool.eq_false_iff, ne_eq, List.isPrefixOf_iff_prefix]
    exact fun starts => no_slash (List.cons_prefix_cons.mp starts).1.symm
  rw [isCode, nonempty, letters, no_comment]
  rfl

def remark (pass : Pass) : String :=
  "// Generated code, to add other calls add [" ++ pass.shortName ++ "] attributes to methods"

theorem remarkLine_eq (pass : Pass) :
    "        // Generated code, to add other calls add [" ++ pass.shortName ++
      "] attributes to methods" = "        " ++ remark pass := by
  have margin : "        // Generated code, to add other calls add [" =
      "        " ++ "// Generated code, to add other calls add [" := by
    decide
  unfold remark
  simp only [margin, String.append_assoc]

theorem exists_remark_eq_cons (pass : Pass) :
    ∃ rest, (remark pass).toList = '/' :: '/' :: rest := by
  unfold remark
  simp [String.toList_append]

theorem trim_remark (pass : Pass) : Text.trim ("        " ++ remark pass) = remark pass := by
  obtain ⟨rest, remark_eq⟩ := exists_remark_eq_cons pass
  have ends : (remark pass).toList.getLast? = some 's' := by
    unfold remark
    rw [String.toList_append, List.getLast?_append]
    simp
  exact Text.trim_append (by decide) (by rw [remark_eq, List.head?_cons]) (by decide) ends
    (by decide)

theorem trim_remark_ne_brace (pass : Pass) :
    (Text.trim ("        " ++ remark pass) != "\x7d") = true := by
  obtain ⟨rest, remark_eq⟩ := exists_remark_eq_cons pass
  rw [trim_remark, bne_iff_ne]
  intro closing
  simp [closing] at remark_eq

theorem isCode_remark (pass : Pass) : isCode (remark pass) = false := by
  obtain ⟨rest, remark_eq⟩ := exists_remark_eq_cons pass
  rw [isCode, remark_eq]
  simp

theorem trim_callLine_ne_brace (plain : ∀ name, call.subject? = some name → Text.IsPlain name) :
    (Text.trim (callLine call) != "\x7d") = true := by
  rw [trim_callLine plain, bne_iff_ne]
  intro closing
  have last := getLast?_append_semicolon call.statement
  rw [closing] at last
  exact absurd last (by decide)

theorem takeWhile_hookBody (pass : Pass)
    (plain : ∀ call ∈ calls, ∀ name, call.subject? = some name → Text.IsPlain name)
    (rest : List String) :
    ((hookBody pass calls).tail ++ rest).takeWhile (fun line => Text.trim line != "\x7d") =
      ("        " ++ remark pass) :: "" :: calls.map callLine := by
  have calls_open : ∀ line ∈ calls.map callLine, (Text.trim line != "\x7d") = true :=
    List.forall_mem_map.mpr fun call called => trim_callLine_ne_brace (plain call called)
  change ((_ ++ pass.shortName ++ _) :: "" ::
    (calls.map callLine ++ ["    \x7d"] ++ rest)).takeWhile _ = _
  rw [remarkLine_eq, List.takeWhile_cons, if_pos (trim_remark_ne_brace pass), List.takeWhile_cons,
    if_pos (by decide), List.append_assoc, List.takeWhile_append_of_pos calls_open,
    List.singleton_append, List.takeWhile_cons, if_neg (by decide), List.append_nil]

/-- The code of a body is its calls. -/
theorem bodyCode_hookBody (pass : Pass)
    (plain : ∀ call ∈ calls, ∀ name, call.subject? = some name → Text.IsPlain name)
    (rest : List String) :
    bodyCode ((hookBody pass calls).tail ++ rest) =
      calls.map fun call => call.statement ++ ";" := by
  have remark_silent : ¬isCode (Text.trim ("        " ++ remark pass)) = true := by
    rw [trim_remark, isCode_remark]
    exact Bool.false_ne_true
  have calls_trimmed : (calls.map callLine).map Text.trim =
      calls.map fun call => call.statement ++ ";" := by
    rw [List.map_map]
    exact List.map_congr_left fun call called => trim_callLine (plain call called)
  have calls_kept : (calls.map fun call => call.statement ++ ";").filter isCode =
      calls.map fun call => call.statement ++ ";" :=
    List.filter_eq_self.mpr
      (List.forall_mem_map.mpr fun call called => isCode_statement (plain call called))
  rw [bodyCode, takeWhile_hookBody pass plain, List.map_cons, List.map_cons, calls_trimmed,
    List.filter_cons_of_neg remark_silent, List.filter_cons_of_neg (by decide), calls_kept]

theorem single_of_mem_hookBody {pass : Pass}
    (plain : ∀ call ∈ calls, ∀ name, call.subject? = some name → Text.IsPlain name)
    {line : String} (listed : line ∈ hookBody pass calls) : '\n' ∉ line.toList := by
  simp only [hookBody, List.mem_append, List.mem_cons, List.not_mem_nil, or_false, List.mem_map]
    at listed
  obtain ((rfl | rfl | rfl) | ⟨call, called, rfl⟩) | rfl := listed
  · decide
  · have single : '\n' ∉ pass.shortName.toList := by
      cases pass <;> decide
    simp [String.toList_append, single]
  · decide
  · exact single_callLine (plain call called)
  · decide

end Calls

/-! ## Finding a body -/

def hookHeader (isTool : Bool) (pass : Pass) : String :=
  if isTool then "private void _" ++ pass.overrideName ++ "Internal()"
  else "public override void " ++ pass.overrideName ++ "()"

section Bodies

variable {isTool : Bool} {pass : Pass} {calls : List HookCall} {before after : List String}

theorem exists_hookHeader_eq_cons (isTool : Bool) (pass : Pass) :
    ∃ others, (hookHeader isTool pass).toList = 'p' :: others := by
  cases isTool <;> simp [hookHeader, String.toList_append]

theorem single_hookHeader : '\n' ∉ (hookHeader isTool pass).toList := by
  cases isTool <;> cases pass <;> decide +kernel

theorem paren_mem_hookHeader : '(' ∈ (hookHeader isTool pass).toList := by
  cases isTool <;> cases pass <;> decide +kernel

/-- The calls are read from the body if nothing before it looks like its header. -/
theorem bodyCode?_ofLines
    (plain : ∀ call ∈ calls, ∀ name, call.subject? = some name → Text.IsPlain name)
    (absent : ∀ line ∈ before, ¬(hookHeader isTool pass).toList <:+: line.toList) :
    bodyCode? (hookHeader isTool pass)
        (ofLines (before ++ ("    " ++ hookHeader isTool pass) :: (hookBody pass calls ++ after))) =
      some (calls.map fun call => call.statement ++ ";") := by
  obtain ⟨others, header_eq⟩ := exists_hookHeader_eq_cons isTool pass
  have single : ∀ line ∈ hookHeader isTool pass :: hookBody pass calls, '\n' ∉ line.toList :=
    List.forall_mem_cons.mpr ⟨single_hookHeader, fun _ => single_of_mem_hookBody plain⟩
  rw [bodyCode?, from?_ofLines header_eq single_hookHeader absent (by decide), Option.map_some,
    ← List.cons_append, lines_ofLines_append single]
  exact congrArg some (bodyCode_hookBody pass plain _)

theorem exists_overrideLines (isTool : Bool) (pass : Pass) (calls : List HookCall) :
    ∃ front, overrideLines isTool pass calls =
        front ++ ("    " ++ hookHeader isTool pass) :: hookBody pass calls ∧
      ∀ line ∈ front, ¬(hookHeader isTool pass).toList <:+: line.toList := by
  cases isTool with
  | false =>
      refine ⟨[], ?_, by simp⟩
      simp [overrideLines, plainOverride, hookHeader, ← String.append_assoc]
  | true =>
      -- the header is the twenty-sixth line
      refine ⟨(guardedOverride pass []).take 25, ?_, ?_⟩
      · cases pass <;> rfl
      · cases pass <;> decide +kernel

/-- The calls of a model with plain names are read from the text of its unit. -/
theorem bodyCode?_lifecycleLines {generatorNamespace : String} {model : LifecycleModel}
    (plain_namespace : Text.IsPlain generatorNamespace) (plain_name : model.descriptor.name.IsPlain)
    (modifiers_open : IsOpening model.descriptor.modifiers)
    (plain_calls : ∀ call ∈ model.calls, ∀ name, call.subject? = some name → Text.IsPlain name) :
    bodyCode? (hookHeader model.descriptor.isTool model.pass)
        (ofLines (lifecycleLines generatorNamespace model)) =
      some (model.calls.map fun call => call.statement ++ ";") := by
  let opening := preamble generatorNamespace model.pass.generatorName model.descriptor.name
    lifecycleUsings ++ [model.descriptor.modifiers ++ " class " ++ model.descriptor.name.simple,
      "\x7b"]
  have plain_generator : Text.IsPlain model.pass.generatorName := by
    cases model.pass <;> decide +kernel
  have opens : ∀ line ∈ opening, IsOpening line := by
    intro line listed
    rw [List.mem_append, List.mem_cons, List.mem_singleton] at listed
    obtain listed | rfl | rfl := listed
    · exact isOpening_of_mem_preamble plain_namespace plain_generator plain_name (by decide) listed
    · exact isOpening_classLine modifiers_open plain_name
    · decide
  obtain ⟨front, override_eq, front_absent⟩ :=
    exists_overrideLines model.descriptor.isTool model.pass model.calls
  have absent : ∀ line ∈ opening ++ front,
      ¬(hookHeader model.descriptor.isTool model.pass).toList <:+: line.toList := by
    refine List.forall_mem_append.mpr ⟨fun line listed found => ?_, front_absent⟩
    exact (opens line listed).not_mem (by decide) (found.subset paren_mem_hookHeader)
  have lines_eq : lifecycleLines generatorNamespace model =
      opening ++ front ++ ("    " ++ hookHeader model.descriptor.isTool model.pass) ::
        (hookBody model.pass model.calls ++
          (model.helpers.flatMap (fun helper => "" :: helper.lines.map indented) ++ ["\x7d"])) := by
    simp [lifecycleLines, override_eq, opening]
  rw [lines_eq]
  exact bodyCode?_ofLines plain_calls absent

end Bodies

end SourceUnit

namespace TypeDecl

variable {decl : TypeDecl} {framework : Framework} {table : SymbolTable} {pass : Pass}

theorem exists_member_of_mem_calls {call : HookCall} {name : String}
    (called : call ∈ (decl.lifecycleModel framework table pass).calls)
    (named : call.subject? = some name) : ∃ member ∈ decl.members, member.name = name := by
  obtain ⟨member, declared, asked⟩ | ⟨-, injection, injected, rfl⟩ | ⟨-, -, rfl⟩ :=
    mem_calls_lifecycleModel.mp called
  · rw [Framework.hookCall?] at asked
    split_ifs at asked <;> cases asked <;> cases named <;> exact ⟨member, declared, rfl⟩
  · cases named
    obtain ⟨member, declared, made⟩ := List.mem_filterMap.mp injected
    refine ⟨member, declared, ?_⟩
    simp only [SceneInjection.ofMember?, Option.bind_eq_bind, Option.bind_eq_some_iff] at made
    obtain ⟨type, -, applied, -, made⟩ := made
    cases made
    rfl
  · cases named

/-- The calls of a class with plain names are read back from the text of its unit. -/
theorem bodyCode?_ofModel? (decl : TypeDecl) (framework : Framework) (table : SymbolTable)
    (marshalling : Bool) (pass : Pass) {generatorNamespace : String}
    (plain_namespace : Text.IsPlain generatorNamespace) (plain_name : decl.name.IsPlain)
    (plain_members : ∀ member ∈ decl.members, Text.IsPlain member.name)
    (emitted : ((decl.analyze framework table marshalling).model pass).shouldEmit = true) :
    let model := (decl.analyze framework table marshalling).model pass
    ∃ unit, SourceUnit.ofModel? generatorNamespace model = some unit ∧
      SourceUnit.bodyCode? (SourceUnit.hookHeader model.descriptor.isTool pass) unit.text =
        some (model.calls.map fun call => call.statement ++ ";") := by
  intro model
  have model_eq : model = decl.lifecycleModel framework table pass := decl.model_analyze ..
  have pass_eq : model.pass = pass := by rw [model_eq, decl.pass_lifecycleModel]
  have descriptor_eq : model.descriptor = .ofDecl framework decl pass := by
    rw [model_eq, decl.descriptor_lifecycleModel]
  have plain_calls : ∀ call ∈ model.calls, ∀ name, call.subject? = some name →
      Text.IsPlain name := by
    intro call called name named
    rw [model_eq] at called
    obtain ⟨member, declared, rfl⟩ := exists_member_of_mem_calls called named
    exact plain_members member declared
  refine ⟨_, if_pos emitted, ?_⟩
  rw [← pass_eq]
  apply SourceUnit.bodyCode?_lifecycleLines plain_namespace
  · rwa [descriptor_eq]
  · rw [descriptor_eq]
    exact SourceUnit.isOpening_modifiersText decl
  · exact plain_calls

/-- A class that also runs inside the editor, with a producer that is called when it is ready. -/
theorem bodyCode?_ofModel?_tool :
    let decl : TypeDecl := { player [.make [.onReady] []] with
      attributes := [⟨FrameworkNames.standard.toolAttribute, [], []⟩] }
    let model := (decl.analyze (.ofNames .standard)
      (.game [decl] (by decide) (by decide)) true).model .ready
    model.shouldEmit = true ∧ model.descriptor.isTool = true ∧
      ∃ unit, SourceUnit.ofModel? "Game.Generators" model = some unit ∧
        SourceUnit.bodyCode? "private void __ReadyInternal()" unit.text =
          some ["__disposable_Make = Make();"] := by
  intro decl model
  have emitted : model.shouldEmit = true := by decide +kernel
  have tool : model.descriptor.isTool = true := by decide +kernel
  have calls : model.calls = [.acquire "Make"] := by decide +kernel
  have plain_namespace : Text.IsPlain "Game.Generators" := by decide
  obtain ⟨unit, made, read⟩ := bodyCode?_ofModel? decl (.ofNames .standard)
    (.game [decl] (by decide) (by decide)) true .ready plain_namespace (by decide)
    (by decide) emitted
  refine ⟨emitted, tool, unit, made, ?_⟩
  change SourceUnit.bodyCode? (SourceUnit.hookHeader model.descriptor.isTool .ready) _ =
    some (model.calls.map _) at read
  rw [tool, calls] at read
  exact read

end TypeDecl
end NodeLifecycle
