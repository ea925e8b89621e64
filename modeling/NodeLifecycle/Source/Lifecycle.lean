import NodeLifecycle.Lifecycle.Model
import NodeLifecycle.Source.Unit

/-!
# Lifecycle units

The unit of a pass continues the class with the engine callback that calls every hook, followed by
the helpers.  In a class that also runs inside the editor, the hook calls stand in a method of their
own, and errors inside the editor are caught.
-/

namespace NodeLifecycle

/-- A line one level further in; an empty line stays empty. -/
def indented (line : String) : String :=
  if line.isEmpty then "" else "    " ++ line

namespace Helper

/-- The lines of a method without a result: its header, and its body one level further in. -/
def methodLines (header : String) (body : List String) : List String :=
  [header, "\x7b"] ++ body.map indented ++ ["\x7d"]

/-- The lines of the method that replaces a resource.  It takes the producer's parameters and hands
on their names. -/
def updaterLines (entry : DisposalEntry) : List String :=
  methodLines
    (entry.updaterAccess.keyword ++ " void " ++ GeneratedName.updater entry.method ++ "(" ++
      ", ".intercalate (entry.params.map Parameter.declaration) ++ ")")
    [entry.resetName ++ "();",
      entry.slotName ++ " = " ++ entry.method ++ "(" ++
        ", ".intercalate (entry.params.map Parameter.name) ++ ");"]

/-- The lines of a helper as they stand at the outermost level. -/
def lines : Helper → List String
  | sceneInit injection =>
      methodLines ("private void " ++ injection.initName ++ "()")
        ["this." ++ injection.member ++ " = this." ++ injection.lookupName ++ "<" ++
          injection.type.qualified ++ ">(" ++ Literal.ofText injection.path ++ ");"]
  | disposeAll resets =>
      methodLines ("private void " ++ GeneratedName.disposeAll ++ "()")
        (if resets.isEmpty then [""] else resets.map fun reset => reset ++ "();")
  | slot entry => ["private IDisposable? " ++ entry.slotName ++ ";"]
  | updater entry => updaterLines entry
  | reset entry =>
      methodLines ("private void " ++ entry.resetName ++ "()")
        [entry.slotName ++ "?.Dispose();", entry.slotName ++ " = null;"]

/-- The helper as it is pasted into a class after the indentation of its first line. -/
def source (helper : Helper) : String :=
  match helper.lines with
  | [] => ""
  | first :: rest => "\n".intercalate (first :: rest.map indented)

end Helper

namespace SourceUnit

/-- The body of a method with the hook calls, braces included. -/
def hookBody (pass : Pass) (calls : List HookCall) : List String :=
  ["    \x7b",
    "        // Generated code, to add other calls add [" ++ pass.shortName ++
      "] attributes to methods",
    ""] ++
    calls.map (fun call => "        " ++ call.statement ++ ";") ++
    ["    \x7d"]

/-- The override that calls the hooks itself. -/
def plainOverride (pass : Pass) (calls : List HookCall) : List String :=
  ("    public override void " ++ pass.overrideName ++ "()") :: hookBody pass calls

/-- The override of a class that also runs inside the editor, and the method with the hook calls. -/
def guardedOverride (pass : Pass) (calls : List HookCall) : List String :=
  let name := pass.overrideName
  let body := GeneratedName.guardedBody name
  ["    public override void " ++ name ++ "()",
    "    \x7b",
    "        base." ++ name ++ "();",
    "#if TOOLS",
    "        if (Godot.Engine.IsEditorHint())",
    "        \x7b",
    "            try",
    "            \x7b",
    "                " ++ body ++ "();",
    "            \x7d",
    "            catch (Exception e)",
    "            \x7b",
    "                GD.PrintErr($\"Caught exception in \x7bthis.GetPath()\x7d." ++ name ++
      "()\", e);",
    "            \x7d",
    "        \x7d",
    "        else",
    "        \x7b",
    "#endif //TOOLS",
    "            " ++ body ++ "();",
    "#if TOOLS",
    "        \x7d",
    "#endif //TOOLS",
    "    \x7d",
    "",
    "    [MethodImpl(MethodImplOptions.AggressiveInlining)]",
    "    private void " ++ body ++ "()"] ++
    hookBody pass calls

/-- The override of a pass. -/
def overrideLines (isTool : Bool) (pass : Pass) (calls : List HookCall) : List String :=
  if isTool then guardedOverride pass calls else plainOverride pass calls

/-- The lines of the unit of a pass. -/
def lifecycleLines (generatorNamespace : String) (model : LifecycleModel) : List String :=
  preamble generatorNamespace model.pass.generatorName model.descriptor.name lifecycleUsings ++
    [model.descriptor.modifiers ++ " class " ++ model.descriptor.name.simple, "\x7b"] ++
    overrideLines model.descriptor.isTool model.pass model.calls ++
    model.helpers.flatMap (fun helper => "" :: helper.lines.map indented) ++
    ["\x7d"]

def ofModel? (generatorNamespace : String) (model : LifecycleModel) : Option SourceUnit :=
  if model.shouldEmit then
    some
      { hint := hintName model.descriptor.name model.pass.shortName
        text := ofLines (lifecycleLines generatorNamespace model) }
  else
    none

end SourceUnit
end NodeLifecycle
