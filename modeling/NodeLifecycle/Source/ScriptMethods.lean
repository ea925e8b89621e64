import NodeLifecycle.Lifecycle.Model
import NodeLifecycle.Source.Unit

/-!
# Units for the registration of methods

The unit lists every entry of a method table for the engine: a record with the name, the result and
the parameters of each, a class with the distinct names, and the two callbacks through which the
engine asks for a method and calls it.
-/

namespace NodeLifecycle
namespace SourceUnit

/-! ## Method records -/

/-- How the engine may use what a method record describes. -/
def usageFlags : String :=
  "global::Godot.PropertyUsageFlags.Storage | global::Godot.PropertyUsageFlags.Editor"

/-- The type of the list of method records. -/
def methodListType : String :=
  "global::System.Collections.Generic.List<global::Godot.Bridge.MethodInfo>"

/-- The lines that describe a value: its kind, its name, and the same remarks for every value. -/
def valueLines (margin : String) (kind : String) (name : String) : List String :=
  [margin ++ "type: global::Godot.Variant.Type." ++ kind ++ ",",
    margin ++ "name: new global::Godot.StringName(" ++ name ++ "),",
    margin ++ "hint: global::Godot.PropertyHint.None,",
    margin ++ "hintString: \"\",",
    margin ++ "usage: " ++ usageFlags ++ ",",
    margin ++ "exported: false),"]

def argumentLines (parameter : WireParameter) : List String :=
  "                new (" ::
    valueLines "                    " parameter.kind.name (Literal.ofText parameter.name)

def argumentsLines (params : List WireParameter) : List String :=
  if params.isEmpty then
    ["        arguments: new() \x7b\x7d,"]
  else
    ["        arguments: new() \x7b"] ++ params.flatMap argumentLines ++ ["        \x7d,"]

/-- The record of an entry, as a field under the entry's own name. -/
def methodInfoLines (typeName : String) (entry : MethodEntry) : List String :=
  ["    private static readonly global::Godot.Bridge.MethodInfo " ++ entry.infoName ++ " = new(",
    "        name: " ++ typeName ++ ".MethodName." ++ entry.name ++ ",",
    "        returnVal: new("] ++
    valueLines "            " ((entry.returnKind.map VariantKind.name).getD "Nil") "" ++
    ["        flags: global::Godot.MethodFlags.Normal,"] ++
    argumentsLines entry.params ++
    ["        defaultArguments: null", "    );", ""]

/-- The class with the records of all entries and the list of them. -/
def methodInfosLines (typeName : String) (entries : List MethodEntry) : List String :=
  ["file static class MethodInfos \x7b"] ++
    entries.flatMap (methodInfoLines typeName) ++
    ["", "    public static readonly " ++ methodListType ++ " GodotMethodList = new() \x7b"] ++
    entries.map (fun entry => "        MethodInfos." ++ entry.infoName ++ ",") ++
    ["\x7d;", "\x7d", ""]

/-! ## Names and dispatch -/

/-- The class with the names of the methods. -/
def methodNameLines (engineParent : QualifiedName) (names : List String) : List String :=
  ["    #pragma warning disable CS0109 // Disable warning about redundant 'new' keyword",
    "    public new class MethodName : global::" ++ engineParent.display ++ ".MethodName",
    "    \x7b"] ++
    names.map (fun name =>
      "        public new static readonly global::Godot.StringName " ++ name ++ " = " ++
        Literal.ofText name ++ ";") ++
    ["    \x7d"]

/-- The lines that read the arguments of a call, from the given position on, and close the call. -/
def conversionLines (position : Nat) : List WireParameter → List String
  | [] => []
  | parameter :: rest =>
      ["                // " ++ parameter.name,
        "                global::Godot.NativeInterop.VariantUtils.ConvertTo<" ++
          parameter.type.globalQualified ++ ">(args[" ++ toString position ++ "])" ++
          (if rest.isEmpty then ");" else ",")] ++
        conversionLines (position + 1) rest

/-- The call of a method, after what is done with its result. -/
def callLines (opening : String) (entry : MethodEntry) : List String :=
  if entry.params.isEmpty then
    [opening ++ entry.name ++ "();"]
  else
    (opening ++ entry.name ++ "(") :: conversionLines 0 entry.params

/-- The line that tells whether an entry is the one that is called. -/
def matchLine (entry : MethodEntry) : String :=
  "        if (method == MethodName." ++ entry.name ++ " && args.Count == " ++
    toString entry.arity ++ ")"

/-- The lines that call an entry and hand its result to the engine. -/
def invokeLines (entry : MethodEntry) : List String :=
  [matchLine entry, "        \x7b"] ++
    (if entry.returnsVoid then
      callLines "            " entry ++ ["            ret = default;"]
    else
      callLines "            var callRet = " entry ++
        ["            ret = global::Godot.NativeInterop.VariantUtils.CreateFrom<" ++
          entry.returns.globalQualified ++ ">(callRet);"]) ++
    ["            return true;", "        \x7d"]

/-- The line that tells whether a name is one of the class's methods. -/
def knownNameLine (name : String) : String :=
  "        if (method == MethodName." ++ name ++ ") return true;"

def registrationLines (engineParent : QualifiedName) (methods : MethodTable) : List String :=
  methodNameLines engineParent methods.methodNames ++
    ["",
      "    internal new static " ++ methodListType ++ " GetGodotMethodList()",
      "    \x7b",
      "        return MethodInfos.GodotMethodList;",
      "    \x7d",
      "    #pragma warning restore CS0109",
      "",
      "    protected override bool InvokeGodotClassMethod(in godot_string_name method, " ++
        "NativeVariantPtrArgs args, out godot_variant ret)",
      "    \x7b"] ++
    methods.entries.flatMap invokeLines ++
    ["",
      "        return base.InvokeGodotClassMethod(method, args, out ret);",
      "    \x7d",
      "",
      "    protected override bool HasGodotClassMethod(in godot_string_name method)",
      "    \x7b"] ++
    methods.methodNames.map knownNameLine ++
    ["",
      "        return base.HasGodotClassMethod(method);",
      "    \x7d"]

def scriptMethodsLines (generatorNamespace : String) (descriptor : ClassDescriptor)
    (engineParent : QualifiedName) (methods : MethodTable) : List String :=
  preamble generatorNamespace scriptMethodsGeneratorName descriptor.name scriptMethodsUsings ++
    methodInfosLines descriptor.name.simple methods.entries ++
    [descriptor.modifiers ++ " class " ++ descriptor.name.simple, "\x7b"] ++
    registrationLines engineParent methods ++
    ["\x7d"]

/-- The unit for a method table.  There is none without entries, for a class that cannot be
continued, or without a base class in the engine. -/
def ofMethodTable? (generatorNamespace : String) (descriptor : ClassDescriptor)
    (methods : MethodTable) : Option SourceUnit :=
  if methods.isEmpty || !descriptor.isPartial then
    none
  else
    methods.engineParent.map fun engineParent =>
      { hint := hintName descriptor.name scriptMethodsShortName
        text := ofLines (scriptMethodsLines generatorNamespace descriptor engineParent methods) }

end SourceUnit
end NodeLifecycle
