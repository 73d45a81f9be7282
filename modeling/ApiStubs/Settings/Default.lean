import ApiStubs.Settings

/-!
# The default settings

The tables that a run starts from.
-/

namespace ApiStubs.Settings

/-- A table whose values are texts. -/
def textTable (entries : List (String × String)) : Table Value :=
  entries.map fun entry => (entry.1, .text entry.2)

/-- A record whose fields are texts. -/
def textRecord (entries : List (String × String)) : Value :=
  .record (textTable entries)

/-- Diagnostics of the language server that every Lua stub disables. -/
def defaultDiagnostics : List String :=
  ["lowercase-global", "missing-return", "duplicate-doc-param", "duplicate-set-field",
    "args-after-dots"]

/-- Types that need no declaration. -/
def defaultPlainTypes : List String :=
  ["nil", "any", "boolean", "number", "integer", "string", "table", "function", "userdata",
    "lightuserdata", "thread"]

/-- The declaration of a class with fields and without operators. -/
def plainClass (fields : List (String × String)) : Value :=
  .record [("fields", textRecord fields)]

/-- The declaration of a class with fields and operators. -/
def classWithOperators (fields : List (String × String))
    (operators : List (String × Value)) : Value :=
  .record [("fields", textRecord fields), ("operators", .record operators)]

/-- An operator with a second operand. -/
def binaryOperator (param result : String) : Value :=
  textRecord [("param", param), ("result", result)]

/-- The arithmetic operators of a vector type. -/
def vectorOperators (name : String) : List (String × Value) :=
  [("add", binaryOperator name name), ("sub", binaryOperator name name),
    ("mul", binaryOperator "number" name), ("div", binaryOperator "number" name),
    ("unm", textRecord [("result", name)])]

/-- The classes that the stubs declare on their own account. A field is a type and a comment. -/
def defaultClasses : Table Value := [
  ("vector3", classWithOperators
    [("x", "number"), ("y", "number"), ("z", "number")] (vectorOperators "vector3")),
  ("vector4", classWithOperators
    [("x", "number"), ("y", "number"), ("z", "number"), ("w", "number")]
    (vectorOperators "vector4")),
  ("quaternion", classWithOperators
    [("x", "number"), ("y", "number"), ("z", "number"), ("w", "number")]
    [("mul", binaryOperator "quaternion" "quaternion")]),
  ("matrix4", classWithOperators
    [("c0", "vector4"), ("c1", "vector4"), ("c2", "vector4"), ("c3", "vector4")]
    [("mul", binaryOperator "matrix4" "matrix4")]),
  ("url", plainClass [("socket", "hash"), ("path", "hash"), ("fragment", "hash")]),
  ("on_input.action", plainClass [
    ("value", "number The amount of input given by the user"),
    ("pressed", "boolean If the input was pressed this frame"),
    ("released", "boolean If the input was released this frame"),
    ("repeated", "boolean If the input was repeated this frame"),
    ("x", "number The x value of a pointer device, if present"),
    ("y", "number The y value of a pointer device, if present"),
    ("screen_x", "number The screen space x value of a pointer device, if present"),
    ("screen_y", "number The screen space y value of a pointer device, if present"),
    ("dx", "number The change in x value of a pointer device, if present"),
    ("dy", "number The change in y value of a pointer device, if present"),
    ("gamepad", "integer The index of the gamepad device that provided the input"),
    ("touch", "on_input.touch[] List of touch input, one element per finger, if present"),
    ("text", "string The text entered with the text action, if present")]),
  ("on_input.touch", plainClass [
    ("id", "number A number identifying the touch input during its duration"),
    ("pressed", "boolean True if the finger was pressed this frame"),
    ("released", "boolean True if the finger was released this frame"),
    ("tap_count", "integer Number of taps, one for single, two for double-tap, etc"),
    ("x", "number The x touch location"),
    ("y", "number The y touch location"),
    ("dx", "number The change in x value"),
    ("dy", "number The change in y value")])]

/-- The aliases that the stubs declare on their own account. -/
def defaultAliases : List (String × String) :=
  [("array", "table"), ("bool", "boolean"), ("float", "number"), ("hash", "userdata"),
    ("constant", "userdata"), ("node", "userdata"), ("constant_buffer", "userdata"),
    ("render_predicate", "userdata"), ("render_target", "string|userdata"),
    ("resource_handle", "number|userdata"), ("buffer_stream", "userdata"),
    ("buffer_data", "userdata"), ("socket_client", "userdata"), ("socket_master", "userdata"),
    ("socket_unconnected", "userdata")]

/-- Names in place of those that are words of the language. -/
def defaultRenamings : List (String × String) :=
  [("repeat", "repeating"), ("function", "func"), ("end", "finish"), ("local", "is_local"),
    ("and", "and_"), ("or", "or_"), ("not", "not_"), ("in", "in_"), ("then", "then_"),
    ("if", "if_"), ("else", "else_"), ("elseif", "elseif_"), ("for", "for_"),
    ("while", "while_"), ("do", "do_"), ("until", "until_"), ("return", "return_"),
    ("break", "break_"), ("goto", "goto_"), ("nil", "nil_"), ("true", "true_"),
    ("false", "false_")]

/-- Names in place of others for one element. -/
def defaultLocalRenamings : Table (Table Value) :=
  [("go.property", textTable [("param_value", "default")])]

/-- Types in place of others for one element. -/
def defaultOverrides : Table (Table Value) :=
  [("sys.load_resource", textTable [("return_string_data", "string|nil")])]

/-- Types in place of others in Lua. -/
def luaSubstitutions : List (String × String) :=
  [("bool", "boolean"), ("float", "number"), ("double", "number"), ("int", "integer"),
    ("array", "table"), ("object", "table"), ("vmath.vector3", "vector3"),
    ("vmath.vector4", "vector4"), ("vmath.quaternion", "quaternion"),
    ("vmath.matrix4", "matrix4"), ("resource", "hash"), ("handle", "number")]

/-- Types in place of others in Teal. -/
def tealSubstitutions : List (String × String) :=
  [("bool", "boolean"), ("float", "number"), ("double", "number"), ("int", "integer"),
    ("array", "\x7bany\x7d"), ("table", "\x7bany:any\x7d"), ("object", "\x7bany:any\x7d"),
    ("vmath.vector3", "vector3"), ("vmath.vector4", "vector4"),
    ("vmath.quaternion", "quaternion"), ("vmath.matrix4", "matrix4"),
    ("function(self, url, property)", "function(self, url, hash)"), ("resource", "hash"),
    ("handle", "number")]

/-- The types that become placeholders in Lua. -/
def luaPlaceholders : List (String × String) :=
  [("vmath.lerp", "vector3|vector4"), ("vmath.slerp", "quaternion|vector3|vector4")]

/-- The types that become placeholders in Teal. -/
def tealPlaceholders : List (String × String) :=
  [("vmath.lerp", "any"), ("vmath.slerp", "any")]

/-- The callbacks of a script, which are documented as functions but never declared. -/
def defaultUndeclared : List String :=
  ["init", "final", "update", "fixed_update", "on_message", "on_input", "on_reload"]

/-- The opaque types that Teal cannot unite. -/
def defaultOpaqueTypes : List String :=
  ["vector3", "vector4", "quaternion", "hash", "url", "constant"]

/-- The aliases that Teal does not declare. -/
def tealBarredNames : Table (List Value) :=
  [("meta", ["array", "bool", "float", "render_target", "resource_handle"].map .text)]

/-- The tables of Lua. -/
def defaultLua : Dialect where
  label := "lua"
  insistsOnKnown := true
  callableWord := "fun"
  substitutions := textTable luaSubstitutions
  overrides := defaultOverrides
  renamings := textTable defaultRenamings
  localRenamings := defaultLocalRenamings
  placeholders := textTable luaPlaceholders
  undeclared := defaultUndeclared.map .text

/-- The tables of Teal. An optional parameter carries a question mark there, so its type gains no
alternative. -/
def defaultTeal : Dialect where
  label := "teal"
  arrayPattern := "\x7b%s\x7d"
  nilAlternative := none
  opaqueTypes := defaultOpaqueTypes
  substitutions := textTable tealSubstitutions
  overrides := defaultOverrides
  renamings := textTable defaultRenamings
  localRenamings := defaultLocalRenamings
  placeholders := textTable tealPlaceholders
  undeclared := defaultUndeclared.map .text
  selection := {
    namespaces := some [.text "meta"]
    barredStarts := [.text "editor"]
    omitsGlobalTables := true
    barredNames := tealBarredNames }

/-- The settings that a run starts from. -/
def default : Settings where
  lua := defaultLua
  teal := defaultTeal
  plainTypes := defaultPlainTypes.map .text
  classes := defaultClasses
  aliases := textTable defaultAliases
  diagnostics := defaultDiagnostics.map .text

end ApiStubs.Settings
