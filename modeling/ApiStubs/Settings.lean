import ApiStubs.Value

/-!
# Settings

The tables that steer the stubs: one set for each dialect, and the types, classes and aliases that
both take as known. The tables that a corrections document can fill hold values of any shape; what
is set by the program alone has a type of its own.
-/

namespace ApiStubs

/-- Which modules and elements a dialect declares. Sets are lists of distinct values. -/
structure Selection where
  /-- The namespaces whose elements are declared; `none` admits every namespace. -/
  namespaces : Option (List Value) := none
  /-- An element whose name begins with one of these is left out. -/
  barredStarts : List Value := []
  /-- Whether classes that exist as global tables are left out. -/
  omitsGlobalTables : Bool := false
  /-- The names left out of a namespace. -/
  barredNames : Table (List Value) := []
  deriving Repr, Inhabited

/-- How one dialect spells types and names, and what it leaves out. -/
structure Dialect where
  label : String
  /-- The type written where no better one is known. -/
  fallbackType : Value := .text "any"
  /-- Whether a type that is not known gives way to `fallbackType`. -/
  insistsOnKnown : Bool := false
  /-- The pattern of an array type; `%s` stands for the type of its members. -/
  arrayPattern : String := "%s[]"
  /-- The word that begins the type of a function with a signature. -/
  callableWord : String := "function"
  /-- The alternative that an optional type gains. -/
  nilAlternative : Option String := some "nil"
  /-- The types that are fused into `any` when a type unites several of them. -/
  opaqueTypes : List String := []
  /-- The types that stand in place of others. -/
  substitutions : Table Value := []
  /-- Types that stand in place of others for one element, under keys made of a side, a type and a
  name. -/
  overrides : Table (Table Value) := []
  /-- The names that stand in place of others. -/
  renamings : Table Value := []
  /-- Names that stand in place of others for one element, under keys made of a side and a name. -/
  localRenamings : Table (Table Value) := []
  /-- The type that becomes a placeholder in the signature of a function. -/
  placeholders : Table Value := []
  /-- The functions that are documented but never declared. -/
  undeclared : List Value := []
  selection : Selection := {}
  deriving Repr, Inhabited

/-- All settings of a run. -/
structure Settings where
  lua : Dialect
  teal : Dialect
  /-- The types that need no declaration. -/
  plainTypes : List Value := []
  /-- The classes that the stubs declare on their own account. -/
  classes : Table Value := []
  /-- The aliases that the stubs declare on their own account. -/
  aliases : Table Value := []
  /-- The diagnostics that every Lua stub disables. -/
  diagnostics : List Value := []
  /-- The path of the folder that the stubs are written into. -/
  stubFolder : Value := .text "api"
  /-- What the stubs say they are generated with. -/
  generator : String := "github.com/astrochili/defold-annotations"
  /-- The address of the label of the current version. -/
  versionAddress : String := "https://d.defold.com/stable/info.json"
  /-- The address of a reference bundle; the version stands in braces. -/
  bundleAddress : String :=
    "https://github.com/defold/defold/releases/download/\x7bversion\x7d/ref-doc.zip"
  deriving Repr, Inhabited

/-- The dialects that stubs are written in. -/
inductive Tongue where
  | lua
  | teal
  deriving DecidableEq, Repr, Inhabited

namespace Settings

/-- The tables of one dialect. -/
def dialect (settings : Settings) : Tongue → Dialect
  | .lua => settings.lua
  | .teal => settings.teal

/-- Change the tables of one dialect. -/
def modifyDialect (settings : Settings) (change : Dialect → Dialect) : Tongue → Settings
  | .lua => { settings with lua := change settings.lua }
  | .teal => { settings with teal := change settings.teal }

end Settings

end ApiStubs
