import ApiStubs.Signature

/-!
# What stubs are written with

A stub writer holds the settings and the known types, which are taken from settings when the writer
is made.
-/

namespace ApiStubs

/-- The settings and the known types that stubs are written with. -/
structure StubWriter where
  settings : Settings
  known : Types.Known
  deriving Inhabited

namespace StubWriter

/-- A writer that knows the types of its settings. -/
def ofSettings (settings : Settings) : Outcome StubWriter := do
  return { settings, known := ← Types.Known.ofSettings settings }

/-- What types are spelled with in a dialect. -/
def speller (writer : StubWriter) (tongue : Tongue) : Types.Speller :=
  { dialect := writer.settings.dialect tongue, known := writer.known }

end StubWriter

end ApiStubs
