import ApiStubs.Lua.Writing
import ApiStubs.Proofs.Value.Shape
import ApiStubs.Settings.Correction
import ApiStubs.Teal.Writing
import Mathlib.Logic.Basic

/-!
# Settings that agree

Two dialects agree when they are the same but for the functions that they leave undeclared, and
these are the same ones, in some order and number. Nothing but membership in them is ever asked for,
so settings that agree lead to the same stubs, or to the same fault. Edits keep them in agreement.
-/

namespace ApiStubs

/-- A dialect that is another one but for repetitions among the functions left undeclared. -/
def Dialect.AgreesWith (dialect other : Dialect) : Prop :=
  ∃ names, dialect = { other with undeclared := names } ∧
    ∀ name, name ∈ names ↔ name ∈ other.undeclared

/-- Settings that are others but for repetitions among the functions left undeclared. -/
def Settings.AgreesWith (settings other : Settings) : Prop :=
  ∃ lua teal, settings = { other with lua, teal } ∧
    lua.AgreesWith other.lua ∧ teal.AgreesWith other.teal

namespace Dialect.AgreesWith

/-- A dialect agrees with itself. -/
theorem refl (dialect : Dialect) : dialect.AgreesWith dialect :=
  ⟨dialect.undeclared, rfl, fun _ => .rfl⟩

/-- Dialects that are the same agree. -/
theorem of_eq {dialect other : Dialect} (same : dialect = other) : dialect.AgreesWith other :=
  same ▸ .refl dialect

/-- Agreement is handed on. -/
theorem trans {first second third : Dialect} (agrees : first.AgreesWith second)
    (agreesNext : second.AgreesWith third) : first.AgreesWith third := by
  obtain ⟨names, rfl, same⟩ := agrees
  obtain ⟨others, rfl, sameNext⟩ := agreesNext
  exact ⟨names, rfl, fun name => (same name).trans (sameNext name)⟩

/-- An edit keeps dialects in agreement. -/
theorem apply {dialect other : Dialect} (agrees : dialect.AgreesWith other) (edit : DialectEdit) :
    (edit.apply dialect).AgreesWith (edit.apply other) := by
  obtain ⟨names, rfl, same⟩ := agrees
  cases edit with
  | leaveUndeclared more =>
      exact ⟨names ++ more, rfl, fun name => by simp [DialectEdit.apply, same]⟩
  | _ => exact ⟨names, rfl, same⟩

end Dialect.AgreesWith

namespace Settings.AgreesWith

/-- Settings agree with themselves. -/
theorem refl (settings : Settings) : settings.AgreesWith settings :=
  ⟨settings.lua, settings.teal, rfl, .refl _, .refl _⟩

/-- Settings that are the same agree. -/
theorem of_eq {settings other : Settings} (same : settings = other) : settings.AgreesWith other :=
  same ▸ .refl settings

/-- Agreement is handed on. -/
theorem trans {first second third : Settings} (agrees : first.AgreesWith second)
    (agreesNext : second.AgreesWith third) : first.AgreesWith third := by
  obtain ⟨lua, teal, rfl, agreesLua, agreesTeal⟩ := agrees
  obtain ⟨luaNext, tealNext, rfl, agreesLuaNext, agreesTealNext⟩ := agreesNext
  exact ⟨lua, teal, rfl, agreesLua.trans agreesLuaNext, agreesTeal.trans agreesTealNext⟩

/-- An edit keeps settings in agreement. -/
theorem apply {settings other : Settings} (agrees : settings.AgreesWith other) (edit : Edit) :
    (edit.apply settings).AgreesWith (edit.apply other) := by
  obtain ⟨lua, teal, rfl, agreesLua, agreesTeal⟩ := agrees
  cases edit with
  | amend tongue change =>
      cases tongue with
      | lua => exact ⟨_, teal, rfl, agreesLua.apply change, agreesTeal⟩
      | teal => exact ⟨lua, _, rfl, agreesLua, agreesTeal.apply change⟩
  | _ => exact ⟨lua, teal, rfl, agreesLua, agreesTeal⟩

/-- Edits one after the other keep settings in agreement. -/
theorem applyAll {settings other : Settings} (agrees : settings.AgreesWith other)
    (edits : List Edit) :
    (Edit.applyAll settings edits).AgreesWith (Edit.applyAll other edits) := by
  induction edits generalizing settings other with
  | nil => exact agrees
  | cons edit rest inductionHypothesis => exact inductionHypothesis (agrees.apply edit)

end Settings.AgreesWith

/-! ## Stubs -/

section Stubs

variable {settings other : Settings} (agrees : settings.AgreesWith other) (known : Types.Known)

include agrees

/-- Settings that agree declare the same functions in Lua. -/
theorem Lua.declareFunction?_congr (element : Value) :
    Lua.declareFunction? ⟨settings, known⟩ element =
      Lua.declareFunction? ⟨other, known⟩ element := by
  obtain ⟨_, _, rfl, ⟨names, rfl, same⟩, _⟩ := agrees
  simp only [Lua.declareFunction?, Value.memberOf_congr same]
  rfl

/-- Settings that agree lead to the same declarations in Lua. -/
theorem Lua.declare?_congr :
    Lua.declare? ⟨settings, known⟩ = Lua.declare? ⟨other, known⟩ := by
  funext kind element
  cases kind with
  | function => exact Lua.declareFunction?_congr agrees known element
  | _ => rfl

/-- Settings that agree lead to the same declarations of several entries. -/
theorem Lua.declarations_congr (entries : List Lua.Entry) :
    Lua.declarations ⟨settings, known⟩ entries = Lua.declarations ⟨other, known⟩ entries := by
  induction entries with
  | nil => rfl
  | cons entry rest inductionHypothesis =>
      rw [Lua.declarations, Lua.declarations, inductionHypothesis, Lua.declare?_congr agrees]

/-- Settings that agree lead to the same Lua stub of a module. -/
theorem Lua.moduleText?_congr :
    Lua.moduleText? ⟨settings, known⟩ = Lua.moduleText? ⟨other, known⟩ := by
  funext version module
  have declarations := Lua.declarations_congr agrees known
  obtain ⟨_, _, rfl, ⟨_, rfl, _⟩, _⟩ := agrees
  simp only [Lua.moduleText?, declarations]
  rfl

/-- Settings that agree lead to the same Lua files. -/
theorem Lua.writeFiles_congr :
    Lua.writeFiles ⟨settings, known⟩ = Lua.writeFiles ⟨other, known⟩ := by
  funext version modules
  have write : Lua.writeModule ⟨settings, known⟩ version =
      Lua.writeModule ⟨other, known⟩ version := by
    funext written module
    have texts := Lua.moduleText?_congr agrees known
    obtain ⟨_, _, rfl, _⟩ := agrees
    simp only [Lua.writeModule, Lua.renderModule, texts]
    rfl
  rw [Lua.writeFiles, Lua.writeFiles, write]

/-- Settings that agree declare the same functions in Teal. -/
theorem Teal.declareFunction?_congr (element fullName : Value) (isOutermost : Bool) :
    Teal.declareFunction? ⟨settings, known⟩ element fullName isOutermost =
      Teal.declareFunction? ⟨other, known⟩ element fullName isOutermost := by
  obtain ⟨_, _, rfl, _, ⟨names, rfl, same⟩⟩ := agrees
  simp only [Teal.declareFunction?, Value.memberOf_congr same]
  rfl

/-- Settings that agree lead to the same declarations in Teal. -/
theorem Teal.declareWith_congr :
    Teal.declareWith ⟨settings, known⟩ = Teal.declareWith ⟨other, known⟩ := by
  funext kind element fullName isOutermost
  have functions := Teal.declareFunction?_congr agrees known element (.text fullName) isOutermost
  obtain ⟨_, _, rfl, _, ⟨_, rfl, _⟩⟩ := agrees
  cases kind with
  | function =>
      rw [Teal.declareWith, Teal.declareWith, Teal.declare?, Teal.declare?, functions]
  | _ => rfl

/-- Settings that agree lead to the same lines in Teal. -/
theorem Teal.renderLines_congr :
    Teal.renderLines ⟨settings, known⟩ = Teal.renderLines ⟨other, known⟩ := by
  funext version modules
  have declare := Teal.declareWith_congr agrees known
  obtain ⟨_, _, rfl, _, ⟨_, rfl, _⟩⟩ := agrees
  simp only [Teal.renderLines, Teal.renderGroup, declare]
  rfl

/-- Settings that agree lead to the same Teal file. -/
theorem Teal.writeFile_congr :
    Teal.writeFile ⟨settings, known⟩ = Teal.writeFile ⟨other, known⟩ := by
  funext version modules
  have lines := Teal.renderLines_congr agrees known
  obtain ⟨_, _, rfl, _⟩ := agrees
  simp only [Teal.writeFile, lines]
  rfl

end Stubs

namespace Settings

/-- Settings whose writers make the same stubs as those of others, or meet the same faults: the
texts of the Lua files, the lines of the Teal file, and the runs that write them. -/
structure HasStubsOf (settings other : Settings) : Prop where
  luaText : ∀ version module,
    (do Lua.moduleText? (← StubWriter.ofSettings settings) version module) =
      (do Lua.moduleText? (← StubWriter.ofSettings other) version module)
  luaFiles : ∀ version modules,
    (do Lua.writeFiles (← Run.ofOutcome (StubWriter.ofSettings settings)) version modules) =
      (do Lua.writeFiles (← Run.ofOutcome (StubWriter.ofSettings other)) version modules)
  tealLines : ∀ version modules,
    (do Teal.renderLines (← StubWriter.ofSettings settings) version modules) =
      (do Teal.renderLines (← StubWriter.ofSettings other) version modules)
  tealFile : ∀ version modules,
    (do Teal.writeFile (← Run.ofOutcome (StubWriter.ofSettings settings)) version modules) =
      (do Teal.writeFile (← Run.ofOutcome (StubWriter.ofSettings other)) version modules)

/-- Settings that agree have writers that know the same types, or neither has one. -/
theorem AgreesWith.writers {settings other : Settings} (agrees : settings.AgreesWith other) :
    (∃ known, StubWriter.ofSettings settings = .ok ⟨settings, known⟩ ∧
      StubWriter.ofSettings other = .ok ⟨other, known⟩) ∨
    ∃ fault, StubWriter.ofSettings settings = .error fault ∧
      StubWriter.ofSettings other = .error fault := by
  have same : Types.Known.ofSettings settings = Types.Known.ofSettings other := by
    obtain ⟨_, _, rfl, _⟩ := agrees
    rfl
  rw [StubWriter.ofSettings, StubWriter.ofSettings, same]
  cases Types.Known.ofSettings other with
  | ok known => exact .inl ⟨known, rfl, rfl⟩
  | error fault => exact .inr ⟨fault, rfl, rfl⟩

/-- Settings that agree make the same stubs. -/
theorem AgreesWith.hasStubsOf {settings other : Settings} (agrees : settings.AgreesWith other) :
    settings.HasStubsOf other := by
  rcases agrees.writers with ⟨known, written, writtenOther⟩ | ⟨fault, stopped, stoppedOther⟩
  · constructor <;> intro version modules <;> rw [written, writtenOther]
    · exact congrFun₂ (Lua.moduleText?_congr agrees known) version modules
    · exact congrFun₂ (Lua.writeFiles_congr agrees known) version modules
    · exact congrFun₂ (Teal.renderLines_congr agrees known) version modules
    · exact congrFun₂ (Teal.writeFile_congr agrees known) version modules
  · constructor <;> intro version modules <;> rw [stopped, stoppedOther]

end Settings

end ApiStubs
