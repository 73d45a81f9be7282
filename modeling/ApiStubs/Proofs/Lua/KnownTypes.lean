import ApiStubs.Proofs.Lua.KnownModule
import ApiStubs.Proofs.Settings.Amendment
import ApiStubs.Proofs.Signature
import ApiStubs.Proofs.Types.Strict

/-!
# No type of the Lua stubs is left undeclared

Lua insists on known types, and the file of the known types declares those that are not plain. As
corrections only ever add to what is known, this stays so whatever corrections are made, as long as
they leave alone which elements Lua selects and which types it overrides.
-/

namespace ApiStubs

open ApiStubs.Value ApiStubs.Types

namespace Lua

/-- The base of a type that a stub can mention: nil, the fallback, the type of a function with a
signature, a plain type, or a class or alias that a text declares. -/
inductive IsDeclared (settings : Settings) (text : String) : String → Prop
  | absent : IsDeclared settings text "nil"
  | fallback {type : String} (isFallback : settings.lua.fallbackType = .text type) :
      IsDeclared settings text type
  | callable {type : String} (begins : Text.beginsWith type "fun(" = true) :
      IsDeclared settings text type
  | plain {type : String} (isPlain : .text type ∈ settings.plainTypes) :
      IsDeclared settings text type
  | classType {name : String} (isClass : name ∈ settings.classes.keys)
      (declared : classLine name ∈ Text.lines text) : IsDeclared settings text name
  | aliasType {name line : String} (isAlias : name ∈ settings.aliases.keys)
      (declared : line ∈ Text.lines text)
      (begins : Text.beginsWith line (aliasStart name) = true) : IsDeclared settings text name

/-- A documented parameter or return value with a name and with types in any form. -/
structure IsDocumented (member : Value) : Prop where
  name : member.Requires "name" IsText
  types : member.Offers "types" (IsNullOr fun types => types.IsText ∨ types.IsListOf IsText)

/-- A documented function with a name, parameters and return values. -/
structure IsFunction (element : Value) : Prop where
  name : element.Requires "name" IsText
  parameters : element.Offers "parameters" (IsNullOr (IsListOf IsDocumented))
  results : element.Offers "returnvalues" (IsNullOr (IsListOf IsDocumented))

/-- A step from settings to others that leaves alone what Lua selects and overrides. -/
def KeepsSelection (_document : Value) (settings next : Settings) : Prop :=
  next.lua.selection = settings.lua.selection ∧ next.lua.overrides = settings.lua.overrides

/-- Such steps lead to settings with the default selection and overrides. -/
theorem eq_default_of_keepsSelection {settings : Settings}
    (reached : settings.IsReached KeepsSelection) :
    settings.lua.selection = {} ∧ settings.lua.overrides = Settings.defaultOverrides := by
  induction reached with
  | default => exact ⟨rfl, rfl⟩
  | corrected _ _ keeps _ inductionHypothesis =>
      exact ⟨keeps.1.trans inductionHypothesis.1, keeps.2.trans inductionHypothesis.2⟩

/-- A writer that knows the plain types, the classes and the aliases of its settings. -/
def KnowsItsSettings (writer : StubWriter) : Prop :=
  writer.known.members = writer.settings.plainTypes ++ writer.settings.classes.keys.map .text ++
    writer.settings.aliases.keys.map .text

/-- For settings in shape there is a writer that knows them. -/
theorem exists_ofSettings {settings : Settings} (shaped : settings.IsShaped) :
    ∃ writer, StubWriter.ofSettings settings = .ok writer ∧ writer.settings = settings ∧
      KnowsItsSettings writer := by
  have scalars (types : List Value) (texts : ∀ type ∈ types, type.IsText) :
      types.mapM Value.asScalar = .ok types := by
    rw [Outcome.mapM_eq_ok, List.forall₂_same]
    intro type member
    obtain ⟨content, rfl⟩ := texts type member
    rfl
  rw [StubWriter.ofSettings, Known.ofSettings, scalars _ shaped.plainTypes]
  exact ⟨_, rfl, rfl, rfl⟩

section Writer

variable {writer : StubWriter} (knows : KnowsItsSettings writer)
  (extendsDefault : writer.settings.Extends .default)

include knows extendsDefault

/-- The default plain types are known. -/
theorem mem_known_of_mem_default {type : String} (isDefault : type ∈ Settings.defaultPlainTypes) :
    .text type ∈ writer.known.members := by
  rw [knows]
  exact List.mem_append_left _ (List.mem_append_left _
    (extendsDefault.plainTypes _ (List.mem_map_of_mem isDefault)))

/-- The types of the default overrides are known. -/
theorem covers_defaultOverrides :
    Settings.defaultOverrides.All (Table.All writer.known.Covers) := by
  have covered : writer.known.Covers (.text "string|nil") := by
    refine ⟨_, rfl, fun type member => ?_⟩
    have types : (trimPieces (textPieces "string|nil")).map splitBrackets =
        [("string", 0), ("nil", 0)] := by decide +kernel
    have among : splitBrackets type ∈ [("string", 0), ("nil", 0)] :=
      types ▸ List.mem_map_of_mem member
    refine Known.contains_iff.2 (.inl (mem_known_of_mem_default knows extendsDefault ?_))
    rcases List.mem_pair.1 among with isString | isNil
    · rw [isString]
      decide
    · rw [isNil]
      decide
  simpa [Table.All, Settings.defaultOverrides, Settings.textTable] using covered

/-- A writer of settings that know the default types spells strictly in Lua. -/
theorem isStrict_speller (shaped : writer.settings.IsShaped)
    (overrides : writer.settings.lua.overrides = Settings.defaultOverrides) :
    (writer.speller .lua).IsStrict where
  insists := extendsDefault.lua.insistsOnKnown
  arrays := extendsDefault.lua.arrayPattern
  fusesNothing := extendsDefault.lua.opaqueTypes
  fallbackType := shaped.lua.fallbackType
  substitutions := shaped.lua.substitutions
  functions := mem_known_of_mem_default knows extendsDefault (by decide)
  overrides := by
    have isDefault : (writer.speller .lua).dialect.overrides = Settings.defaultOverrides :=
      overrides
    rw [isDefault]
    exact covers_defaultOverrides knows extendsDefault

/-- What the strict speller of Lua writes has a meaning where every known class and alias is
declared. -/
theorem IsDeclared.of_writes {text : String}
    (classes : ∀ name ∈ writer.settings.classes.keys, classLine name ∈ Text.lines text)
    (aliases : ∀ name ∈ writer.settings.aliases.keys,
      ∃ line ∈ Text.lines text, Text.beginsWith line (aliasStart name) = true)
    {type : String} (writes : (writer.speller .lua).Writes type) :
    IsDeclared writer.settings text type := by
  cases writes with
  | fallback isFallback => exact .fallback isFallback
  | callable begins =>
      have word : (writer.speller .lua).dialect.callableWord = "fun" :=
        extendsDefault.lua.callableWord
      rw [word] at begins
      exact .callable begins
  | known isKnown =>
      have among : .text type ∈ writer.known.members := isKnown
      rw [knows] at among
      rcases List.mem_append.1 among with plainOrClass | isAlias
      · rcases List.mem_append.1 plainOrClass with isPlain | isClass
        · exact .plain isPlain
        · obtain ⟨name, isKey, same⟩ := List.mem_map.1 isClass
          obtain rfl := Value.text.inj same
          exact .classType isKey (classes name isKey)
      · obtain ⟨name, isKey, same⟩ := List.mem_map.1 isAlias
        obtain rfl := Value.text.inj same
        obtain ⟨line, declared, begins⟩ := aliases name isKey
        exact .aliasType isKey declared begins

end Writer

/-- The types of a documented parameter or return value are joined, and each is spelled or is the
alternative of an optional type. -/
theorem IsDocumented.exists_joinedTypes {speller : Speller} (strict : speller.IsStrict)
    (shaped : speller.dialect.IsShaped) {documented : Value}
    (isDocumented : IsDocumented documented) (owner : String) (side : Side) :
    ∃ types, Slot.joinedTypes speller side (.text owner) documented = .ok types ∧
      ∀ type ∈ types, speller.Spells type ∨ speller.dialect.nilAlternative = some type := by
  obtain ⟨_, named, name, rfl⟩ := isDocumented.name
  obtain ⟨fields, rfl⟩ := exists_record_of_field? named
  obtain ⟨⟨found, isOptional⟩, identified⟩ :=
    Naming.exists_identifier shaped.renamings shaped.localRenamings name owner side
  obtain ⟨given, read, nullOrTypes⟩ := isDocumented.types.exists_get
  have types := nullOrTypes.orElse (.inr ⟨[], rfl, by simp⟩)
  simp only [Slot.joinedTypes, require_eq_ok.2 named, identified, read, Outcome.ok_bind]
  exact strict.exists_joined types (isText_text owner)

/-- The documented members of a function can be read. -/
theorem IsFunction.exists_documented {element : Value} (isFunction : IsFunction element)
    (side : Side) : ∃ members, Signature.documented side element = .ok members ∧
      ∀ member ∈ members, IsDocumented member := by
  obtain ⟨_, named, _⟩ := isFunction.name
  obtain ⟨fields, rfl⟩ := exists_record_of_field? named
  have offered : (Value.record fields).Offers side.key (IsNullOr (IsListOf IsDocumented)) := by
    cases side with
    | argument => exact isFunction.parameters
    | result => exact isFunction.results
  obtain ⟨found, read, nullOrList⟩ := offered.exists_get
  obtain ⟨members, isList, documented⟩ := nullOrList.orElse ⟨[], rfl, by simp⟩
  rw [Signature.documented, read, Outcome.ok_bind, isList]
  exact ⟨members, rfl, documented⟩

/-- No type of the Lua stubs is left undeclared. After any corrections that leave alone what Lua
selects and overrides, the known types have a file; and whatever types a function documents, each
one that is joined for a parameter or a return value is a base inside any number of arrays, and
unless the base is nil, the fallback, a function type or a plain type, that file declares it. -/
theorem every_joined_type_isDeclared {settings : Settings}
    (reached : settings.IsReached KeepsSelection)
    (singleLine : ∀ name ∈ settings.classes.keys ++ settings.aliases.keys, '\n' ∉ name.toList)
    (version : String) :
    ∃ writer module text, StubWriter.ofSettings settings = .ok writer ∧
      Reference.knownModule settings = .ok module ∧
      moduleText? writer version module = .ok (some text) ∧
      ∀ element owner side, IsFunction element → element.field? "name" = some owner →
        ∃ members, Signature.documented side element = .ok members ∧
          ∀ documented ∈ members, ∃ types slot,
            Slot.joinedTypes (writer.speller .lua) side owner documented = .ok types ∧
            Slot.ofDocumented (writer.speller .lua) side owner documented = .ok slot ∧
            (slot.type = if Text.join "|" types = "" then settings.lua.fallbackType
              else .text (Text.join "|" types)) ∧
            ∀ type ∈ types, ∃ base depth, type = base ++ brackets depth ∧
              IsDeclared settings text base := by
  obtain ⟨shaped, extendsDefault⟩ := reached.keeps
  obtain ⟨selection, overrides⟩ := eq_default_of_keepsSelection reached
  obtain ⟨writer, made, rfl, knows⟩ := exists_ofSettings shaped
  have nonempty : writer.settings.classes ≠ [] := by
    intro isEmpty
    have isKey := extendsDefault.classes "vector3" (by decide)
    rw [isEmpty] at isKey
    simp [Table.keys] at isKey
  obtain ⟨module, text, isModule, isText, classes, aliases⟩ :=
    exists_knownModule_text selection shaped.classes shaped.aliases nonempty version
  have strict := isStrict_speller knows extendsDefault shaped overrides
  obtain ⟨singleClass, singleAlias⟩ := List.forall_mem_append.1 singleLine
  have isDeclared {type : String} (writes : (writer.speller .lua).Writes type) :
      IsDeclared writer.settings text type :=
    .of_writes knows extendsDefault (fun name isKey => classes name isKey (singleClass name isKey))
      (fun name isKey => aliases name isKey (singleAlias name isKey)) writes
  refine ⟨writer, module, text, made, isModule, isText, ?_⟩
  intro element owner side isFunction named
  obtain ⟨members, read, documented⟩ := isFunction.exists_documented side
  refine ⟨members, read, fun member among => ?_⟩
  obtain ⟨_, found, owner, rfl⟩ := isFunction.name
  obtain rfl := Option.some.inj (found.symm.trans named)
  obtain ⟨types, joined, spelled⟩ :=
    (documented member among).exists_joinedTypes strict shaped.lua owner side
  obtain ⟨slot, isSlot, typed⟩ := Slot.exists_ofDocumented joined
  refine ⟨types, slot, joined, isSlot, typed, fun type isJoined => ?_⟩
  rcases spelled type isJoined with ⟨base, depth, rfl, writes⟩ | isAbsent
  · exact ⟨base, depth, rfl, isDeclared writes⟩
  · have absent : (writer.speller .lua).dialect.nilAlternative = some "nil" :=
      extendsDefault.lua.nilAlternative
    obtain rfl := Option.some.inj (absent.symm.trans isAbsent)
    exact ⟨"nil", 0, rfl, .absent⟩

/-- After a correction that knows one alias more, has a substitution for another type and sets the
fallback, the types of a function that mentions both have their declarations. -/
theorem joined_type_isDeclared_after_correction :
    let document : Value := .record [("known_aliases", .record [("handle_type", .text "number")]),
      ("lua", .record [("type_replacements", .record [("custom_list", .text "custom[]")]),
        ("unknown_type", .text "unknown")])]
    let settings := (Corrections.apply .default document).1
    let parameter : Value := .record [("name", .text "[self]"),
      ("types", .text "handle_type[]|custom_list|function(self)")]
    let function : Value := .record [("name", .text "go.get"), ("parameters", .list [parameter])]
    settings.IsReached KeepsSelection ∧
      (∀ name ∈ settings.classes.keys ++ settings.aliases.keys, '\n' ∉ name.toList) ∧
      IsFunction function ∧
      ∃ (writer : StubWriter) (module : Value) (text : String) (types : List String),
        StubWriter.ofSettings settings = .ok writer ∧
        Reference.knownModule settings = .ok module ∧
        moduleText? writer "1" module = .ok (some text) ∧
        Slot.joinedTypes (writer.speller .lua) .argument (.text "go.get") parameter = .ok types ∧
        ∀ type ∈ types, ∃ base depth, type = base ++ brackets depth ∧
          IsDeclared settings text base := by
  intro document settings parameter function
  have isPart : Corrections.IsDialectPart (.record
      [("type_replacements", .record [("custom_list", .text "custom[]")]),
        ("unknown_type", .text "unknown")]) := by
    constructor <;> simp [Offers, Value.field?_record, Table.get?_cons, IsTableOf, Table.All]
  have isDocument : Corrections.IsDocument document := by
    constructor <;>
      simp [document, Offers, Value.field?_record, Table.get?_cons, IsTableOf, Table.All, isPart]
  have reached : settings.IsReached KeepsSelection :=
    .corrected .default isDocument ⟨rfl, rfl⟩ rfl
  have singleLine : ∀ name ∈ settings.classes.keys ++ settings.aliases.keys,
      '\n' ∉ name.toList := by
    decide +kernel
  have isDocumented : IsDocumented parameter := by
    constructor <;>
      simp [parameter, Requires, Offers, IsNullOr, Value.field?_record, Table.get?_cons]
  have isFunction : IsFunction function := by
    constructor <;>
      simp [function, Requires, Offers, IsNullOr, IsListOf, Value.field?_record, Table.get?_cons,
        isDocumented]
  obtain ⟨writer, module, text, made, isModule, isText, each⟩ :=
    every_joined_type_isDeclared reached singleLine "1"
  obtain ⟨members, read, joined⟩ := each function (.text "go.get") .argument isFunction rfl
  obtain rfl : [parameter] = members := Except.ok.inj read
  obtain ⟨types, _, isJoined, _, _, declared⟩ := joined parameter (List.mem_singleton_self _)
  exact ⟨reached, singleLine, isFunction, writer, module, text, types, made, isModule, isText,
    isJoined, declared⟩

end Lua

end ApiStubs
