import ApiStubs.Proofs.Settings.Reading
import ApiStubs.Settings.Default

/-!
# Settings that corrections lead to

Corrections add to the tables of settings or write over their entries; they never take an entry
away. So whatever corrections follow each other,

- every table still holds values of its shape (`Settings.IsShaped`), and
- what the default settings know is still known, and the rules of the dialects are the default ones
  (`Settings.Extends`).

One edit keeps both, hence so does a document, and any number of documents.
-/

namespace ApiStubs

open ApiStubs.Value

/-- A dialect whose tables hold texts. -/
structure Dialect.IsShaped (dialect : Dialect) : Prop where
  fallbackType : dialect.fallbackType.IsText
  substitutions : dialect.substitutions.All IsText
  overrides : dialect.overrides.All (Table.All IsText)
  renamings : dialect.renamings.All IsText
  localRenamings : dialect.localRenamings.All (Table.All IsText)
  placeholders : dialect.placeholders.All IsText
  undeclared : ∀ name ∈ dialect.undeclared, name.IsText
  namespaces : ∀ space ∈ dialect.selection.namespaces.getD [], space.IsText
  barredStarts : ∀ start ∈ dialect.selection.barredStarts, start.IsText
  barredNames : dialect.selection.barredNames.All fun names => ∀ name ∈ names, name.IsText

/-- A dialect with the rules of another: what no table of corrections can change. -/
structure Dialect.HasRulesOf (dialect other : Dialect) : Prop where
  label : dialect.label = other.label
  insistsOnKnown : dialect.insistsOnKnown = other.insistsOnKnown
  arrayPattern : dialect.arrayPattern = other.arrayPattern
  callableWord : dialect.callableWord = other.callableWord
  nilAlternative : dialect.nilAlternative = other.nilAlternative
  opaqueTypes : dialect.opaqueTypes = other.opaqueTypes
  omitsGlobalTables : dialect.selection.omitsGlobalTables = other.selection.omitsGlobalTables

namespace Settings

/-- Settings whose tables hold values of their shapes. -/
structure IsShaped (settings : Settings) : Prop where
  lua : settings.lua.IsShaped
  teal : settings.teal.IsShaped
  plainTypes : ∀ type ∈ settings.plainTypes, type.IsText
  classes : settings.classes.All IsClassDeclaration
  aliases : settings.aliases.All IsText
  diagnostics : ∀ diagnostic ∈ settings.diagnostics, diagnostic.IsText
  stubFolder : settings.stubFolder.IsText

/-- Settings that know at least what others know, under the same rules. -/
structure Extends (settings other : Settings) : Prop where
  lua : settings.lua.HasRulesOf other.lua
  teal : settings.teal.HasRulesOf other.teal
  plainTypes : ∀ type ∈ other.plainTypes, type ∈ settings.plainTypes
  classes : ∀ name ∈ other.classes.keys, name ∈ settings.classes.keys
  aliases : ∀ name ∈ other.aliases.keys, name ∈ settings.aliases.keys
  generator : settings.generator = other.generator
  versionAddress : settings.versionAddress = other.versionAddress
  bundleAddress : settings.bundleAddress = other.bundleAddress

end Settings

/-! ## One edit -/

namespace Dialect.HasRulesOf

/-- A dialect has its own rules. -/
theorem refl (dialect : Dialect) : dialect.HasRulesOf dialect :=
  ⟨rfl, rfl, rfl, rfl, rfl, rfl, rfl⟩

/-- Rules are handed on. -/
theorem trans {first second third : Dialect} (later : first.HasRulesOf second)
    (earlier : second.HasRulesOf third) : first.HasRulesOf third where
  label := later.label.trans earlier.label
  insistsOnKnown := later.insistsOnKnown.trans earlier.insistsOnKnown
  arrayPattern := later.arrayPattern.trans earlier.arrayPattern
  callableWord := later.callableWord.trans earlier.callableWord
  nilAlternative := later.nilAlternative.trans earlier.nilAlternative
  opaqueTypes := later.opaqueTypes.trans earlier.opaqueTypes
  omitsGlobalTables := later.omitsGlobalTables.trans earlier.omitsGlobalTables

end Dialect.HasRulesOf

namespace Settings.Extends

/-- Settings extend themselves. -/
theorem refl (settings : Settings) : settings.Extends settings :=
  ⟨.refl _, .refl _, fun _ => id, fun _ => id, fun _ => id, rfl, rfl, rfl⟩

/-- What extends settings that extend others extends these. -/
theorem trans {first second third : Settings} (later : first.Extends second)
    (earlier : second.Extends third) : first.Extends third where
  lua := later.lua.trans earlier.lua
  teal := later.teal.trans earlier.teal
  plainTypes type known := later.plainTypes type (earlier.plainTypes type known)
  classes name known := later.classes name (earlier.classes name known)
  aliases name known := later.aliases name (earlier.aliases name known)
  generator := later.generator.trans earlier.generator
  versionAddress := later.versionAddress.trans earlier.versionAddress
  bundleAddress := later.bundleAddress.trans earlier.bundleAddress

end Settings.Extends

namespace DialectEdit

/-- An edit leaves the rules of a dialect alone. -/
theorem hasRulesOf_apply (edit : DialectEdit) (dialect : Dialect) :
    (edit.apply dialect).HasRulesOf dialect := by
  cases edit <;> constructor <;> rfl

/-- An edit that writes texts keeps the tables of a dialect in shape. -/
theorem IsShaped.apply {edit : DialectEdit} (writes : edit.IsShaped) {dialect : Dialect}
    (shaped : dialect.IsShaped) : (edit.apply dialect).IsShaped := by
  cases edit with
  | substitute type replacement =>
      exact { shaped with substitutions := shaped.substitutions.set writes type }
  | rename name replacement =>
      exact { shaped with renamings := shaped.renamings.set writes name }
  | setPlaceholder function type =>
      exact { shaped with placeholders := shaped.placeholders.set writes function }
  | openOverrides owner =>
      exact { shaped with
        overrides := shaped.overrides.setDefault (by simp [Table.All]) owner }
  | override owner key replacement =>
      exact { shaped with
        overrides := shaped.overrides.modify (by simp [Table.All])
          (fun _ texts => texts.set writes key) owner }
  | openLocalRenamings owner =>
      exact { shaped with
        localRenamings := shaped.localRenamings.setDefault (by simp [Table.All]) owner }
  | renameLocally owner key replacement =>
      exact { shaped with
        localRenamings := shaped.localRenamings.modify (by simp [Table.All])
          (fun _ texts => texts.set writes key) owner }
  | leaveUndeclared names =>
      exact { shaped with
        undeclared := List.forall_mem_append.2 ⟨shaped.undeclared, writes⟩ }
  | setFallbackType type => exact { shaped with fallbackType := writes }
  | admitNamespaces namespaces => exact { shaped with namespaces := writes }
  | barStarts starts => exact { shaped with barredStarts := writes }
  | openBarredNames space =>
      exact { shaped with barredNames := shaped.barredNames.setDefault (by simp) space }
  | barName space name =>
      refine { shaped with barredNames := shaped.barredNames.modify (by simp) ?_ space }
      intro names texts
      rw [insertInto]
      split
      · exact texts
      · exact List.forall_mem_append.2 ⟨texts, List.forall_mem_singleton.2 writes⟩

end DialectEdit

namespace Edit

/-- An edit adds to settings and takes nothing away. -/
theorem extends_apply (edit : Edit) (settings : Settings) :
    (edit.apply settings).Extends settings := by
  have same := Settings.Extends.refl settings
  cases edit with
  | addPlainTypes types =>
      exact { same with plainTypes := fun type known => List.mem_append_left _ known }
  | declareClass name declaration =>
      exact { same with classes := fun other known => Table.mem_keys_set.2 (.inr known) }
  | declareAlias name target =>
      exact { same with aliases := fun other known => Table.mem_keys_set.2 (.inr known) }
  | setDiagnostics diagnostics => exact { same with }
  | setStubFolder folder => exact { same with }
  | amend tongue edit =>
      cases tongue with
      | lua => exact { same with lua := edit.hasRulesOf_apply settings.lua }
      | teal => exact { same with teal := edit.hasRulesOf_apply settings.teal }

/-- A change of settings leaves the tables of a dialect alone, unless it is about that dialect. -/
theorem dialect_apply (edit : Edit) (settings : Settings) (tongue : Tongue) :
    (edit.apply settings).dialect tongue = settings.dialect tongue ∨
      ∃ change, edit = .amend tongue change ∧
        (edit.apply settings).dialect tongue = change.apply (settings.dialect tongue) := by
  cases edit with
  | amend amended change =>
      cases amended <;> cases tongue
      · exact .inr ⟨change, rfl, rfl⟩
      · exact .inl rfl
      · exact .inl rfl
      · exact .inr ⟨change, rfl, rfl⟩
  | _ => exact .inl (by cases tongue <;> rfl)

/-- An edit that writes values of their shapes keeps settings in shape. -/
theorem IsShaped.apply {edit : Edit} (writes : edit.IsShaped) {settings : Settings}
    (shaped : settings.IsShaped) : (edit.apply settings).IsShaped := by
  cases edit with
  | addPlainTypes types =>
      refine { shaped with plainTypes := List.forall_mem_append.2 ⟨shaped.plainTypes, ?_⟩ }
      exact fun type member => writes type (List.mem_filter.1 member).1
  | declareClass name declaration =>
      exact { shaped with classes := shaped.classes.set writes name }
  | declareAlias name target =>
      exact { shaped with aliases := shaped.aliases.set writes name }
  | setDiagnostics diagnostics => exact { shaped with diagnostics := writes }
  | setStubFolder folder => exact { shaped with stubFolder := writes }
  | amend tongue edit =>
      cases tongue with
      | lua => exact { shaped with lua := DialectEdit.IsShaped.apply writes shaped.lua }
      | teal => exact { shaped with teal := DialectEdit.IsShaped.apply writes shaped.teal }

/-- Edits one after the other keep settings in shape and extend them. -/
theorem applyAll_keeps {edits : List Edit} (writes : ∀ edit ∈ edits, edit.IsShaped)
    {settings : Settings} (shaped : settings.IsShaped) :
    (applyAll settings edits).IsShaped ∧ (applyAll settings edits).Extends settings := by
  induction edits generalizing settings with
  | nil => exact ⟨shaped, .refl settings⟩
  | cons edit rest inductionHypothesis =>
      obtain ⟨first, others⟩ := List.forall_mem_cons.1 writes
      obtain ⟨shapedAfter, extendsAfter⟩ := inductionHypothesis others (first.apply shaped)
      exact ⟨shapedAfter, extendsAfter.trans (edit.extends_apply settings)⟩

end Edit

namespace Settings

/-! ## Any number of documents -/

/-- Documents of the documented shape can always be applied; settings stay in shape and are
extended. -/
theorem exists_corrected {settings : Settings} (shaped : settings.IsShaped) {document : Value}
    (isDocument : Corrections.IsDocument document) :
    ∃ next, settings.corrected document = .ok next ∧ next.IsShaped ∧ next.Extends settings := by
  obtain ⟨ended, writes⟩ := Corrections.delivers_read isDocument
  refine ⟨_, ?_, Edit.applyAll_keeps writes shaped⟩
  rw [corrected, Corrections.apply, ended]

/-- Settings that a sequence of documents of the documented shape leads to from the default ones,
where each step is one of those admitted. -/
inductive IsReached (admits : Value → Settings → Settings → Prop) : Settings → Prop
  | default : IsReached admits default
  | corrected {settings next : Settings} {document : Value} (reached : IsReached admits settings)
      (isDocument : Corrections.IsDocument document)
      (admitted : admits document settings next)
      (leads : settings.corrected document = .ok next) : IsReached admits next

/-- A table of texts holds texts. -/
theorem all_isText_textTable (entries : List (String × String)) :
    (textTable entries).All IsText :=
  List.forall_mem_map.2 fun entry _ => isText_text entry.2

/-- Texts are texts. -/
theorem isText_of_mem_map {texts : List String} {member : Value}
    (among : member ∈ texts.map Value.text) : member.IsText := by
  obtain ⟨content, _, rfl⟩ := List.mem_map.1 among
  exact isText_text content

/-- A binary operator has the shape of operators. -/
theorem isOperator_binaryOperator (param result : String) :
    IsOperator (binaryOperator param result) where
  result := ⟨_, rfl, isText_text result⟩
  param := fun found present => by
    obtain rfl : Value.text param = found := Option.some.inj present
    exact .inr (isText_text param)

/-- A unary operator has the shape of operators. -/
theorem isOperator_unaryOperator (result : String) : IsOperator (textRecord [("result", result)])
    where
  result := ⟨_, rfl, isText_text result⟩
  param := fun _ present => (nomatch present)

/-- A class of texts and flags has the shape of class declarations. -/
theorem isClassDeclaration_of_fields {fields : Table Value}
    (each : fields.All fun field => field.IsText ∨ ∃ flag, field = .bool flag) :
    IsClassDeclaration (.record [("fields", .record fields)]) where
  isRecord := ⟨_, rfl⟩
  fields := fun found present => by
    obtain rfl : Value.record fields = found := Option.some.inj present
    exact ⟨fields, rfl, each⟩
  operators := fun _ present => (nomatch present)

/-- A class with text fields has the shape of class declarations. -/
theorem isClassDeclaration_plainClass (fields : List (String × String)) :
    IsClassDeclaration (plainClass fields) :=
  isClassDeclaration_of_fields fun field member => .inl (all_isText_textTable fields field member)

/-- A class with text fields and operators has the shape of class declarations. -/
theorem isClassDeclaration_classWithOperators (fields : List (String × String))
    {operators : Table Value} (shaped : operators.All IsOperator) :
    IsClassDeclaration (classWithOperators fields operators) where
  isRecord := ⟨_, rfl⟩
  fields := fun found present => by
    obtain rfl : textRecord fields = found := Option.some.inj present
    exact ⟨_, rfl, fun field member => .inl (all_isText_textTable fields field member)⟩
  operators := fun found present => by
    obtain rfl : Value.record operators = found := Option.some.inj present
    exact ⟨operators, rfl, shaped⟩

/-- The arithmetic operators of a vector type have the shape of operators. -/
theorem all_isOperator_vectorOperators (name : String) :
    Table.All IsOperator (vectorOperators name) := by
  simp only [Table.All, vectorOperators, List.forall_mem_cons, List.not_mem_nil, false_implies,
    implies_true, and_true]
  exact ⟨isOperator_binaryOperator .., isOperator_binaryOperator .., isOperator_binaryOperator ..,
    isOperator_binaryOperator .., isOperator_unaryOperator name⟩

/-- The default classes have the shape of class declarations. -/
theorem all_isClassDeclaration_defaultClasses : Table.All IsClassDeclaration defaultClasses := by
  have single (name : String) :
      Table.All IsOperator [("mul", binaryOperator name name)] := by
    simpa [Table.All] using isOperator_binaryOperator name name
  simp only [Table.All, defaultClasses, List.forall_mem_cons, List.not_mem_nil, false_implies,
    implies_true, and_true]
  exact ⟨isClassDeclaration_classWithOperators _ (all_isOperator_vectorOperators _),
    isClassDeclaration_classWithOperators _ (all_isOperator_vectorOperators _),
    isClassDeclaration_classWithOperators _ (single _),
    isClassDeclaration_classWithOperators _ (single _), isClassDeclaration_plainClass _,
    isClassDeclaration_plainClass _, isClassDeclaration_plainClass _⟩

/-- The default local renamings and overrides are texts. -/
theorem all_isText_ofOwner (owner : String) (entries : List (String × String)) :
    Table.All (Table.All IsText) [(owner, textTable entries)] := by
  simpa [Table.All] using all_isText_textTable entries

/-- The default tables of Lua are in shape. -/
theorem isShaped_defaultLua : defaultLua.IsShaped where
  fallbackType := isText_text "any"
  substitutions := all_isText_textTable _
  overrides := all_isText_ofOwner _ _
  renamings := all_isText_textTable _
  localRenamings := all_isText_ofOwner _ _
  placeholders := all_isText_textTable _
  undeclared := fun _ => isText_of_mem_map
  namespaces := fun _ member => (nomatch member)
  barredStarts := fun _ member => (nomatch member)
  barredNames := fun _ member => (nomatch member)

/-- The default tables of Teal are in shape. -/
theorem isShaped_defaultTeal : defaultTeal.IsShaped where
  fallbackType := isText_text "any"
  substitutions := all_isText_textTable _
  overrides := all_isText_ofOwner _ _
  renamings := all_isText_textTable _
  localRenamings := all_isText_ofOwner _ _
  placeholders := all_isText_textTable _
  undeclared := fun _ => isText_of_mem_map
  namespaces := by simp [defaultTeal]
  barredStarts := by simp [defaultTeal]
  barredNames := by
    simp only [Table.All, defaultTeal, tealBarredNames, List.forall_mem_singleton]
    exact fun _ => isText_of_mem_map

/-- The default settings are in shape. -/
theorem isShaped_default : default.IsShaped where
  lua := isShaped_defaultLua
  teal := isShaped_defaultTeal
  plainTypes := fun _ => isText_of_mem_map
  classes := all_isClassDeclaration_defaultClasses
  aliases := all_isText_textTable _
  diagnostics := fun _ => isText_of_mem_map
  stubFolder := isText_text "api"

/-- Settings that documents lead to are in shape and extend the default ones. -/
theorem IsReached.keeps {admits : Value → Settings → Settings → Prop} {settings : Settings}
    (reached : settings.IsReached admits) : settings.IsShaped ∧ settings.Extends .default := by
  induction reached with
  | default => exact ⟨isShaped_default, .refl _⟩
  | corrected _ isDocument _ leads inductionHypothesis =>
      obtain ⟨shaped, extendsDefault⟩ := inductionHypothesis
      obtain ⟨other, leadsThere, shapedNext, extendsSettings⟩ := exists_corrected shaped isDocument
      rw [leads] at leadsThere
      obtain rfl := Except.ok.inj leadsThere
      exact ⟨shapedNext, extendsSettings.trans extendsDefault⟩

end Settings

end ApiStubs
