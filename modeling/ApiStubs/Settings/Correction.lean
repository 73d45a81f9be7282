import ApiStubs.Settings.Default
import ApiStubs.Json.Reader
import ApiStubs.Text.Basic
import ApiStubs.Value.Entries

/-!
# Corrections

A corrections document amends settings. It is read as a sequence of edits, each of which
changes one table; where the document cannot be read any further, the edits before that point have
been made. Reading does not look at the settings, and making an edit cannot fail.
-/

namespace ApiStubs

/-- A change of one dialect's tables. -/
inductive DialectEdit where
  | substitute (type : String) (replacement : Value)
  | rename (name : String) (replacement : Value)
  | setPlaceholder (function : String) (type : Value)
  | openOverrides (owner : String)
  | override (owner key : String) (replacement : Value)
  | openLocalRenamings (owner : String)
  | renameLocally (owner key : String) (replacement : Value)
  | leaveUndeclared (names : List Value)
  | setFallbackType (type : Value)
  | admitNamespaces (namespaces : Option (List Value))
  | barStarts (starts : List Value)
  | openBarredNames (space : String)
  | barName (space : String) (name : Value)
  deriving Repr

/-- A change of settings. -/
inductive Edit where
  | addPlainTypes (types : List Value)
  | declareClass (name : String) (declaration : Value)
  | declareAlias (name : String) (target : Value)
  | setDiagnostics (diagnostics : List Value)
  | setStubFolder (folder : Value)
  | amend (tongue : Tongue) (edit : DialectEdit)
  deriving Repr

namespace DialectEdit

/-- Make a change of a selection. -/
def applyToSelection (selection : Selection) : DialectEdit → Selection
  | .admitNamespaces namespaces => { selection with namespaces }
  | .barStarts starts => { selection with barredStarts := starts }
  | .openBarredNames space =>
      { selection with barredNames := selection.barredNames.setDefault space [] }
  | .barName space name =>
      { selection with barredNames := selection.barredNames.modify space [] name.insertInto }
  | _ => selection

/-- Make a change of a dialect's tables. -/
def apply (dialect : Dialect) (edit : DialectEdit) : Dialect :=
  match edit with
  | .substitute type replacement =>
      { dialect with substitutions := dialect.substitutions.set type replacement }
  | .rename name replacement =>
      { dialect with renamings := dialect.renamings.set name replacement }
  | .setPlaceholder function type =>
      { dialect with placeholders := dialect.placeholders.set function type }
  | .openOverrides owner =>
      { dialect with overrides := dialect.overrides.setDefault owner [] }
  | .override owner key replacement =>
      { dialect with
        overrides := dialect.overrides.modify owner [] fun table => table.set key replacement }
  | .openLocalRenamings owner =>
      { dialect with localRenamings := dialect.localRenamings.setDefault owner [] }
  | .renameLocally owner key replacement =>
      { dialect with
        localRenamings := dialect.localRenamings.modify owner [] fun table =>
          table.set key replacement }
  | .leaveUndeclared names => { dialect with undeclared := dialect.undeclared ++ names }
  | .setFallbackType type => { dialect with fallbackType := type }
  | selectionEdit =>
      { dialect with selection := selectionEdit.applyToSelection dialect.selection }

end DialectEdit

namespace Edit

/-- Make a change of settings. A type that is known already is not added again. -/
def apply (settings : Settings) : Edit → Settings
  | .addPlainTypes types =>
      { settings with
        plainTypes := settings.plainTypes ++
          types.filter fun type => !type.memberOf settings.plainTypes }
  | .declareClass name declaration =>
      { settings with classes := settings.classes.set name declaration }
  | .declareAlias name target => { settings with aliases := settings.aliases.set name target }
  | .setDiagnostics diagnostics => { settings with diagnostics }
  | .setStubFolder folder => { settings with stubFolder := folder }
  | .amend tongue edit => settings.modifyDialect edit.apply tongue

/-- Make changes one after the other. -/
def applyAll (settings : Settings) (edits : List Edit) : Settings :=
  edits.foldl apply settings

end Edit

namespace Corrections

/-! ## Reading -/

/-- What a document says under a key. A list or a text says nothing, but it cannot be read any
further when it holds the key itself. -/
def mention (document : Value) (key : String) : Outcome (Option Value) :=
  match document with
  | .record fields => .ok (Table.get? fields key)
  | .list items => if (Value.text key).memberOf items then .error .wrongShape else .ok none
  | .text content => if Text.includes content key then .error .wrongShape else .ok none
  | _ => .error .wrongShape

/-- The edits that follow from what a document says under a key, none when it says nothing. -/
def whenMentioned {α : Type} (document : Value) (key : String) (read : Value → Progress α) :
    Progress α :=
  match mention document key with
  | .ok (some value) => read value
  | .ok none => .complete []
  | .error fault => .failed fault

/-- One edit made of what a value holds. -/
def single {α β : Type} (read : Value → Outcome β) (edit : β → α) (value : Value) : Progress α :=
  match read value with
  | .ok content => .complete [edit content]
  | .error fault => .failed fault

/-- One edit for every entry of a value. -/
def perEntry {α : Type} (edit : String → Value → α) (value : Value) : Progress α :=
  value.entries.map fun entry => edit entry.1 entry.2

/-- The edits of the tables under the keys of a record; each table is opened before what is written
into it is read. -/
def perTable {α : Type} (document : Value) (key : String) (opening : String → α)
    (read : String → Value → Progress α) : Progress α :=
  .ofOutcome ((document.getOr key (.record [])).bind Value.asRecord) fun entry =>
    (Progress.complete [opening entry.1]).andThen (read entry.1 entry.2)

/-- The edits of one dialect. -/
def readDialect (document : Value) : Progress DialectEdit :=
  .concat [
    whenMentioned document "type_replacements" (perEntry .substitute),
    whenMentioned document "name_replacements" (perEntry .rename),
    whenMentioned document "generics" (perEntry .setPlaceholder),
    perTable document "local_type_replacements" .openOverrides fun owner =>
      perEntry (.override owner),
    perTable document "local_name_replacements" .openLocalRenamings fun owner =>
      perEntry (.renameLocally owner),
    whenMentioned document "ignored_funcs" (single Value.items .leaveUndeclared),
    whenMentioned document "unknown_type" (single .ok .setFallbackType),
    whenMentioned document "allowed_namespaces" fun value =>
      match value with
      | .null => .complete [.admitNamespaces none]
      | other => single Value.toSet (fun namespaces => .admitNamespaces (some namespaces)) other,
    whenMentioned document "removed_prefixes" (single Value.items .barStarts),
    perTable document "removed_names" .openBarredNames fun space names =>
      .ofOutcome names.items (single Value.asScalar (.barName space))]

/-- The edits of a corrections document. -/
def read (document : Value) : Progress Edit :=
  .concat [
    whenMentioned document "known_types" (single Value.items .addPlainTypes),
    whenMentioned document "known_classes" (perEntry .declareClass),
    whenMentioned document "known_aliases" (perEntry .declareAlias),
    whenMentioned document "disabled_diagnostics" (single Value.items .setDiagnostics),
    whenMentioned document "api_folder" (single .ok .setStubFolder),
    whenMentioned document "lua" fun value => (readDialect value).map (.amend .lua),
    whenMentioned document "teal" fun value => (readDialect value).map (.amend .teal)]

/-- Amend settings by a document. What the document says before a fault is made all the same. -/
def apply (settings : Settings) (document : Value) : Settings × Option Fault :=
  let progress := read document
  (Edit.applyAll settings progress.done, progress.fault?)

end Corrections

namespace Settings

/-- The settings amended by a document, or the fault that the document cannot be read. -/
def corrected (settings : Settings) (document : Value) : Outcome Settings :=
  match Corrections.apply settings document with
  | (result, none) => .ok result
  | (_, some fault) => .error fault

/-- The default settings, amended by the text of a corrections file when there is one. -/
def ofCorrections (text? : Option String) : Outcome Settings :=
  match text? with
  | none => .ok default
  | some text => (Json.read text).bind default.corrected

end Settings

end ApiStubs
