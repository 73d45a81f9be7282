import ApiStubs.Lua.File
import ApiStubs.Proofs.Outcome
import ApiStubs.Proofs.Reference.KnownModule
import Mathlib.Data.List.ReduceOption

/-!
# The Lua file of the known types

The module that is made of the known classes and aliases declares each of them: its file has a line
that opens the class, or one that tells what the alias stands for. No selection takes part in this,
so it holds as long as Lua selects every element.
-/

namespace ApiStubs

open ApiStubs.Value

namespace Lua

open ApiStubs.Reference

/-- The line that opens a class. -/
def classLine (name : String) : String :=
  "---@class " ++ name

/-- What the line of an alias begins with. -/
def aliasStart (name : String) : String :=
  "---@alias " ++ name ++ " "

/-! ## Elements -/

/-- A class of a name as it can be declared. -/
structure IsClass (name : String) (element : Value) : Prop where
  kind : element.field? "type" = some (.text "BASIC_CLASS")
  name : element.field? "name" = some (.text name)
  fields : element.Requires "fields" (IsTableOf fun _ => True)
  operators : element.Offers "operators" (IsNullOr (IsTableOf IsOperator))

/-- An alias of a name as it can be declared. -/
structure IsAlias (name : String) (element : Value) : Prop where
  kind : element.field? "type" = some (.text "BASIC_ALIAS")
  name : element.field? "name" = some (.text name)
  target : element.Requires "alias" IsText

/-- An operator has its line. -/
theorem exists_operatorLine (name : String) {operator : Value} (shaped : IsOperator operator) :
    ∃ line, operatorLine name operator = .ok line := by
  obtain ⟨result, found, _⟩ := shaped.result
  obtain ⟨fields, rfl⟩ := exists_record_of_field? found
  rw [operatorLine, Value.get, getOr_record, Outcome.ok_bind, require_eq_ok.2 found,
    Outcome.ok_bind]
  split <;> exact ⟨_, rfl⟩

/-- Whether a class is a global table is decided by its fields. -/
theorem IsClass.exists_isGlobalTable {name : String} {element : Value}
    (isClass : IsClass name element) : ∃ isGlobal, isGlobalTable element = .ok isGlobal := by
  obtain ⟨_, found, fields, rfl, _⟩ := isClass.fields
  obtain ⟨entries, rfl⟩ := exists_record_of_field? found
  have present : Table.get? entries "fields" = some (.record fields) := found
  rw [isGlobalTable, Value.get, getOr_record, Outcome.ok_bind, present]
  simp only [Option.getD_some, Value.get, getOr_record, Outcome.ok_bind]
  split <;> exact ⟨_, rfl⟩

/-- A class is declared, and its declaration begins with the line that opens it. -/
theorem IsClass.exists_declareClass {name : String} {element : Value}
    (isClass : IsClass name element) :
    ∃ others, declareClass element = .ok (Text.join "\n" (classLine name :: others)) := by
  obtain ⟨isGlobal, global⟩ := isClass.exists_isGlobalTable
  obtain ⟨_, found, fields, rfl, _⟩ := isClass.fields
  obtain ⟨entries, rfl⟩ := exists_record_of_field? found
  have hasFields : Table.has entries "fields" = true := by
    have present : Table.get? entries "fields" = some (.record fields) := found
    rw [Table.has, present, Option.isSome_some]
  obtain ⟨operators, read, isNullOrTable⟩ := isClass.operators.exists_get
  obtain ⟨table, isTable, shapes⟩ := isNullOrTable.orElse ⟨[], rfl, by simp [Table.All]⟩
  obtain ⟨lines, declared, _⟩ : ∃ lines,
      (Table.sorted table).mapM (fun operator => operatorLine operator.1 operator.2) = .ok lines ∧
        ∀ line ∈ lines, True := Outcome.exists_mapM fun operator member =>
    (exists_operatorLine operator.1 (shapes.sorted operator member)).imp fun _ line =>
      ⟨line, trivial⟩
  refine ⟨(if isGlobal then [tableLine name] else []) ++
    (((Table.sorted fields).filter fun field => field.1 != globalMark).map fun field =>
      s!"---@field {field.1} {field.2.display}") ++ lines, ?_⟩
  rw [declareClass, require_eq_ok.2 isClass.name]
  simp only [Outcome.ok_bind, hasKey_record, hasFields, global, require_eq_ok.2 found,
    sortedFields_record, read, isTable, declared]
  rfl

/-- An alias is declared by a line that tells what it stands for. -/
theorem IsAlias.exists_declareAlias {name : String} {element : Value}
    (isAlias : IsAlias name element) :
    ∃ target, declareAlias element = .ok (aliasStart name ++ target) := by
  obtain ⟨_, found, target, rfl⟩ := isAlias.target
  refine ⟨target, ?_⟩
  rw [declareAlias, require_eq_ok.2 isAlias.name, Outcome.ok_bind, require_eq_ok.2 found]
  rfl

/-! ## Files -/

/-- The lines of a declaration are lines of the declarations. -/
theorem mem_lines_joinDeclarations {declared : List (Kind × String)} {kind : Kind}
    {text line : String} (member : (kind, text) ∈ declared) (inside : line ∈ Text.lines text) :
    line ∈ Text.lines (joinDeclarations declared) := by
  induction declared with
  | nil => simp at member
  | cons first rest inductionHypothesis =>
      obtain ⟨firstKind, firstText⟩ := first
      cases rest with
      | nil =>
          obtain ⟨rfl, rfl⟩ := Prod.mk.inj (List.mem_singleton.1 member)
          exact inside
      | cons second others =>
          have split : line ∈ Text.lines firstText ∨
              line ∈ Text.lines (joinDeclarations (second :: others)) := by
            rcases List.mem_cons.1 member with isFirst | later
            · obtain ⟨rfl, rfl⟩ := Prod.mk.inj isFirst
              exact .inl inside
            · exact .inr (inductionHypothesis later)
          rw [joinDeclarations]
          split
          · exact Text.mem_lines_append_newline.2 split
          · exact Text.mem_lines_append_blank.2 (split.imp id .inr)

/-- Wrapping declarations into the table of a namespace keeps their lines. -/
theorem mem_lines_wrapNamespace (name : String) {body line : String}
    (inside : line ∈ Text.lines body) : line ∈ Text.lines (wrapNamespace name body) :=
  Text.mem_lines_append_blank.2 (.inl (Text.mem_lines_append_blank.2 (.inr (.inr inside))))

/-- Entries that can be declared are, each with its kind. -/
theorem exists_declarations {writer : StubWriter} {entries : List Entry}
    (each : ∀ entry ∈ entries, ∃ text?, declare? writer entry.kind entry.element = .ok text?) :
    ∃ declared, declarations writer entries = .ok declared ∧
      ∀ entry ∈ entries, ∀ text, declare? writer entry.kind entry.element = .ok (some text) →
        (entry.kind, text) ∈ declared := by
  induction entries with
  | nil => exact ⟨[], rfl, by simp⟩
  | cons entry rest inductionHypothesis =>
      obtain ⟨⟨text?, first⟩, others⟩ := List.forall_mem_cons.1 each
      obtain ⟨declared, later, declaredLater⟩ := inductionHypothesis others
      refine ⟨(text?.toList.map fun text => (entry.kind, text)) ++ declared, ?_, ?_⟩
      · rw [declarations, first, Outcome.ok_bind, later]
        rfl
      · refine List.forall_mem_cons.2 ⟨fun text isText => ?_, fun other member text isText => ?_⟩
        · rw [first] at isText
          obtain rfl := Except.ok.inj isText
          simp
        · exact List.mem_append_right _ (declaredLater other member text isText)

/-- Texts have an order. -/
theorem areComparable_of_isText {values : List Value} (texts : ∀ value ∈ values, value.IsText) :
    areComparable values = true := by
  rw [areComparable, decide_eq_true_iff]
  refine List.pairwise_of_forall_mem_list fun left isLeft right isRight => ?_
  obtain ⟨first, rfl⟩ := texts left isLeft
  obtain ⟨second, rfl⟩ := texts right isRight
  rw [isComparable, less_text]
  rfl

/-- Elements that are named by texts can be put in order, and none is lost or added. -/
theorem exists_orderedEntries {declarable : List (Kind × Value)}
    (named : ∀ pair ∈ declarable, pair.2.Requires "name" IsText) :
    ∃ entries, orderedEntries declarable = .ok entries ∧
      ∀ kind element, (kind, element) ∈ declarable ↔
        ∃ entry ∈ entries, entry.kind = kind ∧ entry.element = element := by
  let entryOf (pair : Kind × Value) : Outcome Entry := do
    return { kind := pair.1, name := ← pair.2.require "name", element := pair.2 }
  have each : ∀ pair ∈ declarable, ∃ entry, entryOf pair = .ok entry ∧ entry.name.IsText := by
    intro pair member
    obtain ⟨name, found, isText⟩ := (named pair member).exists_require
    refine ⟨{ kind := pair.1, name, element := pair.2 }, ?_, isText⟩
    simp only [entryOf, found]
    rfl
  obtain ⟨entries, read, texts⟩ := Outcome.exists_mapM each
  refine ⟨entries.mergeSort Entry.le, ?_, fun kind element => ?_⟩
  · have sortable : Entry.sort entries = .ok (entries.mergeSort Entry.le) := by
      rw [Entry.sort, if_pos (areComparable_of_isText (List.forall_mem_map.2 texts))]
    exact Outcome.bind_eq_ok.2 ⟨entries, read, sortable⟩
  · simp only [List.mem_mergeSort, Outcome.mem_mapM_iff read]
    constructor
    · intro member
      obtain ⟨entry, gives, _⟩ := each _ member
      have parts := gives
      simp only [entryOf, Outcome.bind_eq_ok, Outcome.pure_eq_ok] at parts
      obtain ⟨name, _, rfl⟩ := parts
      exact ⟨_, ⟨_, member, gives⟩, rfl, rfl⟩
    · rintro ⟨entry, ⟨pair, member, gives⟩, rfl, rfl⟩
      simp only [entryOf, Outcome.bind_eq_ok, Outcome.pure_eq_ok] at gives
      obtain ⟨name, _, rfl⟩ := gives
      exact member

/-- An element of a kind that has a declaration. -/
structure IsDeclaredAs (writer : StubWriter) (element : Value) (kind : Kind) (text : String) :
    Prop where
  name : element.Requires "name" IsText
  ofKind : Kind.of? element = .ok (some kind)
  declared : declare? writer kind element = .ok (some text)

/-- A class is declared, beginning with the line that opens it. -/
theorem IsClass.exists_isDeclaredAs {name : String} {element : Value}
    (isClass : IsClass name element) (writer : StubWriter) :
    ∃ others,
      IsDeclaredAs writer element .classType (Text.join "\n" (classLine name :: others)) := by
  obtain ⟨others, declared⟩ := isClass.exists_declareClass
  refine ⟨others, ⟨_, isClass.name, isText_text name⟩, ?_, ?_⟩
  · rw [Kind.of?, require_eq_ok.2 isClass.kind]
    rfl
  · simp only [declare?, declared]
    rfl

/-- An alias is declared by a line that tells what it stands for. -/
theorem IsAlias.exists_isDeclaredAs {name : String} {element : Value}
    (isAlias : IsAlias name element) (writer : StubWriter) :
    ∃ target, IsDeclaredAs writer element .aliasType (aliasStart name ++ target) := by
  obtain ⟨target, declared⟩ := isAlias.exists_declareAlias
  refine ⟨target, ⟨_, isAlias.name, isText_text name⟩, ?_, ?_⟩
  · rw [Kind.of?, require_eq_ok.2 isAlias.kind]
    rfl
  · simp only [declare?, declared]
    rfl

/-- Whether a name begins with a namespace is decided for elements that are named by texts. -/
theorem exists_needsNamespace {space : Value} (isText : space.IsText) {elements : List Value}
    (named : ∀ element ∈ elements, element.Requires "name" IsText) :
    ∃ needed, needsNamespace space elements = .ok needed := by
  obtain ⟨content, rfl⟩ := isText
  induction elements with
  | nil => exact ⟨false, rfl⟩
  | cons element rest inductionHypothesis =>
      obtain ⟨⟨_, found, name, rfl⟩, others⟩ := List.forall_mem_cons.1 named
      obtain ⟨later, decision⟩ := inductionHypothesis others
      rw [needsNamespace, belongsTo, require_eq_ok.2 found]
      simp only [Outcome.ok_bind, Value.asText, pure, Except.pure]
      split
      · exact ⟨true, rfl⟩
      · exact ⟨later, decision⟩

/-- The entry of an element that can be declared holds its kind and the element itself. -/
theorem Entry.of?_eq_some_iff {element shown : Value} {kind : Kind} :
    Entry.of? element = .ok (some (kind, shown)) ↔
      Kind.of? element = .ok (some kind) ∧ element = shown := by
  rw [Entry.of?]
  simp only [Outcome.bind_eq_ok, Outcome.pure_eq_ok, Option.map_eq_some_iff, Prod.mk.injEq]
  constructor
  · rintro ⟨_, ofKind, _, rfl, rfl, rfl⟩
    exact ⟨ofKind, rfl⟩
  · rintro ⟨ofKind, rfl⟩
    exact ⟨_, ofKind, _, rfl, rfl, rfl⟩

/-- A selection that bars nothing leaves a module as it is. -/
theorem select_everything {module : Value} {space : String}
    (found : module.field? "namespace" = some (.text space)) :
    ({} : Selection).select module = .ok module := by
  rw [Selection.select, require_eq_ok.2 found]
  rfl

/-- A text can be the title of a header that says nothing more. -/
theorem exists_header (writer : StubWriter) (version title : String) :
    ∃ top, header writer version (.text title) .null = .ok top := by
  have plain : ∃ plainText, Text.plain (.text title) = .ok plainText := by
    rw [Text.plain]
    split <;> exact ⟨_, rfl⟩
  obtain ⟨plainText, plain⟩ := plain
  rw [header, plain, Outcome.ok_bind]
  exact ⟨_, rfl⟩

/-- A module with a namespace, a brief and elements, and without a description. -/
structure IsPlainModule (module : Value) (elements : List Value) : Prop where
  space : module.Requires "namespace" IsText
  brief : module.Requires "brief" IsText
  undescribed : module.get "description" = .ok .null
  elements : module.field? "elements" = some (.list elements)

/-- Elements that have declarations are declarable, each by its own kind. -/
theorem exists_declarable {writer : StubWriter} {elements : List Value}
    (declared : ∀ element ∈ elements, ∃ kind text, IsDeclaredAs writer element kind text) :
    ∃ found, elements.mapM Entry.of? = .ok found ∧
      ∀ kind element, (kind, element) ∈ found.reduceOption ↔
        element ∈ elements ∧ Kind.of? element = .ok (some kind) := by
  have eachKind : ∀ element ∈ elements, ∃ found?, Entry.of? element = .ok found? ∧ True := by
    intro element member
    obtain ⟨kind, _, isDeclared⟩ := declared element member
    exact ⟨_, Entry.of?_eq_some_iff.2 ⟨isDeclared.ofKind, rfl⟩, trivial⟩
  obtain ⟨found, read, _⟩ := Outcome.exists_mapM eachKind
  refine ⟨found, read, fun kind element => ?_⟩
  simp only [List.reduceOption_mem_iff, Outcome.mem_mapM_iff read, Entry.of?_eq_some_iff]
  constructor
  · rintro ⟨_, member, ofKind, rfl⟩
    exact ⟨member, ofKind⟩
  · rintro ⟨member, ofKind⟩
    exact ⟨element, member, ofKind, rfl⟩

/-- Declarable elements that have declarations can be put in order and declared, and none of their
declarations is missing. -/
theorem exists_orderedDeclarations {writer : StubWriter} {elements : List Value}
    (declared : ∀ element ∈ elements, ∃ kind text, IsDeclaredAs writer element kind text)
    {declarable : List (Kind × Value)}
    (isDeclarable : ∀ kind element, (kind, element) ∈ declarable ↔
      element ∈ elements ∧ Kind.of? element = .ok (some kind)) :
    ∃ entries texts, orderedEntries declarable = .ok entries ∧
      declarations writer entries = .ok texts ∧
        ∀ element ∈ elements, ∀ kind text, IsDeclaredAs writer element kind text →
          (kind, text) ∈ texts := by
  have named : ∀ pair ∈ declarable, pair.2.Requires "name" IsText := by
    rintro ⟨kind, element⟩ member
    obtain ⟨_, _, isDeclared⟩ := declared element ((isDeclarable kind element).1 member).1
    exact isDeclared.name
  obtain ⟨entries, ordered, sameEntries⟩ := exists_orderedEntries named
  have each : ∀ entry ∈ entries,
      ∃ text?, declare? writer entry.kind entry.element = .ok text? := by
    intro entry member
    obtain ⟨among, ofKind⟩ :=
      (isDeclarable _ _).1 ((sameEntries _ _).2 ⟨entry, member, rfl, rfl⟩)
    obtain ⟨kind, text, isDeclared⟩ := declared _ among
    obtain rfl : entry.kind = kind := by
      simpa using ofKind.symm.trans isDeclared.ofKind
    exact ⟨_, isDeclared.declared⟩
  obtain ⟨texts, declares, isIn⟩ := exists_declarations each
  refine ⟨entries, texts, ordered, declares, fun element member kind text isDeclared => ?_⟩
  obtain ⟨entry, among, rfl, rfl⟩ :=
    (sameEntries kind element).1 ((isDeclarable _ _).2 ⟨member, isDeclared.ofKind⟩)
  exact isIn entry among text isDeclared.declared

/-- A module of which every element has a declaration, and which has at least one element, has a
file when Lua selects everything. The lines of each declaration are lines of the file. -/
theorem exists_moduleText {writer : StubWriter} (selectsAll : writer.settings.lua.selection = {})
    (version : String) {module : Value} {elements : List Value}
    (isPlain : IsPlainModule module elements) (nonempty : elements ≠ [])
    (declared : ∀ element ∈ elements, ∃ kind text, IsDeclaredAs writer element kind text) :
    ∃ text, moduleText? writer version module = .ok (some text) ∧
      ∀ element ∈ elements, ∀ kind declaration, IsDeclaredAs writer element kind declaration →
        ∀ line ∈ Text.lines declaration, line ∈ Text.lines text := by
  obtain ⟨_, hasSpace, space, rfl⟩ := isPlain.space
  obtain ⟨_, hasBrief, brief, rfl⟩ := isPlain.brief
  have named : ∀ element ∈ elements, element.Requires "name" IsText := by
    intro element member
    obtain ⟨_, _, isDeclared⟩ := declared element member
    exact isDeclared.name
  obtain ⟨found, read, isDeclarable⟩ := exists_declarable declared
  obtain ⟨needed, decision⟩ := exists_needsNamespace (isText_text space) named
  obtain ⟨entries, texts, ordered, declares, present⟩ :=
    exists_orderedDeclarations declared isDeclarable
  have someText : texts.isEmpty = false := by
    obtain ⟨element, member⟩ := List.exists_mem_of_ne_nil elements nonempty
    obtain ⟨kind, text, isDeclared⟩ := declared element member
    have among := present element member kind text isDeclared
    cases texts with
    | nil => simp at among
    | cons => rfl
  obtain ⟨top, isTop⟩ := exists_header writer version brief
  let wrapped := if needed then wrapNamespace space (joinDeclarations texts)
    else joinDeclarations texts
  refine ⟨top ++ "\n\n" ++ diagnosticLines writer ++ "\n\n" ++ wrapped ++ "\n", ?_, ?_⟩
  · rw [moduleText?, require_eq_ok.2 hasSpace, selectsAll, select_everything hasSpace]
    simp only [Outcome.ok_bind, require_eq_ok.2 isPlain.elements, Value.items, read, decision,
      ordered, declares, someText, require_eq_ok.2 hasBrief, isPlain.undescribed, isTop]
    rfl
  · intro element member kind declaration isDeclared line inside
    have inBody := mem_lines_joinDeclarations (present element member kind declaration isDeclared)
      inside
    have inWrapped : line ∈ Text.lines wrapped := by
      simp only [wrapped]
      split
      · exact mem_lines_wrapNamespace space inBody
      · exact inBody
    exact Text.mem_lines_concat_newline (Text.mem_lines_append_blank.2 (.inr (.inr inWrapped)))

/-! ## The module of the known types -/

/-- A known class has an element that can be declared. -/
theorem isClass_of_made {settings : Settings} (classes : settings.classes.All IsClassDeclaration)
    {name : String} {declaration element : Value} (isClass : (name, declaration) ∈ settings.classes)
    (made : knownClass name declaration = .ok element) : IsClass name element := by
  have declared := classes _ isClass
  have known := isKnownClass_of_made classes isClass made declared.fields declared.operators
  obtain ⟨_, found, fields, rfl, _⟩ := known.fields
  exact ⟨known.type, known.name, ⟨_, found, fields, rfl, fun _ _ => trivial⟩,
    fun operators present => .inr (known.operators operators present)⟩

/-- A known alias has an element that can be declared. -/
theorem isAlias_knownAlias (name : String) {target : Value} (isText : target.IsText) :
    IsAlias name (knownAlias name target) :=
  ⟨rfl, rfl, target, rfl, isText⟩

/-- Elements among which every known class and alias has one, and which are nothing else. -/
structure HoldsKnownTypes (settings : Settings) (elements : List Value) : Prop where
  classes : ∀ name ∈ settings.classes.keys, ∃ element ∈ elements, IsClass name element
  aliases : ∀ name ∈ settings.aliases.keys, ∃ element ∈ elements, IsAlias name element
  only : ∀ element ∈ elements, ∃ name, IsClass name element ∨ IsAlias name element

/-- The module of the known types can be made, and holds them. -/
theorem exists_knownModule {settings : Settings} (classes : settings.classes.All IsClassDeclaration)
    (aliases : settings.aliases.All IsText) :
    ∃ module elements, knownModule settings = .ok module ∧ IsPlainModule module elements ∧
      HoldsKnownTypes settings elements := by
  obtain ⟨module, elements, made, isKnown⟩ := exists_isKnownModule classes
  obtain ⟨fields, rfl⟩ := exists_record_of_field? isKnown.space
  have undescribed : (Value.record fields).get "description" = .ok .null := by
    have found : Table.get? fields "description" = some .null := isKnown.description
    rw [Value.get, getOr_record, found, Option.getD_some]
  refine ⟨_, elements, made, ⟨⟨_, isKnown.space, isText_text _⟩, ⟨_, isKnown.brief, isText_text _⟩,
    undescribed, isKnown.listed⟩, ⟨fun name isKey => ?_, fun name isKey => ?_, ?_⟩⟩
  · obtain ⟨⟨_, declaration⟩, member, rfl⟩ := List.mem_map.1 isKey
    have declared := classes _ member
    obtain ⟨element, makes, _⟩ :=
      exists_isKnownClass _ declared.isRecord declared.fields declared.operators
    exact ⟨element, (isKnown.mem_iff element).2 ⟨_, .classType member makes⟩,
      isClass_of_made classes member makes⟩
  · obtain ⟨⟨_, target⟩, member, rfl⟩ := List.mem_map.1 isKey
    exact ⟨_, (isKnown.mem_iff _).2 ⟨_, .aliasType member⟩,
      isAlias_knownAlias _ (aliases _ member)⟩
  · intro element member
    obtain ⟨name, ⟨isClass, makes⟩ | ⟨isAlias⟩⟩ := (isKnown.mem_iff element).1 member
    · exact ⟨name, .inl (isClass_of_made classes isClass makes)⟩
    · exact ⟨name, .inr (isAlias_knownAlias name (aliases _ isAlias))⟩

/-- The file of the known types has the line of every known class, and for every known alias a line
that tells what it stands for. -/
theorem exists_knownModule_text {writer : StubWriter}
    (selectsAll : writer.settings.lua.selection = {})
    (classes : writer.settings.classes.All IsClassDeclaration)
    (aliases : writer.settings.aliases.All IsText) (nonempty : writer.settings.classes ≠ [])
    (version : String) :
    ∃ module text, knownModule writer.settings = .ok module ∧
      moduleText? writer version module = .ok (some text) ∧
      (∀ name ∈ writer.settings.classes.keys, '\n' ∉ name.toList →
        classLine name ∈ Text.lines text) ∧
      ∀ name ∈ writer.settings.aliases.keys, '\n' ∉ name.toList →
        ∃ line ∈ Text.lines text, Text.beginsWith line (aliasStart name) = true := by
  obtain ⟨module, elements, isModule, isPlain, holds⟩ := exists_knownModule classes aliases
  have declared : ∀ element ∈ elements, ∃ kind text, IsDeclaredAs writer element kind text := by
    intro element member
    obtain ⟨name, isClass | isAlias⟩ := holds.only element member
    · obtain ⟨others, isDeclared⟩ := isClass.exists_isDeclaredAs writer
      exact ⟨_, _, isDeclared⟩
    · obtain ⟨target, isDeclared⟩ := isAlias.exists_isDeclaredAs writer
      exact ⟨_, _, isDeclared⟩
  have someElement : elements ≠ [] := by
    obtain ⟨entry, member⟩ := List.exists_mem_of_ne_nil _ nonempty
    obtain ⟨element, among, _⟩ := holds.classes entry.1 (List.mem_map_of_mem member)
    exact List.ne_nil_of_mem among
  obtain ⟨text, isText, inText⟩ :=
    exists_moduleText selectsAll version isPlain someElement declared
  refine ⟨module, text, isModule, isText, fun name isKey singleLine => ?_,
    fun name isKey singleLine => ?_⟩
  · obtain ⟨element, member, isClass⟩ := holds.classes name isKey
    obtain ⟨others, isDeclared⟩ := isClass.exists_isDeclaredAs writer
    have absent : '\n' ∉ (classLine name).toList := by
      simpa [classLine] using singleLine
    refine inText element member _ _ isDeclared _ ?_
    rw [Text.lines_join (by simp), List.flatMap_cons, Text.lines_of_not_mem absent]
    exact List.mem_append_left _ (List.mem_singleton_self _)
  · obtain ⟨element, member, isAlias⟩ := holds.aliases name isKey
    obtain ⟨target, isDeclared⟩ := isAlias.exists_isDeclaredAs writer
    have absent : '\n' ∉ (aliasStart name).toList := by
      simpa [aliasStart] using singleLine
    obtain ⟨line, isLine, begins⟩ := Text.exists_line_beginsWith absent target
    exact ⟨line, inText element member _ _ isDeclared line isLine, begins⟩

end Lua

end ApiStubs
