import ApiStubs.Proofs.Lua.KnownTypes
import ApiStubs.Proofs.Reference.Mentions
import ApiStubs.Proofs.Settings.LeftAlone
import ApiStubs.Proofs.Teal.Arrangement
import ApiStubs.Proofs.Teal.Assembly
import ApiStubs.Proofs.Teal.Faults
import ApiStubs.Proofs.Types.Regrouping

/-!
# What the known types mention in Teal

The known classes mention other known types in their fields and operators. Teal writes such a type
as it is, unless a substitution stands in its place, and declares the known types that its rules do
not leave out. Two tables decide about this, one about what is written and one about what is left
out; so, where nothing but plain and known types is mentioned,

- what is written for a mentioned type is `any`, a plain type, a substitution or a known name
  (`exists_isWrittenFor`),
- a known name is declared in the same file, or a rule leaves it out (`isAccountedFor_of_knows`),
- hence every base in the lines of fields and operators is accounted for
  (`known_types_accounted_for`).

A name that is left out can still be mentioned, and a name with a bar in it is read as two types:
`mentioned_types_not_declared` has one class or alias for each rule, and such a name.
-/

namespace ApiStubs

open ApiStubs.Reference ApiStubs.Value ApiStubs.Types

namespace Teal

/-- A base that is accounted for in a file for which some declarations are asked: the unknown type,
a plain type, a substitution, the name of a class or alias of the file, or that of a known class or
alias which a rule of Teal leaves out and in whose place no substitution stands. -/
inductive IsAccountedFor (settings : Settings) (calls : List Call) : String → Prop
  | unknown : IsAccountedFor settings calls "any"
  | plain {base : String} (isPlain : base ∈ Settings.defaultPlainTypes) :
      IsAccountedFor settings calls base
  | substitute {type base : String}
      (stands : settings.teal.substitutions.get? type = some (.text base)) :
      IsAccountedFor settings calls base
  | declared {call : Call} (made : call ∈ calls)
      (isType : call.kind = .classType ∨ call.kind = .aliasType) :
      IsAccountedFor settings calls call.fullName
  | leftOut {name : String} {element : Value} (isKnown : IsKnownElement settings name element)
      (bars : Bars settings.teal.selection knownNamespace element)
      (free : settings.teal.substitutions.get? name = none) : IsAccountedFor settings calls name

/-! ## What is written -/

/-- What is written for a documented type of a member of a class: the types that are joined for it,
each of which is an accounted base inside tables. -/
def IsWrittenFor (writer : StubWriter) (accounted : String → Prop) (owner name documented : String)
    (written : String) : Prop :=
  ∃ types, (writer.speller .teal).joined (.text documented)
      { owner := .text owner, name := .text name } = .ok types ∧
    (written = if Text.join "|" types = "" then "any" else Text.join "|" types) ∧
    ∀ type ∈ types, ∃ base depth, type = insideTables base depth ∧ accounted base

/-- The parts of a field: a comment, and its name with what is written for its type; none for a
field that is no text. -/
inductive IsFieldOf (writer : StubWriter) (accounted : String → Prop) (owner : String) :
    String × Value → List Part → Prop
  | typed {name text written : String} (texts : List String)
      (isWritten : IsWrittenFor writer accounted owner name (Text.splitField text).1 written) :
      IsFieldOf writer accounted owner (name, .text text)
        (remarks texts ++ [.line (name ++ ": " ++ written)])
  | untyped {name : String} {field : Value} (noText : ∀ text, field ≠ .text text) :
      IsFieldOf writer accounted owner (name, field) []

/-- The line of an operator of a class, whose first operand is the class itself. -/
inductive IsOperatorOf (writer : StubWriter) (accounted : String → Prop)
    (owner className : String) : String × Value → List Part → Prop
  | mk {name documented result : String} {operator : Value} (param? : Option String)
      (isParam : ∀ param, param? = some param → ∃ documented,
        operator.field? "param" = some (.text documented) ∧
          IsWrittenFor writer accounted owner name documented param)
      (hasResult : operator.field? "result" = some (.text documented))
      (isResult : IsWrittenFor writer accounted owner name documented result) :
      IsOperatorOf writer accounted owner className (name, operator)
        [.line ("metamethod __" ++ name ++ ": function(" ++
          Text.join ", " (className :: param?.toList) ++ "): " ++ result)]

/-- The declaration of a class in which every base is accounted for: its fields and its operators,
each in ascending order. -/
inductive IsClassOf (writer : StubWriter) (accounted : String → Prop) (owner : String)
    (element : Value) : Declaration → Prop
  | mk {name : String} {fields operators : Table Value} {given : Value}
      {fieldLines operatorLines : List (List Part)}
      (named : element.field? "name" = some (.text name))
      (hasFields : element.field? "fields" = some (.record fields))
      (read : element.get "operators" = .ok given)
      (hasOperators : given.orElse (.record []) = .record operators)
      (areFields : List.Forall₂ (IsFieldOf writer accounted owner) fields.sorted fieldLines)
      (areOperators : List.Forall₂ (IsOperatorOf writer accounted owner name) operators.sorted
        operatorLines) :
      IsClassOf writer accounted owner element
        (classDeclaration name fieldLines.flatten operatorLines.flatten)

section Writer

variable {writer : StubWriter} (isDefault : writer.settings.teal = Settings.defaultTeal)
  {calls : List Call}
  (known : ∀ name, writer.settings.Knows name →
    writer.settings.teal.substitutions.get? name = none → IsAccountedFor writer.settings calls name)

include isDefault known

/-- What is written for a text that mentions plain and known types only is accounted for when the
known names are. -/
theorem exists_isWrittenFor {documented : String}
    (mentions : writer.settings.CanMention documented) (owner name : String) :
    ∃ written, spellFor writer (.text documented) (.text owner) (.text name) = .ok (.text written) ∧
      IsWrittenFor writer (IsAccountedFor writer.settings calls) owner name documented written := by
  have permissive : (writer.speller .teal).dialect.IsPermissive := by
    have same : (writer.speller .teal).dialect = Settings.defaultTeal := isDefault
    rw [same]
    exact Settings.isPermissive_defaultTeal
  obtain ⟨types, joins, each⟩ := Speller.exists_joined_of_isPermissive permissive
    (fun raw member => (mentions raw member).1) owner name
  refine ⟨_, ?_, types, joins, rfl, fun type member => ?_⟩
  · rw [spellFor, Speller.spell, joins, Outcome.ok_bind, permissive.fallbackType,
      apply_ite Value.text]
    rfl
  · obtain ⟨base, depth, rfl, rfl | ⟨raw, among, isBase⟩⟩ := each type member
    · exact ⟨"any", depth, rfl, .unknown⟩
    · refine ⟨base, depth, rfl, ?_⟩
      cases isBase with
      | substitute stands => exact .substitute stands
      | callable => exact .plain (by decide)
      | itself free =>
          rcases (mentions raw among).2 with isPlain | isKnown
          · exact .plain isPlain
          · exact known _ isKnown free

/-- A field that mentions plain and known types only has accounted parts. -/
theorem exists_isFieldOf (owner : String) (field : String × Value)
    (mentions : MentionsInField writer.settings.CanMention field.2) :
    ∃ parts, fieldParts writer (.text owner) field.1 field.2 = .ok parts ∧
      IsFieldOf writer (IsAccountedFor writer.settings calls) owner field parts := by
  obtain ⟨name, raw⟩ := field
  cases raw with
  | text text =>
      obtain ⟨comment, commented⟩ :=
        exists_commentParts (.inr (isText_text (Text.splitField text).2))
      obtain ⟨texts, rfl⟩ := exists_remarks_of_commentParts commented
      obtain ⟨written, spelled, isWritten⟩ :=
        exists_isWrittenFor isDefault known (mentions text rfl) owner name
      refine ⟨_, ?_, .typed texts isWritten⟩
      simp only [fieldParts, commented, spelled, Outcome.ok_bind]
      rfl
  | _ => exact ⟨[], rfl, .untyped fun _ isText => by cases isText⟩

/-- An operator that mentions plain and known types only has an accounted line. -/
theorem exists_isOperatorOf (owner className : String) (operator : String × Value)
    (isOperator : IsOperator operator.2)
    (mentions : MentionsInOperator writer.settings.CanMention operator.2) :
    ∃ parts, operatorParts writer (.text className) (.text owner) operator.1 operator.2 =
      .ok parts ∧
      IsOperatorOf writer (IsAccountedFor writer.settings calls) owner className operator
        parts := by
  obtain ⟨name, operator⟩ := operator
  obtain ⟨_, found, documented, rfl⟩ := isOperator.result
  obtain ⟨fields, rfl⟩ := exists_record_of_field? found
  obtain ⟨result, spelledResult, isResult⟩ :=
    exists_isWrittenFor isDefault known (mentions.result _ found documented rfl) owner name
  obtain ⟨param, read, isNullOrText⟩ := isOperator.param.exists_get
  rw [operatorParts, read, Outcome.ok_bind]
  split
  · next given =>
      rcases isNullOrText with rfl | ⟨documentedParam, rfl⟩
      · simp [isGiven] at given
      · have present := field?_of_get read (by simp)
        obtain ⟨written, spelled, isWritten⟩ := exists_isWrittenFor isDefault known
          (mentions.param _ present documentedParam rfl) owner name
        refine ⟨_, ?_, .mk (some written) ?_ found isResult⟩
        · simp only [spelled, require_eq_ok.2 found, spelledResult, Outcome.ok_bind, pure_bind]
          rfl
        · intro param isParam
          obtain rfl := Option.some.inj isParam
          exact ⟨documentedParam, present, isWritten⟩
  · refine ⟨_, ?_, .mk none (fun _ isParam => by cases isParam) found isResult⟩
    simp only [require_eq_ok.2 found, spelledResult, Outcome.ok_bind, pure_bind]
    rfl

/-- A documented class that mentions plain and known types only has an accounted declaration. -/
theorem exists_isClassOf {element : Value} (documented : IsDocumentedElement element)
    (hasFields : element.Requires "fields"
      (IsTableOf (MentionsInField writer.settings.CanMention)))
    (hasOperators : element.Offers "operators"
      (IsTableOf (MentionsInOperator writer.settings.CanMention))) (owner : String) :
    ∃ declaration, declareClass writer element (.text owner) = .ok declaration ∧
      IsClassOf writer (IsAccountedFor writer.settings calls) owner element declaration := by
  obtain ⟨name, named⟩ := documented.name
  obtain ⟨_, foundFields, fields, rfl, mentions⟩ := hasFields
  have offered : element.Offers "operators" (IsNullOr (IsTableOf fun operator =>
      IsOperator operator ∧ MentionsInOperator writer.settings.CanMention operator)) := by
    intro found present
    rcases documented.operators found present with isNull | ⟨operators, rfl, shapes⟩
    · exact .inl isNull
    · obtain ⟨_, same, mentionsInOperators⟩ := hasOperators _ present
      obtain rfl := Value.record.inj same
      exact .inr ⟨operators, rfl, fun entry member =>
        ⟨shapes entry member, mentionsInOperators entry member⟩⟩
  obtain ⟨given, read, isNullOrTable⟩ := documented.exists_get offered
  obtain ⟨operators, isTable, areOperators⟩ :=
    isNullOrTable.orElse ⟨[], rfl, fun entry member => nomatch member⟩
  obtain ⟨fieldLines, madeFields, areFields⟩ := Outcome.exists_matched_mapM
    fun field (member : field ∈ Table.sorted fields) => exists_isFieldOf isDefault known owner field
      (mentions field (List.mem_mergeSort.1 member))
  obtain ⟨operatorLines, madeOperators, areLines⟩ := Outcome.exists_matched_mapM
    fun operator (member : operator ∈ Table.sorted operators) =>
      have ⟨isOperator, mentionsHere⟩ := areOperators operator (List.mem_mergeSort.1 member)
      exists_isOperatorOf isDefault known owner name operator isOperator mentionsHere
  exact ⟨_, declareClass_eq_ok named foundFields read isTable madeFields madeOperators,
    .mk named foundFields read isTable areFields areLines⟩

end Writer

/-! ## What is declared -/

/-- The file of the known types of settings: what it is written with and from, its lines, and the
declarations asked for on the way through its groups. -/
structure KnownFile (settings : Settings) (version : String) where
  writer : StubWriter
  module : Value
  lines : List String
  root : Group
  parts : List Part
  calls : List Call
  knows : StubWriter.ofSettings settings = .ok writer
  declares : knownModule settings = .ok module
  rendered : renderLines writer version [module] = .ok lines
  grouped : Group.ofModules settings.teal.selection [module] = .ok root
  run : (groupParts (watch (declareWith writer)) [] root).run [] = .ok (parts, calls)
  written : lines = Part.linesOf "" (header writer version) ++ Part.linesOf "" (Part.expose parts)

section File

variable {settings : Settings} (shaped : settings.IsShaped)
  (isDefault : settings.teal = Settings.defaultTeal) {version : String}

include shaped isDefault

/-- The known types have a file, as no known class lacks its fields. -/
theorem exists_knownFile (version : String) : Nonempty (KnownFile settings version) := by
  obtain ⟨writer, knows, rfl, _⟩ := Lua.exists_ofSettings shaped
  obtain ⟨module, elements, declares, isKnown⟩ := exists_isKnownModule shaped.classes
  have documented : ∀ source ∈ [module], IsDocumentedModule source :=
    List.forall_mem_singleton.2 (isKnown.isDocumentedModule shaped)
  have fills : writer.settings.teal.FillsArrays := by
    rw [isDefault]
    exact .of_pieces pieces_tablePattern
  cases outcome : renderLines writer version [module] with
  | ok lines =>
      obtain ⟨root, grouped, parts, renders, joined⟩ := by
        simpa only [renderLines, Outcome.bind_eq_ok, Outcome.pure_eq_ok] using outcome
      obtain ⟨_, _, _, _, held⟩ := Group.holds_of_ofModules grouped
      obtain ⟨calls, run, _⟩ :=
        (declarations_asked_for (declareWith writer) held.tidy [] []).2 parts renders
      exact ⟨⟨writer, module, lines, root, parts, calls, knows, declares, outcome, grouped, run,
        joined.symm⟩⟩
  | error fault =>
      obtain ⟨source, isModule, name, ⟨selected, kept, selects, read, element, inside, bare⟩, _⟩ :=
        fault_of_renderLines shaped.teal documented fills outcome
      obtain rfl := List.mem_singleton.1 isModule
      obtain ⟨members, isRead, among⟩ := narrows_select selects kept read element inside
      obtain rfl := Except.ok.inj (isKnown.membersOf_eq.symm.trans isRead)
      obtain ⟨_, isElement⟩ := (isKnown.mem_iff element).1 among
      exact absurd bare (isElement.not_isBareClass shaped name)

end File

namespace KnownFile

variable {settings : Settings} {version : String} (file : KnownFile settings version)

/-- The file is written with a writer that has the settings. -/
theorem settings_writer : file.writer.settings = settings := by
  have knows := file.knows
  simp only [StubWriter.ofSettings, Outcome.bind_eq_ok, Outcome.pure_eq_ok] at knows
  obtain ⟨known, _, same⟩ := knows
  exact (congrArg StubWriter.settings same).symm

/-- Its groups hold the elements that Teal selects, and exactly the declarations of these are asked
for; all are answered. -/
theorem exists_declared : ∃ selected declared,
    settings.teal.selection.selectAll [file.module] = .ok selected ∧
      elementsOf selected = .ok declared ∧ file.root.Holds declared ∧
      (∀ call ∈ file.calls, call.IsAnswered (declareWith file.writer)) ∧
      ∀ call, call ∈ file.calls ↔ IsAskedFor [] file.root call := by
  obtain ⟨selected, declared, selects, read, held⟩ := Group.holds_of_ofModules file.grouped
  obtain ⟨_, answered, isAsked⟩ :=
    (declarations_asked_for (declareWith file.writer) held.tidy []).of_run file.run
  exact ⟨selected, declared, selects, read, held, answered, isAsked⟩

variable (shaped : settings.IsShaped)

include shaped

/-- The module of the file is that of the known types. -/
theorem exists_elements : ∃ elements, IsKnownModule settings file.module elements := by
  obtain ⟨module, elements, declares, isKnown⟩ := exists_isKnownModule shaped.classes
  obtain rfl := Except.ok.inj (file.declares.symm.trans declares)
  exact ⟨elements, isKnown⟩

/-- A declaration asked for is that of a known class or alias which no rule of Teal leaves out. -/
theorem exists_element_of_call {call : Call} (asked : call ∈ file.calls) :
    ∃ element, IsKnownElement settings call.fullName element ∧ call.Concerns element ∧
      ¬ Bars settings.teal.selection knownNamespace element := by
  obtain ⟨elements, isKnown⟩ := file.exists_elements shaped
  obtain ⟨selected, declared, selects, read, held, _, isAsked⟩ := file.exists_declared
  obtain ⟨element, member, concerns⟩ := exists_concerns held ((isAsked call).1 asked)
  obtain ⟨source, isModule, chosen, kept, selectsModule, isRead, inside⟩ :=
    (mem_selected_iff selects read).1 member
  obtain rfl := List.mem_singleton.1 isModule
  obtain ⟨members, readAgain, among⟩ := narrows_select selectsModule kept isRead element inside
  obtain rfl := Except.ok.inj (isKnown.membersOf_eq.symm.trans readAgain)
  obtain ⟨name, isElement⟩ := (isKnown.mem_iff element).1 among
  have named := (isElement.isDocumentedElement shaped).2
  obtain rfl := Value.text.inj (Option.some.inj (concerns.fullName.symm.trans named))
  exact ⟨element, isElement, concerns,
    not_bars_of_mem_select isKnown.space selectsModule isRead inside⟩

/-- No declaration has the name of known classes and aliases that the rules of Teal leave out. -/
theorem fullName_ne_of_bars {name : String}
    (bars : ∀ element, IsKnownElement settings name element →
      Bars settings.teal.selection knownNamespace element) :
    ∀ call ∈ file.calls, call.fullName ≠ name := by
  rintro call asked rfl
  obtain ⟨element, isElement, _, unbarred⟩ := file.exists_element_of_call shaped asked
  exact unbarred (bars element isElement)

variable (isDefault : settings.teal = Settings.defaultTeal)

include isDefault

/-- A declaration is asked for every known class and alias that no rule of Teal leaves out. -/
theorem exists_call_of_element {name : String} {element : Value}
    (isElement : IsKnownElement settings name element)
    (unbarred : ¬ Bars settings.teal.selection knownNamespace element) :
    ∃ call ∈ file.calls, call.fullName = name ∧ call.Concerns element := by
  obtain ⟨elements, isKnown⟩ := file.exists_elements shaped
  obtain ⟨selected, declared, selects, read, held, _, isAsked⟩ := file.exists_declared
  have admitted : settings.teal.selection.admits (.text knownNamespace) = .ok true := by
    rw [isDefault]
    rfl
  obtain ⟨documented, named⟩ := isElement.isDocumentedElement shaped
  obtain ⟨chosen, kept, selectsModule, _⟩ :=
    (isKnown.isDocumentedModule shaped).exists_kept shaped.teal.hasTextStarts
  obtain ⟨remaining, readAgain, inside⟩ := keeps_select shaped.teal.hasTextStarts isKnown.space
    admitted documented.isElement unbarred selectsModule elements isKnown.membersOf_eq
    ((isKnown.mem_iff element).2 ⟨name, isElement⟩)
  have member : element ∈ declared := (mem_selected_iff selects read).2
    ⟨file.module, List.mem_singleton_self _, chosen, remaining, selectsModule, readAgain, inside⟩
  obtain ⟨kind, ofKind, _⟩ := isElement.exists_kind shaped
  obtain ⟨call, asked, _, concerns⟩ := exists_isAskedFor held member ofKind
  refine ⟨call, (isAsked call).2 asked, ?_, concerns⟩
  exact Value.text.inj (Option.some.inj (concerns.fullName.symm.trans named))

/-- A known name is declared in the file, or a rule of Teal leaves it out. -/
theorem isAccountedFor_of_knows {name : String} (known : settings.Knows name)
    (free : settings.teal.substitutions.get? name = none) :
    IsAccountedFor settings file.calls name := by
  obtain ⟨element, isElement⟩ := exists_isKnownElement shaped.classes known
  by_cases bars : Bars settings.teal.selection knownNamespace element
  · exact .leftOut isElement bars free
  · obtain ⟨call, asked, rfl, concerns⟩ :=
      file.exists_call_of_element shaped isDefault isElement bars
    obtain ⟨kind, ofKind, isType⟩ := isElement.exists_kind shaped
    have same : call.kind = kind := by simpa using concerns.kind.symm.trans ofKind
    exact .declared asked (same ▸ isType)

end KnownFile

/-- The declaration asked for is that of a known alias, or that of a known class in which every base
is accounted for. -/
def Call.IsOfKnownType (writer : StubWriter) (calls : List Call) (call : Call)
    (declaration : Declaration) : Prop :=
  call.kind = .aliasType ∨ call.kind = .classType ∧
    IsClassOf writer (IsAccountedFor writer.settings calls) call.fullName call.element declaration

/-- A declaration asked for a known class or alias is made, and for a class every base in it is
accounted for when the known names are. -/
theorem exists_isOfKnownType {writer : StubWriter} {settings : Settings}
    (same : writer.settings = settings) (shaped : settings.IsShaped)
    (isDefault : settings.teal = Settings.defaultTeal)
    (mentions : settings.classes.All (MentionsInClass settings.CanMention)) {calls : List Call}
    (known : ∀ name, settings.Knows name → settings.teal.substitutions.get? name = none →
      IsAccountedFor settings calls name) {name : String} {element : Value}
    (isElement : IsKnownElement settings name element) {call : Call}
    (concerns : call.Concerns element) (answered : call.IsAnswered (declareWith writer)) :
    ∃ declaration, call.Makes (declareWith writer) declaration ∧
      call.IsOfKnownType writer calls declaration := by
  subst same
  obtain ⟨path, appears, _⟩ := concerns.shown
  cases isElement with
  | @classType declaration _ isClass made =>
      have mentionsHere := mentions _ isClass
      have isKnown := isKnownClass_of_made shaped.classes isClass made mentionsHere.fields
        mentionsHere.operators
      have documented := appears.isDocumentedElement
        ((IsKnownElement.classType isClass made).isDocumentedElement shaped).1
      have ofKind : call.kind = .classType := by
        have isKind : Kind.of? element = .ok (some .classType) := kind_of_typed isKnown.type
        simpa using concerns.kind.symm.trans isKind
      obtain ⟨fields, found, areFields⟩ := isKnown.fields
      have hasFields : call.element.Requires "fields"
          (IsTableOf (MentionsInField writer.settings.CanMention)) :=
        ⟨fields, (appears.others "fields" (by decide)).trans found, areFields⟩
      have hasOperators : call.element.Offers "operators"
          (IsTableOf (MentionsInOperator writer.settings.CanMention)) := by
        intro operators present
        exact isKnown.operators operators
          ((appears.others "operators" (by decide)).symm.trans present)
      obtain ⟨declaration, declares, isClassOf⟩ :=
        exists_isClassOf isDefault known documented hasFields hasOperators call.fullName
      refine ⟨declaration, ?_, .inr ⟨ofKind, isClassOf⟩⟩
      rw [Call.Makes, ofKind, declareWith, declare?, declares]
      rfl
  | @aliasType target isAlias =>
      have ofKind : call.kind = .aliasType := by
        have isKind : Kind.of? (knownAlias name target) = .ok (some .aliasType) := rfl
        simpa using concerns.kind.symm.trans isKind
      obtain ⟨declared?, declared⟩ := answered
      cases declared? with
      | none =>
          have isFunction := eq_function_of_declareWith declared
          rw [ofKind] at isFunction
          cases isFunction
      | some declaration => exact ⟨declaration, declared, .inl ofKind⟩

/-- Nothing that the known types mention in Teal is unaccounted for. After any corrections that
leave alone the plain types and Teal, the known types have a file when their classes mention plain
and known types only. The file is assembled of the declarations that are asked for on the way
through its groups, all of which are made and are those of known classes and aliases. Each type in a
line of a field or operator is, inside tables, the unknown type, a plain type, a substitution, the
name of a class or alias that is declared on that way, or that of a known class or alias which a
rule of Teal leaves out. -/
theorem known_types_accounted_for {settings : Settings}
    (reached : settings.IsReached fun document _ _ => Corrections.LeavesTeal document)
    (mentions : settings.classes.All (MentionsInClass settings.CanMention)) (version : String) :
    ∃ file : KnownFile settings version,
      Assembles (declareWith file.writer) file.calls file.parts ∧
      ∀ call ∈ file.calls, ∃ declaration, call.Makes (declareWith file.writer) declaration ∧
        call.IsOfKnownType file.writer file.calls declaration := by
  obtain ⟨shaped, _⟩ := reached.keeps
  obtain ⟨_, isDefault⟩ := reached.leavesTeal
  obtain ⟨file⟩ := exists_knownFile shaped isDefault version
  obtain ⟨_, _, _, _, _, answered, _⟩ := file.exists_declared
  refine ⟨file, ((watches_assembly file.root []).of_run file.run).2.2, fun call asked => ?_⟩
  obtain ⟨element, isElement, concerns, _⟩ := file.exists_element_of_call shaped asked
  exact exists_isOfKnownType file.settings_writer shaped isDefault mentions
    (fun name known free => file.isAccountedFor_of_knows shaped isDefault known free) isElement
    concerns (answered call asked)

/-- After a correction that knows a class in a group, with an array of a new alias for a field and
an operator on the class itself, every base is accounted for. -/
theorem known_types_accounted_for_after_correction :
    let body : Value := Settings.classWithOperators
      [("mass", "number The mass"), ("owner", "handle_type[]")]
      [("eq", Settings.binaryOperator "b2d.body" "boolean")]
    let document : Value := .record [("known_classes", .record [("b2d.body", body)]),
      ("known_aliases", .record [("handle_type", .text "number")])]
    let settings := (Corrections.apply .default document).1
    settings.IsReached (fun document _ _ => Corrections.LeavesTeal document) ∧
      settings.classes.All (MentionsInClass settings.CanMention) ∧
      ∃ file : KnownFile settings "1.9.0",
        ∀ call ∈ file.calls, ∃ declaration, call.Makes (declareWith file.writer) declaration ∧
          call.IsOfKnownType file.writer file.calls declaration := by
  intro body document settings
  have isClass : IsClassDeclaration body :=
    Settings.isClassDeclaration_classWithOperators _
      (List.forall_mem_singleton.2 (Settings.isOperator_binaryOperator ..))
  have isDocument : Corrections.IsDocument document := by
    constructor <;>
      simp [document, Offers, Value.field?_record, Table.get?_cons, IsTableOf, Table.All, isClass]
  have reached : settings.IsReached fun document _ _ => Corrections.LeavesTeal document :=
    .corrected .default isDocument ⟨rfl, rfl⟩ rfl
  have mentions : settings.classes.All (MentionsInClass settings.CanMention) := by
    have classes : settings.classes = Settings.defaultClasses.set "b2d.body" body := rfl
    have namesOne : Table.All (MentionsInClass settings.NamesOne) settings.classes := by
      rw [classes]
      refine (Settings.all_mentionsInClass_defaultClasses reached.keeps.2).set ?_ "b2d.body"
      refine mentionsInClass_classWithOperators (by decide +kernel) (List.forall_mem_singleton.2 ?_)
      exact mentionsInOperator_binaryOperator (by decide +kernel) (by decide +kernel)
    exact fun entry member => (namesOne entry member).mono fun _ => Settings.NamesOne.canMention
  obtain ⟨file, _, each⟩ := known_types_accounted_for reached mentions "1.9.0"
  exact ⟨reached, mentions, file, each⟩

/-! ## What is left out -/

/-- A class of text fields is left out only by its name. -/
theorem not_bars_plainClass {selection : Selection} {space name field type : String}
    {element : Value} (made : knownClass name (Settings.plainClass [(field, type)]) = .ok element)
    (starts : (beginsWithAny name selection.barredStarts).toOption = some false)
    (names : (Value.text name).memberOf ((selection.barredNames.get? space).getD []) = false) :
    ¬ Bars selection space element := by
  obtain ⟨named, read⟩ : element.field? "name" = some (.text name) ∧
      element.get "fields" = .ok (.record [(field, .text type)]) := by
    obtain rfl := Except.ok.inj made
    exact ⟨rfl, rfl⟩
  intro bars
  cases bars with
  | start begins =>
      rw [Selection.hasBarredStart_of_named named] at begins
      cases (Outcome.toOption_eq_some.1 starts).symm.trans begins
  | globalTable _ isGlobal =>
      rw [isGlobalTable, read] at isGlobal
      simp only [Outcome.ok_bind, Value.get, Value.getOr_record, Table.get?_cons] at isGlobal
      split at isGlobal
      · next marked => by_cases isMark : globalMark = field <;> simp [isMark] at marked
      · cases isGlobal
  | name barred isNamed =>
      rw [barred, Option.getD_some] at names
      rw [Selection.isNamedIn_of_named named] at isNamed
      cases names.symm.trans (Except.ok.inj isNamed)

/-- In the file of the known types a text is written as what its spellings come to. -/
theorem KnownFile.spellFor_of_spellings {settings : Settings} {version : String}
    (file : KnownFile settings version) (isDefault : settings.teal = Settings.defaultTeal)
    {documented owner name : String} (types : List String)
    (spelled : ((((StubWriter.ofSettings settings).toOption.getD default).speller .teal).spellings
      (.text documented) { owner := .text owner, name := .text name }).toOption = some types)
    (settled : Settings.defaultTeal.widen false (Settings.defaultTeal.fuseOpaque types) = types)
    (ordered : types.Pairwise (· ≤ ·)) (someType : Text.join "|" types ≠ "") :
    spellFor file.writer (.text documented) (.text owner) (.text name) =
      .ok (.text (Text.join "|" types)) := by
  have isWriter : (StubWriter.ofSettings settings).toOption.getD default = file.writer := by
    rw [file.knows]
    rfl
  have dialect : (file.writer.speller .teal).dialect = Settings.defaultTeal :=
    (congrArg Settings.teal file.settings_writer).trans isDefault
  rw [isWriter] at spelled
  refine Speller.spell_of_spellings (Outcome.toOption_eq_some.1 spelled) ?_ ordered someType
  rw [dialect]
  exact .of_eq settled

/-- The declaration of a known class with one field has the line of that field, when its name does
not bar it and the type is spelled as some types joined by bars. -/
theorem KnownFile.exists_call_of_plainClass {settings : Settings} {version : String}
    (file : KnownFile settings version) (shaped : settings.IsShaped)
    (isDefault : settings.teal = Settings.defaultTeal) {name field type line : String}
    (isClass : settings.classes.get? name = some (Settings.plainClass [(field, type)]))
    (starts : (beginsWithAny name Settings.defaultTeal.selection.barredStarts).toOption =
      some false)
    (names : (Value.text name).memberOf
      ((Settings.tealBarredNames.get? knownNamespace).getD []) = false)
    (noComment : Text.splitField type = (type, "")) {types : List String}
    (spelled : spellFor file.writer (.text type) (.text name) (.text field) =
      .ok (.text (Text.join "|" types)))
    (isLine : field ++ ": " ++ Text.join "|" types = line) :
    ∃ call ∈ file.calls, call.fullName = name ∧ ∃ last,
      call.Makes (declareWith file.writer) (classDeclaration last [.line line] []) := by
  have isElement : IsKnownElement settings name _ := .classType (Table.mem_of_get? isClass) rfl
  obtain ⟨call, asked, rfl, concerns⟩ := file.exists_call_of_element shaped isDefault isElement (by
    rw [isDefault]
    exact not_bars_plainClass rfl starts names)
  obtain ⟨path, appears, _⟩ := concerns.shown
  obtain ⟨last, named, _⟩ := appears.named
  obtain ⟨entries, isRecord⟩ := exists_record_of_field? named
  have ofKind : call.kind = .classType :=
    Option.some.inj (Except.ok.inj (concerns.kind.symm.trans rfl))
  have noOperators : call.element.get "operators" = .ok .null := by
    have absent : call.element.field? "operators" = none := appears.others "operators" (by decide)
    rw [isRecord, Value.field?_record] at absent
    rw [isRecord, Value.get, Value.getOr_record, absent]
    rfl
  have hasFields : call.element.field? "fields" = some (.record [(field, .text type)]) :=
    appears.others "fields" (by decide)
  have written : fieldParts file.writer (.text call.fullName) field (.text type) =
      .ok [.line line] := by
    simp only [fieldParts, noComment, spelled, ← isLine]
    rfl
  have declaredFields : ((Table.sorted [(field, Value.text type)]).mapM fun field =>
      fieldParts file.writer (.text call.fullName) field.1 field.2) = .ok [[.line line]] := by
    rw [Table.sorted, List.mergeSort_singleton]
    exact Outcome.mapM_eq_ok.2 (.cons written .nil)
  have declaredOperators : ((Table.sorted []).mapM fun operator =>
      operatorParts file.writer (.text last) (.text call.fullName) operator.1 operator.2) =
        .ok [] := by
    rw [Table.sorted, List.mergeSort_nil]
    rfl
  have declares :=
    declareClass_eq_ok named hasFields noOperators rfl declaredFields declaredOperators
  refine ⟨call, asked, rfl, last, ?_⟩
  rw [Call.Makes, ofKind, declareWith, declare?, declares]
  rfl

/-- Not every known type that is mentioned is declared: a class that is a global table, one whose
name begins with a barred start, and an alias whose name is barred are written where other classes
mention them, although none of them is declared; and the name of a class with a bar in it is written
as two types, neither of which is the name of a declaration. -/
theorem mentioned_types_not_declared :
    let table : Value := .record [("fields", .record [("is_global", .bool true),
      ("dns", .text "table")])]
    let classes : Table Value := [("socket", table), ("editor_tool", Settings.plainClass []),
      ("left|right", Settings.plainClass []),
      ("connection", Settings.plainClass [("owner", "socket")]),
      ("panel", Settings.plainClass [("tool", "editor_tool")]),
      ("screen", Settings.plainClass [("target", "render_target")]),
      ("turn", Settings.plainClass [("side", "left|right")])]
    let document : Value := .record [("known_classes", .record classes)]
    let settings := (Corrections.apply .default document).1
    settings.IsReached (fun document _ _ => Corrections.LeavesTeal document) ∧
      settings.classes.All (MentionsInClass settings.Names) ∧
      ∃ file : KnownFile settings "1.9.0",
        (∀ line ∈ [("connection", "owner: socket"), ("panel", "tool: editor_tool"),
            ("screen", "target: render_target"), ("turn", "side: left|right")],
          ∃ call ∈ file.calls, call.fullName = line.1 ∧ ∃ last,
            call.Makes (declareWith file.writer) (classDeclaration last [.line line.2] [])) ∧
        ∀ base ∈ ["socket", "editor_tool", "render_target", "left", "right"],
          base ∉ "any" :: Settings.defaultPlainTypes ∧
          (∀ entry ∈ Settings.tealSubstitutions, entry.2 ≠ base) ∧
          ∀ call ∈ file.calls, call.fullName ≠ base := by
  intro table classes document settings
  have isTable : IsClassDeclaration table := Settings.isClassDeclaration_of_fields
    (List.forall_mem_cons.2 ⟨.inr ⟨true, rfl⟩,
      List.forall_mem_singleton.2 (.inl (isText_text "table"))⟩)
  have mentionsInTable : MentionsInClass settings.Names table := by
    refine mentionsInClass_of_fields ⟨_, rfl, List.forall_mem_cons.2 ⟨nofun,
      List.forall_mem_singleton.2 fun text isText => ?_⟩⟩
    obtain rfl := Value.text.inj isText
    decide +kernel
  have declared : classes.All IsClassDeclaration := by
    simp [classes, Table.All, isTable, Settings.isClassDeclaration_plainClass]
  have isDocument : Corrections.IsDocument document := by
    constructor <;>
      simp [document, Offers, Value.field?_record, Table.get?_cons, IsTableOf, declared]
  have reached : settings.IsReached fun document _ _ => Corrections.LeavesTeal document :=
    .corrected .default isDocument ⟨rfl, rfl⟩ rfl
  have mentions : settings.classes.All (MentionsInClass settings.Names) := by
    have added : settings.classes = Settings.defaultClasses ++ classes := rfl
    rw [added]
    refine List.forall_mem_append.2 ⟨fun entry member => ?_, ?_⟩
    · exact (Settings.all_mentionsInClass_defaultClasses reached.keeps.2 entry member).mono
        fun _ => Settings.NamesOne.names
    · simp only [classes, List.forall_mem_cons, List.not_mem_nil, false_implies, implies_true,
        and_true]
      exact ⟨mentionsInTable, mentionsInClass_plainClass (by decide +kernel),
        mentionsInClass_plainClass (by decide +kernel),
        mentionsInClass_plainClass (by decide +kernel),
        mentionsInClass_plainClass (by decide +kernel),
        mentionsInClass_plainClass (by decide +kernel),
        mentionsInClass_plainClass (by decide +kernel)⟩
  obtain ⟨shaped, _⟩ := reached.keeps
  obtain ⟨_, isDefault⟩ := reached.leavesTeal
  obtain ⟨file⟩ := exists_knownFile shaped isDefault "1.9.0"
  refine ⟨reached, mentions, file, ?_, fun base member =>
    ⟨?_, ?_, file.fullName_ne_of_bars shaped fun element isElement => ?_⟩⟩
  · simp only [List.forall_mem_cons, List.not_mem_nil, false_implies, implies_true, and_true]
    exact ⟨file.exists_call_of_plainClass shaped isDefault rfl (by decide +kernel)
        (by decide +kernel) (by decide +kernel)
        (file.spellFor_of_spellings isDefault ["socket"] (by decide +kernel) (by decide +kernel)
          (by decide) (by decide)) (by decide),
      file.exists_call_of_plainClass shaped isDefault rfl (by decide +kernel)
        (by decide +kernel) (by decide +kernel)
        (file.spellFor_of_spellings isDefault ["editor_tool"] (by decide +kernel)
          (by decide +kernel) (by decide) (by decide)) (by decide),
      file.exists_call_of_plainClass shaped isDefault rfl (by decide +kernel)
        (by decide +kernel) (by decide +kernel)
        (file.spellFor_of_spellings isDefault ["render_target"] (by decide +kernel)
          (by decide +kernel) (by decide) (by decide)) (by decide),
      file.exists_call_of_plainClass shaped isDefault rfl (by decide +kernel)
        (by decide +kernel) (by decide +kernel)
        (file.spellFor_of_spellings isDefault ["left", "right"] (by decide +kernel)
          (by decide +kernel) (by decide) (by decide)) (by decide)⟩
  · revert base
    decide
  · revert base
    decide
  · have named := (isElement.isDocumentedElement shaped).2
    rw [isDefault]
    simp only [List.mem_cons, List.not_mem_nil, or_false] at member
    rcases member with rfl | rfl | rfl | rfl | rfl
    · have isClass : settings.classes.get? "socket" = some table := rfl
      obtain rfl := Except.ok.inj
        (isElement.made_of_get? (by decide +kernel) isClass (by decide +kernel))
      exact .globalTable rfl rfl
    · exact .start ((Selection.hasBarredStart_of_named named).trans rfl)
    · exact .name rfl ((Selection.isNamedIn_of_named named).trans rfl)
    · exact absurd isElement.knows (by decide +kernel)
    · exact absurd isElement.knows (by decide +kernel)

end Teal

end ApiStubs
