import ApiStubs.Proofs.Outcome
import ApiStubs.Proofs.Table
import ApiStubs.Proofs.Value.Equality
import ApiStubs.Proofs.Value.Shape
import ApiStubs.Reference.Selection
import Mathlib.Tactic.MkIffOfInductiveProp

/-!
# Selecting is one filter

A selection goes through its rules one after the other and skips those that bar nothing. Together
they keep the elements that no rule bars, so the order of the rules does not matter, nor does the
order of several selections.

- `IsElement` and `IsModule` are the shape on which every rule decides.
- `Selection.Declares` says of one element which rules it has to pass.
- `HasElements.changeWhen_eq` is the step of one rule, whether it is skipped or not.
- `Selection.select_eq_filter` puts the steps together.
-/

namespace ApiStubs

/-- What is written last under a key is what counts. -/
theorem Value.withField_withField (value : Value) (key : String) (first second : Value) :
    (value.withField key first).withField key second = value.withField key second := by
  cases value with
  | record fields => exact congrArg Value.record (Table.set_set fields key first second)
  | _ => rfl

namespace Reference

/-- An element with a name, whose fields are a record when it has any. -/
structure IsElement (element : Value) : Prop where
  name : ∃ name, element.field? "name" = some (.text name)
  fields : ∀ fields, element.field? "fields" = some fields →
    fields = .null ∨ ∃ entries, fields = .record entries

/-- A module with a namespace and a list of elements. -/
structure IsModule (module : Value) : Prop where
  space : ∃ name, module.field? "namespace" = some (.text name)
  elements : ∃ elements, module.field? "elements" = some (.list elements) ∧
    ∀ element ∈ elements, IsElement element

/-- A module of a namespace with these elements. -/
structure HasElements (module space : Value) (elements : List Value) : Prop where
  located : module.field? "namespace" = some space
  isScalar : space.isScalar = true
  listed : module.field? "elements" = some (.list elements)
  shaped : ∀ element ∈ elements, IsElement element

/-- The name of an element begins with one of several texts. -/
def BeginsWithOneOf (starts : List Value) (element : Value) : Prop :=
  ∃ name start, element.field? "name" = some (.text name) ∧ .text start ∈ starts ∧
    Text.beginsWith name start = true

/-- The name of an element is one of several. -/
def IsOneOf (names : List Value) (element : Value) : Prop :=
  ∃ name, element.field? "name" = some name ∧ name.memberOf names = true

/-- An element with fields that are marked as those of a global table. -/
def IsGlobalTable (element : Value) : Prop :=
  ∃ fields, element.field? "fields" = some fields ∧ fields.field? globalMark = some (.bool true)

instance (starts : List Value) (element : Value) : Decidable (BeginsWithOneOf starts element) :=
  decidable_of_iff (((element.field? "name").bind Value.text?).any fun name =>
      starts.any fun start => start.text?.any (Text.beginsWith name)) <| by
    simp only [BeginsWithOneOf, Option.any_eq_true, Option.bind_eq_some_iff, List.any_eq_true,
      Value.text?_eq_some]
    grind

instance (names : List Value) (element : Value) : Decidable (IsOneOf names element) :=
  decidable_of_iff ((element.field? "name").any (·.memberOf names)) (Option.any_eq_true ..)

instance (element : Value) : Decidable (IsGlobalTable element) :=
  decidable_of_iff (((element.field? "fields").bind (·.field? globalMark)).any
      (·.equal (.bool true))) <| by
    simp only [IsGlobalTable, Option.any_eq_true, Option.bind_eq_some_iff, Value.equal_iff]
    grind

/-! ## What a module keeps when elements are left out -/

/-- Rejecting by a condition that is decided for every member keeps those that do not meet it. -/
theorem rejecting_eq_filter {condition : Value → Outcome Bool} {members : List Value}
    {isMet : Value → Bool} (decided : ∀ member ∈ members, condition member = .ok (isMet member)) :
    rejecting condition members = .ok (members.filter fun member => !isMet member) := by
  induction members with
  | nil => rfl
  | cons member rest inductionHypothesis =>
      obtain ⟨first, others⟩ := List.forall_mem_cons.1 decided
      rw [rejecting, first, inductionHypothesis others]
      cases met : isMet member <;> simp [bind, Except.bind, pure, Except.pure, met]

section HasElements

variable {module space : Value} {elements : List Value} (has : HasElements module space elements)

include has

/-- Writing the elements that a module has changes nothing. -/
theorem HasElements.withField_eq_self :
    module.withField "elements" (.list elements) = module := by
  obtain ⟨fields, rfl⟩ := Value.exists_record_of_field? has.located
  exact congrArg Value.record (Table.set_of_get? has.listed)

/-- A module has those of its elements that it is left with. -/
theorem HasElements.filter (keeps : Value → Bool) :
    HasElements (module.withField "elements" (.list (elements.filter keeps))) space
      (elements.filter keeps) where
  located := by rw [Value.field?_withField_of_ne (by decide), has.located]
  isScalar := has.isScalar
  listed := by
    obtain ⟨fields, rfl⟩ := Value.exists_record_of_field? has.located
    exact Value.field?_withField_record ..
  shaped element member := has.shaped element (List.mem_of_mem_filter member)

/-- A rule leaves out the elements that meet its condition, also when it is skipped because none
does. -/
theorem HasElements.changeWhen_eq {isActive : Bool} {condition : Value → Outcome Bool}
    {isMet : Value → Prop} [DecidablePred isMet]
    (decided : isActive = true → ∀ element, IsElement element →
      condition element = .ok (decide (isMet element)))
    (idle : isActive = false → ∀ element, ¬ isMet element) :
    changeWhen isActive (withoutElements condition) module = .ok (module.withField "elements"
      (.list (elements.filter fun element => ¬ isMet element))) := by
  cases isActive with
  | false =>
      have all : elements.filter (fun element => ¬ isMet element) = elements :=
        List.filter_eq_self.2 fun element _ => decide_eq_true (idle rfl element)
      rw [all, has.withField_eq_self]
      rfl
  | true =>
      have rejected := rejecting_eq_filter fun element member =>
        decided rfl element (has.shaped element member)
      rw [changeWhen, if_pos rfl, withoutElements, Value.require_eq_ok.2 has.listed]
      simp only [Outcome.ok_bind, Value.items, rejected, decide_not]
      rfl

end HasElements

/-- A module in shape is one of a namespace with a list of elements. -/
theorem IsModule.exists_hasElements {module : Value} (shaped : IsModule module) :
    ∃ space elements, HasElements module (.text space) elements := by
  obtain ⟨space, located⟩ := shaped.space
  obtain ⟨elements, listed, each⟩ := shaped.elements
  exact ⟨space, elements, located, rfl, listed, each⟩

/-- A module with a list of elements is in shape when its namespace is a text. -/
theorem HasElements.isModule {module : Value} {space : String} {elements : List Value}
    (has : HasElements module (.text space) elements) : IsModule module where
  space := ⟨space, has.located⟩
  elements := ⟨elements, has.listed, has.shaped⟩

/-! ## Conditions of rules -/

/-- Whether an element is a global table is decided for every element. -/
theorem IsElement.isGlobalTable_eq {element : Value} (shaped : IsElement element) :
    isGlobalTable element = .ok (decide (IsGlobalTable element)) := by
  obtain ⟨name, named⟩ := shaped.name
  obtain ⟨entries, rfl⟩ := Value.exists_record_of_field? named
  have decides : IsGlobalTable (.record entries) ↔ ∃ fields, Table.get? entries "fields" =
      some fields ∧ fields.field? globalMark = some (.bool true) := Iff.rfl
  rw [isGlobalTable, Value.get, Value.getOr_record, Outcome.ok_bind]
  cases found : Table.get? entries "fields" with
  | none => simp [decides, found, pure, Except.pure]
  | some fields =>
      rcases shaped.fields fields found with rfl | ⟨inside, rfl⟩
      · have unmarked : Value.null.field? globalMark = none := rfl
        simp [decides, found, unmarked, pure, Except.pure]
      · have marks : IsGlobalTable (.record entries) ↔
            (Table.get? inside globalMark).getD .null = .bool true := by
          rw [decides, found]
          simp only [Option.some.injEq, exists_eq_left', Value.field?_record]
          cases Table.get? inside globalMark <;> simp
        simp only [Option.getD_some, Value.get, Value.getOr_record, Outcome.ok_bind]
        split
        · next isMarked =>
            rw [decide_eq_true (marks.2 isMarked)]
            rfl
        · next unmarked =>
            rw [decide_eq_false (mt marks.1 unmarked)]
            rfl

/-- Whether a text begins with one of several texts is decided. -/
theorem exists_beginsWithAny (text : String) {starts : List Value}
    (texts : ∀ start ∈ starts, ∃ content, start = .text content) :
    ∃ answer, beginsWithAny text starts = .ok answer ∧
      (answer = true ↔ ∃ start, .text start ∈ starts ∧ Text.beginsWith text start = true) := by
  induction starts with
  | nil => exact ⟨false, rfl, by simp⟩
  | cons start rest inductionHypothesis =>
      obtain ⟨⟨content, rfl⟩, others⟩ := List.forall_mem_cons.1 texts
      obtain ⟨later, decision, decides⟩ := inductionHypothesis others
      rw [beginsWithAny, Value.asText, Outcome.ok_bind]
      cases begins : Text.beginsWith text content with
      | true => exact ⟨true, rfl, iff_of_true rfl ⟨content, List.mem_cons_self .., begins⟩⟩
      | false =>
          refine ⟨later, decision, decides.trans (exists_congr fun other => ?_)⟩
          rw [List.mem_cons, Value.text.injEq, or_and_right, or_iff_right]
          rintro ⟨rfl, beginsOther⟩
          cases begins.symm.trans beginsOther

end Reference

namespace Selection

open ApiStubs.Reference

/-- The starts that a selection bars are texts. -/
def HasTextStarts (selection : Selection) : Prop :=
  ∀ start ∈ selection.barredStarts, ∃ content, start = .text content

/-- The names that a selection bars in a namespace. -/
def barredIn (selection : Selection) (space : Value) : List Value :=
  (space.text?.bind selection.barredNames.get?).getD []

/-- A selection declares an element of a namespace: the namespace is admitted, and no rule bars the
element. -/
@[mk_iff] structure Declares (selection : Selection) (space element : Value) : Prop where
  admitted : ∀ namespaces ∈ selection.namespaces, space.memberOf namespaces = true
  notBegins : ¬ BeginsWithOneOf selection.barredStarts element
  notGlobal : ¬ (selection.omitsGlobalTables = true ∧ IsGlobalTable element)
  notNamed : ¬ IsOneOf (selection.barredIn space) element

instance (selection : Selection) (space element : Value) :
    Decidable (selection.Declares space element) :=
  decidable_of_iff _ (selection.declares_iff space element).symm

/-- The rule on starts looks at the name of an element. -/
theorem hasBarredStart_of_named {selection : Selection} {element : Value} {name : String}
    (named : element.field? "name" = some (.text name)) :
    selection.hasBarredStart element = beginsWithAny name selection.barredStarts := by
  rw [hasBarredStart, Value.require_eq_ok.2 named, Outcome.ok_bind, Value.asText, Outcome.ok_bind]

/-- So does the rule on names. -/
theorem isNamedIn_of_named {names : List Value} {element : Value} {name : String}
    (named : element.field? "name" = some (.text name)) :
    isNamedIn names element = .ok ((Value.text name).memberOf names) := by
  rw [isNamedIn, Value.require_eq_ok.2 named, Outcome.ok_bind]
  rfl

/-- Whether an element's name begins with a barred start is decided for every element. -/
theorem hasBarredStart_eq {selection : Selection} (textual : selection.HasTextStarts)
    {element : Value} (shaped : IsElement element) :
    selection.hasBarredStart element =
      .ok (decide (BeginsWithOneOf selection.barredStarts element)) := by
  obtain ⟨name, named⟩ := shaped.name
  obtain ⟨answer, decision, decides⟩ := exists_beginsWithAny name textual
  have begins : BeginsWithOneOf selection.barredStarts element ↔ answer = true := by
    rw [decides, BeginsWithOneOf, named]
    simp
  rw [hasBarredStart_of_named named, decision]
  simp only [begins, Bool.decide_eq_true]

/-- Whether an element's name is one of several is decided for every element. -/
theorem isNamedIn_eq (names : List Value) {element : Value} (shaped : IsElement element) :
    isNamedIn names element = .ok (decide (IsOneOf names element)) := by
  obtain ⟨name, named⟩ := shaped.name
  have isOne : IsOneOf names element ↔ (Value.text name).memberOf names = true := by
    rw [IsOneOf, named]
    simp
  rw [isNamedIn_of_named named]
  simp only [isOne, Bool.decide_eq_true]

/-- Whether a selection admits a namespace is decided. -/
theorem admits_eq (selection : Selection) {space : Value} (isScalar : space.isScalar = true) :
    selection.admits space =
      .ok (decide (∀ namespaces ∈ selection.namespaces, space.memberOf namespaces = true)) := by
  rw [admits]
  cases selection.namespaces with
  | none => simp
  | some namespaces =>
      simp [Value.inSet, Value.asScalar, isScalar, Except.map]

/-- The names that are barred in a namespace are looked up under it. -/
theorem lookupIn_barredNames (selection : Selection) {space : Value}
    (isScalar : space.isScalar = true) :
    space.lookupIn selection.barredNames =
      .ok (space.text?.bind selection.barredNames.get?) := by
  cases space with
  | list _ => cases isScalar
  | record _ => cases isScalar
  | _ => rfl

section Rules

variable {selection : Selection} {module space : Value} {elements : List Value}
  (has : HasElements module space elements)

include has

/-- The rule about starts leaves out the elements that begin with one. -/
theorem omitStarts_eq (textual : selection.HasTextStarts) :
    changeWhen (!selection.barredStarts.isEmpty) (withoutElements selection.hasBarredStart) module =
      .ok (module.withField "elements" (.list (elements.filter fun element =>
        ¬ BeginsWithOneOf selection.barredStarts element))) := by
  refine has.changeWhen_eq (fun _ _ shaped => hasBarredStart_eq textual shaped) ?_
  rintro isIdle element ⟨_, start, _, barred, _⟩
  have nothing : selection.barredStarts = [] := by simpa using isIdle
  simp [nothing] at barred

/-- The rule about global tables leaves them out. -/
theorem omitTables_eq :
    changeWhen selection.omitsGlobalTables (withoutElements isGlobalTable) module =
      .ok (module.withField "elements" (.list (elements.filter fun element =>
        ¬ (selection.omitsGlobalTables = true ∧ IsGlobalTable element)))) := by
  refine has.changeWhen_eq (fun omits _ shaped => ?_) fun keeps _ omitted => ?_
  · simp only [shaped.isGlobalTable_eq, omits, true_and]
  · cases keeps.symm.trans omitted.1

/-- The rule about names leaves out the elements that have one of them. -/
theorem omitNames_eq (names : List Value) :
    changeWhen (!names.isEmpty) (withoutElements (isNamedIn names)) module =
      .ok (module.withField "elements" (.list (elements.filter fun element =>
        ¬ IsOneOf names element))) := by
  refine has.changeWhen_eq (fun _ _ shaped => isNamedIn_eq names shaped) ?_
  rintro isIdle element ⟨name, _, isMember⟩
  have nothing : names = [] := by simpa using isIdle
  simp [nothing, Value.memberOf] at isMember

/-- A selection keeps of a module the elements that it declares, in order, and all else. -/
theorem select_eq_filter (textual : selection.HasTextStarts) :
    selection.select module = .ok (module.withField "elements"
      (.list (elements.filter fun element => selection.Declares space element))) := by
  rw [select, Value.require_eq_ok.2 has.located, Outcome.ok_bind, admits_eq _ has.isScalar,
    Outcome.ok_bind]
  by_cases admitted : ∀ namespaces ∈ selection.namespaces, space.memberOf namespaces = true
  · rw [decide_eq_true admitted]
    simp only [Bool.not_true, Bool.false_eq_true, if_false]
    -- Each rule is a step of its own, and filters what the steps before it have left.
    rw [omitStarts_eq has textual, Outcome.ok_bind, omitTables_eq (has.filter _), Outcome.ok_bind,
      lookupIn_barredNames _ has.isScalar, Outcome.ok_bind, ← barredIn,
      omitNames_eq ((has.filter _).filter _), Value.withField_withField, Value.withField_withField,
      List.filter_filter, List.filter_filter]
    congr 3
    refine List.filter_congr fun element _ => ?_
    rw [← Bool.decide_and, ← Bool.decide_and, decide_eq_decide, declares_iff]
    tauto
  · have none : elements.filter (fun element => selection.Declares space element) = [] :=
      List.filter_eq_nil_iff.2 fun element _ declares =>
        admitted (of_decide_eq_true declares).admitted
    rw [none, decide_eq_false admitted]
    rfl

/-- A selection of what another one has left keeps the elements that both declare. -/
theorem select_bind_select_eq {other : Selection} (textual : selection.HasTextStarts)
    (textualOther : other.HasTextStarts) :
    (selection.select module >>= other.select) = .ok (module.withField "elements"
      (.list (elements.filter fun element =>
        other.Declares space element ∧ selection.Declares space element))) := by
  rw [select_eq_filter has textual, Outcome.ok_bind, select_eq_filter (has.filter _) textualOther,
    Value.withField_withField, List.filter_filter]
  simp only [Bool.decide_and]

end Rules

/-- A selection of a module gives a module. -/
theorem exists_select {selection : Selection} (textual : selection.HasTextStarts) {module : Value}
    (shaped : IsModule module) :
    ∃ selected, selection.select module = .ok selected ∧ IsModule selected := by
  obtain ⟨space, elements, has⟩ := shaped.exists_hasElements
  exact ⟨_, select_eq_filter has textual, (has.filter _).isModule⟩

/-- A selection of several modules gives modules. -/
theorem exists_selectAll {selection : Selection} (textual : selection.HasTextStarts)
    {modules : List Value} (shaped : ∀ module ∈ modules, IsModule module) :
    ∃ selected, selection.selectAll modules = .ok selected ∧
      ∀ module ∈ selected, IsModule module :=
  Outcome.exists_mapM fun module member => exists_select textual (shaped module member)

/-- Selecting leaves the elements that a selection declares, in order, and every other field of the
module. So selecting again changes nothing, and two selections leave the same in either order. -/
theorem selecting_is_one_filter {selection : Selection} (textual : selection.HasTextStarts)
    {module space : Value} {elements : List Value} (has : HasElements module space elements) :
    ∃ selected, selection.select module = .ok selected ∧
      selected = module.withField "elements"
        (.list (elements.filter fun element => selection.Declares space element)) ∧
      (∀ key, key ≠ "elements" → selected.field? key = module.field? key) ∧
      selection.select selected = .ok selected ∧
      ∀ other : Selection, other.HasTextStarts → ∃ both,
        (selection.select module >>= other.select) = .ok both ∧
        (other.select module >>= selection.select) = .ok both := by
  have selects := select_eq_filter has textual
  have selectsBoth (other : Selection) (textualOther : other.HasTextStarts) :=
    select_bind_select_eq has textual textualOther
  refine ⟨_, selects, rfl, fun key differs => Value.field?_withField_of_ne differs, ?_, ?_⟩
  · have again := selectsBoth selection textual
    simpa only [selects, Outcome.ok_bind, and_self] using again
  · intro other textualOther
    refine ⟨_, selectsBoth other textualOther, ?_⟩
    rw [select_bind_select_eq has textualOther textual]
    simp only [and_comm]

/-- Every rule of a selection leaves out an element of its own. -/
theorem selecting_by_every_rule :
    let selection : Selection := {
      namespaces := some [.text "meta"]
      barredStarts := [.text "editor"]
      omitsGlobalTables := true
      barredNames := [("meta", [.text "bool"])] }
    let tool : Value := .record [("name", .text "editor.get")]
    let socket : Value := .record [("name", .text "socket"),
      ("fields", .record [("is_global", .bool true)])]
    let bool : Value := .record [("name", .text "bool"), ("alias", .text "boolean")]
    let hash : Value := .record [("name", .text "hash"), ("fields", .null)]
    let moduleOf (elements : List Value) : Value :=
      .record [("namespace", .text "meta"), ("elements", .list elements), ("brief", .text "Types")]
    selection.HasTextStarts ∧
      HasElements (moduleOf [tool, socket, bool, hash]) (.text "meta") [tool, socket, bool, hash] ∧
      selection.select (moduleOf [tool, socket, bool, hash]) = .ok (moduleOf [hash]) ∧
      selection.select (moduleOf [hash]) = .ok (moduleOf [hash]) := by
  intro selection tool socket bool hash moduleOf
  have textual : selection.HasTextStarts := by simp [selection, HasTextStarts]
  have has : HasElements (moduleOf [tool, socket, bool, hash]) (.text "meta")
      [tool, socket, bool, hash] := by
    refine ⟨rfl, rfl, rfl, ?_⟩
    simp only [List.forall_mem_cons, List.not_mem_nil, false_imp_iff, implies_true, and_true]
    refine ⟨⟨⟨_, rfl⟩, ?_⟩, ⟨⟨_, rfl⟩, ?_⟩, ⟨⟨_, rfl⟩, ?_⟩, ⟨⟨_, rfl⟩, ?_⟩⟩
    all_goals simp [tool, socket, bool, hash, Value.field?_record, Table.get?_cons]
  obtain ⟨selected, selects, isFiltered, _, again, _⟩ := selecting_is_one_filter textual has
  obtain rfl : selected = moduleOf [hash] := isFiltered
  exact ⟨textual, has, selects, again⟩

end Selection

end ApiStubs
