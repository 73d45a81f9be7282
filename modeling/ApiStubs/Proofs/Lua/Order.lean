import ApiStubs.Proofs.Lua.Blocks
import ApiStubs.Proofs.Lua.ElementOrder
import ApiStubs.Proofs.Reference.Order

/-!
# The order of a Lua file

The declarations of a module stand in the order of its elements in a file, which is fixed by their
types and names and, for elements that have both in common, by the order that they have in the
module. So when no two of the elements that are declared have the same type and name, the order of
the elements in the module does not matter at all.

- `exists_entries` says that the entries of elements are sorted into the order of a file.
- `moduleText?_eq` puts a file together from its wrapper, its declarations and its header.
- `file_in_order` is the main result.
-/

namespace ApiStubs.Lua

open ApiStubs.Reference ApiStubs.Reference.Group

/-! ## Declared elements in order -/

/-- An element with texts for its name and its type. -/
structure IsClassified (element : Value) : Prop where
  named : ∃ name, element.field? "name" = some (.text name)
  typed : ∃ type, element.field? "type" = some (.text type)

/-- The kind that an element can be declared as. -/
def kindOf? (element : Value) : Option Kind :=
  Kind.byType.get? (typeOf element)

/-- Whether an element can be declared. -/
def isDeclarable (element : Value) : Bool :=
  (kindOf? element).isSome

/-- Whether an element is declared: it can be, and it is no function left undeclared. -/
def isEmitted (writer : StubWriter) (element : Value) : Bool :=
  (kindOf? element).any fun kind =>
    kind != .function || !(Value.text (nameOf element)).memberOf writer.settings.lua.undeclared

namespace IsClassified

variable {element : Value} (classified : IsClassified element)

include classified

/-- The name of an element is required of it. -/
theorem require_name : element.require "name" = .ok (.text (nameOf element)) := by
  obtain ⟨name, found⟩ := classified.named
  simp [nameOf, found]

/-- The kind of an element follows from its type. -/
theorem kind_eq : Kind.of? element = .ok (kindOf? element) := by
  obtain ⟨type, found⟩ := classified.typed
  rw [kind_of_typed found, kindOf?, typeOf, found]
  rfl

end IsClassified

/-- The place of a kind follows from the type that stands for it, in descending order. -/
theorem kindRank_of_byType : ∀ first ∈ Kind.byType, ∀ second ∈ Kind.byType,
    (kindRank first.2 < kindRank second.2 ↔ second.1 ≤ first.1 ∧ first.1 ≠ second.1) ∧
      (first.2 = second.2 ↔ first.1 = second.1) := by
  decide

/-- The entry of an element for a kind. -/
def entryOf (kind : Kind) (element : Value) : Entry :=
  { kind, name := .text (nameOf element), element }

/-- Entries stand in the order of their elements. -/
theorem le_entryOf {first second : Value} {kind other : Kind}
    (ofKind : kindOf? first = some kind) (ofOther : kindOf? second = some other) :
    (entryOf kind first).le (entryOf other second) = mayPrecede first second := by
  obtain ⟨ranks, kinds⟩ :
      (kindRank kind < kindRank other ↔
        typeOf second ≤ typeOf first ∧ typeOf first ≠ typeOf second) ∧
      (kind = other ↔ typeOf first = typeOf second) :=
    kindRank_of_byType _ (Table.mem_of_get? ofKind) _ (Table.mem_of_get? ofOther)
  have isLe : (entryOf kind first).le (entryOf other second) = true ↔
      kindRank kind < kindRank other ∨ kind = other ∧ nameOf first ≤ nameOf second := by
    rw [Entry.le, Bool.or_eq_true, decide_eq_true_iff, Bool.and_eq_true, beq_iff_eq]
    simp only [entryOf, Value.le_text, decide_eq_true_iff]
  rw [Bool.eq_iff_iff, isLe, ranks, kinds, mayPrecede, decide_eq_true_iff, Precedes]
  constructor
  · rintro (⟨le, differs⟩ | ⟨same, le⟩)
    · exact ⟨le, fun same => absurd same differs⟩
    · exact ⟨same ▸ String.le_refl _, fun _ => le⟩
  · rintro ⟨le, inside⟩
    by_cases same : typeOf first = typeOf second
    · exact .inr ⟨same, inside same⟩
    · exact .inl ⟨le, same⟩

/-- The elements that can be declared, with their kinds. -/
theorem map_snd_declarable (elements : List Value) :
    (elements.filterMap fun element => (kindOf? element).map fun kind => (kind, element)).map
      Prod.snd = elements.filter isDeclarable := by
  induction elements with
  | nil => rfl
  | cons element rest inductionHypothesis =>
      cases ofKind : kindOf? element with
      | none => simp [isDeclarable, ofKind, inductionHypothesis]
      | some kind => simp [isDeclarable, ofKind, inductionHypothesis]

/-- The entries of classified elements are those of the ones that can be declared, in the order of a
file. -/
theorem exists_entries {elements : List Value}
    (classified : ∀ element ∈ elements, IsClassified element) :
    ∃ declarable entries, elements.mapM Entry.of? = .ok declarable ∧
      orderedEntries declarable.reduceOption = .ok entries ∧
      entries.map Entry.element = (elements.filter isDeclarable).mergeSort mayPrecede ∧
      ∀ entry ∈ entries, kindOf? entry.element = some entry.kind := by
  let pair? (element : Value) : Option (Kind × Value) :=
    (kindOf? element).map fun kind => (kind, element)
  have areDeclarable : elements.mapM Entry.of? = .ok (elements.map pair?) := by
    refine Outcome.mapM_eq_map fun element member => ?_
    rw [Entry.of?, (classified element member).kind_eq]
    rfl
  have reduced : (elements.map pair?).reduceOption = elements.filterMap pair? := by
    rw [List.reduceOption, List.filterMap_map]
    rfl
  have ofPair : ∀ pair ∈ elements.filterMap pair?,
      pair.2 ∈ elements ∧ kindOf? pair.2 = some pair.1 := by
    intro pair member
    obtain ⟨element, among, isPair⟩ := List.mem_filterMap.1 member
    obtain ⟨kind, ofKind, rfl⟩ := Option.map_eq_some_iff.1 isPair
    exact ⟨among, ofKind⟩
  let entries := (elements.filterMap pair?).map fun pair => entryOf pair.1 pair.2
  have ordered : orderedEntries (elements.filterMap pair?) = .ok (entries.mergeSort Entry.le) := by
    refine Outcome.bind_eq_ok.2 ⟨entries, Outcome.mapM_eq_map fun pair member => ?_, ?_⟩
    · rw [(classified pair.2 (ofPair pair member).1).require_name]
      rfl
    · rw [Entry.sort, if_pos (areComparable_of_isText (List.forall_mem_map.2 ?_))]
      exact List.forall_mem_map.2 fun pair _ => Value.isText_text (nameOf pair.2)
  refine ⟨_, _, areDeclarable, reduced ▸ ordered, ?_, fun entry member => ?_⟩
  · have sameOrder : ∀ first ∈ entries, ∀ second ∈ entries,
        first.le second = mayPrecede first.element second.element :=
      List.forall_mem_map.2 fun pair member => List.forall_mem_map.2 fun other among =>
        le_entryOf (ofPair pair member).2 (ofPair other among).2
    rw [List.map_mergeSort sameOrder, ← map_snd_declarable, List.map_map]
    rfl
  · obtain ⟨pair, among, rfl⟩ := List.mem_map.1 (List.mem_mergeSort.1 member)
    exact (ofPair pair among).2

/-! ## Declarations in order -/

/-- The declaration of an element with its kind, none for one that is not declared. -/
def declaration? (writer : StubWriter) (element : Value) : Outcome (Option (Kind × String)) :=
  match kindOf? element with
  | none => .ok none
  | some kind => (declare? writer kind element).map fun text? => text?.map fun text => (kind, text)

/-- The declarations of elements, in their order. -/
def declarationsOf (writer : StubWriter) (elements : List Value) :
    Outcome (List (Kind × String)) := do
  return (← elements.mapM (declaration? writer)).reduceOption

section Declarations

variable {writer : StubWriter}

/-- The declaration of an element that can be declared is that of its kind. -/
theorem declaration?_eq {element : Value} {kind : Kind} (ofKind : kindOf? element = some kind) :
    declaration? writer element =
      (declare? writer kind element).map fun text? => text?.map fun text => (kind, text) := by
  rw [declaration?, ofKind]

/-- The declarations of elements are that of the first one and those of the others. -/
theorem declarationsOf_cons (element : Value) (rest : List Value) :
    declarationsOf writer (element :: rest) = do
      let first? ← declaration? writer element
      let others ← declarationsOf writer rest
      return first?.toList ++ others := by
  simp only [declarationsOf, List.mapM_cons, bind_assoc, pure_bind]
  refine congrArg _ (funext fun first? => congrArg _ (funext fun others => ?_))
  cases first? <;> rfl

/-- The declarations of entries are those of their elements. -/
theorem declarations_eq {entries : List Entry}
    (ofKinds : ∀ entry ∈ entries, kindOf? entry.element = some entry.kind) :
    declarations writer entries = declarationsOf writer (entries.map Entry.element) := by
  induction entries with
  | nil => rfl
  | cons entry rest inductionHypothesis =>
      obtain ⟨ofKind, ofKindsLater⟩ := List.forall_mem_cons.1 ofKinds
      rw [declarations, inductionHypothesis ofKindsLater, List.map_cons, declarationsOf_cons,
        declaration?_eq ofKind]
      cases declare? writer entry.kind entry.element with
      | error fault => rfl
      | ok text? => cases text? <;> rfl

/-- An element that is not declared has no declaration. -/
theorem declaration?_of_not_isEmitted {element : Value} (classified : IsClassified element)
    (isOut : isEmitted writer element = false) : declaration? writer element = .ok none := by
  cases ofKind : kindOf? element with
  | none => rw [declaration?, ofKind]
  | some kind =>
      obtain ⟨rfl, undeclared⟩ : kind = .function ∧
          (Value.text (nameOf element)).memberOf writer.settings.lua.undeclared = true := by
        simpa [isEmitted, ofKind] using isOut
      have silent : declare? writer .function element = .ok none :=
        (declareFunction?_eq_none_iff (Value.require_eq_ok.1 classified.require_name)).2 undeclared
      rw [declaration?_eq ofKind, silent]
      rfl

/-- An element that is declared has a declaration. -/
theorem exists_isDeclaredAs {element : Value} (classified : IsClassified element)
    (emitted : isEmitted writer element = true) {declared? : Option (Kind × String)}
    (returns : declaration? writer element = .ok declared?) :
    ∃ declared, declared? = some declared ∧
      IsDeclaredAs writer element declared.1 declared.2 := by
  cases ofKind : kindOf? element with
  | none => simp [isEmitted, ofKind] at emitted
  | some kind =>
      rw [declaration?_eq ofKind] at returns
      obtain ⟨text?, made, rfl⟩ := Outcome.map_eq_ok.1 returns
      have named := Value.require_eq_ok.1 classified.require_name
      cases text? with
      | some text =>
          exact ⟨_, rfl, ⟨_, named, Value.isText_text _⟩, ofKind ▸ classified.kind_eq, made⟩
      | none =>
          have isIn : kind = .function →
              (Value.text (nameOf element)).memberOf writer.settings.lua.undeclared = false := by
            simpa [isEmitted, ofKind, or_iff_not_imp_left] using emitted
          cases kind with
          | function =>
              have undeclared := (declareFunction?_eq_none_iff named).1 made
              rw [isIn rfl] at undeclared
              cases undeclared
          | _ =>
              obtain ⟨_, _, isText⟩ := Outcome.map_eq_ok.1 made
              cases isText

/-- Elements that are not declared make no difference to the declarations. -/
theorem declarationsOf_filter {elements : List Value}
    (classified : ∀ element ∈ elements, IsClassified element) :
    declarationsOf writer (elements.filter (isEmitted writer)) =
      declarationsOf writer elements := by
  induction elements with
  | nil => rfl
  | cons element rest inductionHypothesis =>
      obtain ⟨isClassified, later⟩ := List.forall_mem_cons.1 classified
      cases emitted : isEmitted writer element with
      | true =>
          rw [List.filter_cons_of_pos emitted, declarationsOf_cons, declarationsOf_cons,
            inductionHypothesis later]
      | false =>
          rw [List.filter_cons_of_neg (by simp [emitted]), inductionHypothesis later,
            declarationsOf_cons, declaration?_of_not_isEmitted isClassified emitted]
          cases declarationsOf writer rest <;> rfl

/-- Elements that are declared have their declarations one by one. -/
theorem forall₂_of_declarationsOf {elements : List Value}
    (classified : ∀ element ∈ elements, IsClassified element)
    (emitted : ∀ element ∈ elements, isEmitted writer element = true)
    {declared : List (Kind × String)} (returns : declarationsOf writer elements = .ok declared) :
    List.Forall₂
      (fun element declaration => IsDeclaredAs writer element declaration.1 declaration.2) elements
      declared := by
  induction elements generalizing declared with
  | nil =>
      obtain rfl := Except.ok.inj returns
      exact .nil
  | cons element rest inductionHypothesis =>
      obtain ⟨isClassified, classifiedLater⟩ := List.forall_mem_cons.1 classified
      obtain ⟨isIn, emittedLater⟩ := List.forall_mem_cons.1 emitted
      rw [declarationsOf_cons] at returns
      simp only [Outcome.bind_eq_ok, Outcome.pure_eq_ok] at returns
      obtain ⟨first?, isFirst, others, areOthers, rfl⟩ := returns
      obtain ⟨first, rfl, isDeclared⟩ := exists_isDeclaredAs isClassified isIn isFirst
      exact .cons isDeclared (inductionHypothesis classifiedLater emittedLater areOthers)

end Declarations

/-! ## Elements that are alike -/

section Alike

variable {element other : Value} (alike : AreAlike element other)

include alike

/-- Elements that are alike have texts for their names and types, which are the same. -/
theorem classified_of_alike : IsClassified element ∧ IsClassified other ∧
    typeOf element = typeOf other ∧ nameOf element = nameOf other := by
  have sameName := alike.equal "name" (by decide)
  have sameType := alike.equal "type" (by decide)
  refine ⟨⟨alike.named, alike.typed⟩, ⟨?_, ?_⟩, ?_, ?_⟩
  · rw [← sameName]
    exact alike.named
  · rw [← sameType]
    exact alike.typed
  · rw [typeOf, typeOf, sameType]
  · rw [nameOf, nameOf, sameName]

/-- Classes that are alike are declared alike. -/
theorem declareClass_eq_of_alike : declareClass element = declareClass other := by
  obtain ⟨operators, otherOperators, found, foundOther, reordered⟩ :=
    alike.exists_get (show "operators" ∈ mappings by decide)
  have read := (reordered.orElse (.record [])).sortedFields_eq
  have fields := alike.agrees_require (show "fields" ∈ mappings by decide)
  rw [declareClass, declareClass, alike.require_eq (show "name" ∉ mappings by decide),
    alike.hasKey_eq, found, foundOther]
  simp only [Outcome.ok_bind, read]
  refine congrArg _ (funext fun name => congrArg _ (funext fun hasFields => ?_))
  split
  · rfl
  · refine (agrees_isGlobalTable alike).bind_eq fun isGlobal _ same => ?_
    subst same
    refine fields.bind_eq fun value otherValue reordered => ?_
    rw [reordered.sortedFields_eq]

/-- Elements that are alike are declared alike. -/
theorem declare?_eq_of_alike (writer : StubWriter) (kind : Kind) :
    declare? writer kind element = declare? writer kind other := by
  have name := alike.require_eq (show "name" ∉ mappings by decide)
  have description := alike.get_eq (show "description" ∉ mappings by decide)
  cases kind with
  | function =>
      have same (side : Types.Side) : docs side element = docs side other := by
        rw [docs, docs, alike.documented_eq]
      simp only [declare?, declareFunction?, alike.ofElement_eq, name, description, same]
  | «variable» => simp only [declare?, declareVariable, name, description]
  | classType => rw [declare?, declare?, declareClass_eq_of_alike alike]
  | aliasType =>
      simp only [declare?, declareAlias, name, alike.require_eq (show "alias" ∉ mappings by decide)]

/-- Elements that are alike are emitted alike. -/
theorem isEmitted_eq_of_alike (writer : StubWriter) :
    isEmitted writer element = isEmitted writer other := by
  obtain ⟨_, _, sameType, sameName⟩ := classified_of_alike alike
  rw [isEmitted, isEmitted, kindOf?, kindOf?, sameType, sameName]

/-- Elements that are alike have the same declaration. -/
theorem declaration?_eq_of_alike (writer : StubWriter) :
    declaration? writer element = declaration? writer other := by
  obtain ⟨_, _, sameType, _⟩ := classified_of_alike alike
  simp only [declaration?, kindOf?, sameType, declare?_eq_of_alike alike]

end Alike

/-! ## Modules -/

/-- The elements that are declared, in the order of a file. -/
def fileOrder (writer : StubWriter) (chosen : List Value) : List Value :=
  ((chosen.filter isDeclarable).mergeSort mayPrecede).filter (isEmitted writer)

/-- The elements that are declared are put in the order of a file. -/
theorem isFileOrder_fileOrder (writer : StubWriter) (chosen : List Value) :
    IsFileOrder (chosen.filter (isEmitted writer)) (fileOrder writer chosen) := by
  have inOrder := (IsFileOrder.mergeSort (chosen.filter isDeclarable)).filter (isEmitted writer)
  have kept : (chosen.filter isDeclarable).filter (isEmitted writer) =
      chosen.filter (isEmitted writer) := by
    rw [List.filter_filter]
    refine List.filter_congr fun element _ => ?_
    cases ofKind : kindOf? element <;> simp [isEmitted, isDeclarable, ofKind]
  rwa [kept] at inOrder

/-- Whether the name of an element begins with a namespace is read off its text. -/
theorem needsNamespace_eq (space : String) {elements : List Value}
    (classified : ∀ element ∈ elements, IsClassified element) :
    needsNamespace (.text space) elements =
      .ok (elements.any fun element => Text.beginsWith (nameOf element) space) := by
  induction elements with
  | nil => rfl
  | cons element rest inductionHypothesis =>
      obtain ⟨isClassified, later⟩ := List.forall_mem_cons.1 classified
      rw [needsNamespace, belongsTo, isClassified.require_name, inductionHypothesis later,
        List.any_cons]
      simp only [Outcome.ok_bind, Value.asText, pure_bind]
      cases Text.beginsWith (nameOf element) space <;> rfl

section Selected

variable {writer : StubWriter} {module selected : Value} {chosen : List Value}
  (selects : writer.settings.lua.selection.select module = .ok selected)
  (members : membersOf selected = .ok chosen)
  (classified : ∀ element ∈ chosen, IsClassified element)

include selects members classified

/-- The declarations of a module are those of its elements in the order of a file. -/
theorem moduleDeclarations_eq :
    moduleDeclarations writer module = declarationsOf writer (fileOrder writer chosen) := by
  obtain ⟨declarable, entries, areDeclarable, ordered, sameOrder, ofKinds⟩ :=
    exists_entries classified
  simp only [moduleDeclarations, selects, members, areDeclarable, ordered, Outcome.ok_bind]
  rw [declarations_eq ofKinds, sameOrder, fileOrder, declarationsOf_filter]
  intro element member
  exact classified element (List.mem_filter.1 (List.mem_mergeSort.1 member)).1

/-- A module is wrapped when a name of its elements begins with its namespace. -/
theorem wrapper?_eq {space : String} (named : module.field? "namespace" = some (.text space)) :
    wrapper? writer module = .ok (if chosen.any fun element =>
      Text.beginsWith (nameOf element) space then some space else none) := by
  rw [wrapper?, Value.require_eq_ok.2 named, selects]
  simp only [Outcome.ok_bind, members, needsNamespace_eq space classified]
  rfl

/-- The text of a module is put together from its wrapper, its declarations and its header, in this
order. -/
theorem moduleText?_eq {space : String} (named : module.field? "namespace" = some (.text space))
    (version : String) :
    moduleText? writer version module = do
      let wrapper ← wrapper? writer module
      let declared ← moduleDeclarations writer module
      if declared.isEmpty then return none
      let top ← moduleHeader writer version module
      let body := joinDeclarations declared
      return some (top ++ "\n\n" ++ diagnosticLines writer ++ "\n\n" ++
        wrapper.elim body (wrapNamespace · body) ++ "\n") := by
  obtain ⟨declarable, entries, areDeclarable, ordered, _⟩ := exists_entries classified
  obtain ⟨value, found, isRead⟩ := Outcome.bind_eq_ok.1 members
  rw [wrapper?_eq selects members classified named]
  simp only [moduleText?, moduleDeclarations, moduleHeader, Value.require_eq_ok.2 named, selects,
    found, isRead, members, areDeclarable, ordered, needsNamespace_eq space classified,
    Outcome.ok_bind, bind_assoc]
  cases chosen.any fun element => Text.beginsWith (nameOf element) space <;> rfl

/-- A module has a text, or none, when its header and the declarations in it have no fault. -/
theorem exists_moduleText? {space : String}
    (named : module.field? "namespace" = some (.text space)) {version top : String}
    (declares : ∀ element ∈ chosen, (declaration? writer element).isOk = true)
    (isTop : moduleHeader writer version module = .ok top) :
    ∃ text?, moduleText? writer version module = .ok text? := by
  obtain ⟨declared?, read, _⟩ : ∃ declared?, (fileOrder writer chosen).mapM (declaration? writer) =
      .ok declared? ∧ ∀ result ∈ declared?, True := by
    refine Outcome.exists_mapM fun element among => ?_
    have present := (isFileOrder_fileOrder writer chosen).perm.mem_iff.1 among
    obtain ⟨result, returns⟩ :=
      Outcome.exists_of_isOk (declares element (List.mem_filter.1 present).1)
    exact ⟨result, returns, trivial⟩
  rw [moduleText?_eq selects members classified named, wrapper?_eq selects members classified named,
    moduleDeclarations_eq selects members classified, declarationsOf, read, isTop]
  simp only [Outcome.ok_bind, pure_bind]
  split <;> exact ⟨_, rfl⟩

end Selected

/-- A module with a namespace and a list of elements that have texts for their names and types. -/
structure IsWellShaped (module : Value) (elements : List Value) : Prop where
  space : ∃ space, module.field? "namespace" = some (.text space)
  listed : module.field? "elements" = some (.list elements)
  classified : ∀ element ∈ elements, IsClassified element

/-- Modules that differ in the order of their elements only are alike. -/
theorem IsWellShaped.areAlike {module other : Value} {elements others : List Value}
    (shaped : IsWellShaped module elements) (agree : module.AgreeBut ["elements"] other)
    (foundOther : other.field? "elements" = some (.list others)) (perm : elements.Perm others) :
    AreAlikeModules module other := by
  obtain ⟨space, named⟩ := shaped.space
  refine ⟨⟨space, named, (agree.field?_eq (by decide)).symm.trans named⟩, elements, others,
    shaped.listed, foundOther, others, perm, List.forall₂_same.2 fun element member => ?_⟩
  obtain ⟨named, typed⟩ := shaped.classified element (perm.mem_iff.2 member)
  exact .refl named typed

/-- What is selected of modules that are alike. -/
structure IsSelected (selection : Selection) (module other selected selectedOther : Value)
    (chosen chosenOther : List Value) : Prop where
  selects : selection.select module = .ok selected
  selectsOther : selection.select other = .ok selectedOther
  members : membersOf selected = .ok chosen
  membersOther : membersOf selectedOther = .ok chosenOther
  rearranged : IsRearranged AreAlike chosen chosenOther

namespace IsSelected

variable {selection : Selection} {module other selected selectedOther : Value}
  {chosen chosenOther : List Value}

/-- The elements that are selected are classified. -/
theorem classified
    (isSelected : IsSelected selection module other selected selectedOther chosen chosenOther) :
    (∀ element ∈ chosen, IsClassified element) ∧ ∀ element ∈ chosenOther, IsClassified element := by
  constructor
  · intro element among
    obtain ⟨_, _, alike⟩ := isSelected.rearranged.exists_right among
    exact (classified_of_alike alike).1
  · intro element among
    obtain ⟨_, _, alike⟩ := isSelected.rearranged.exists_left among
    exact (classified_of_alike alike).2.1

end IsSelected

/-- Something is selected of modules that are alike, or both have the same fault. -/
theorem exists_isSelected (selection : Selection) {module other : Value}
    (alike : AreAlikeModules module other) :
    (∃ selected selectedOther chosen chosenOther,
        IsSelected selection module other selected selectedOther chosen chosenOther) ∨
      selection.select module = .error .wrongShape ∧
        selection.select other = .error .wrongShape := by
  obtain ⟨selected, selectedOther, selects, selectsOther, alikeSelected⟩ | faults :=
    (selection.agrees_select alike).exists_or
  · obtain ⟨chosen, chosenOther, found, foundOther, rearranged⟩ := alikeSelected.elements
    refine .inl ⟨selected, selectedOther, chosen, chosenOther, selects, selectsOther, ?_, ?_,
      rearranged⟩
    · rw [membersOf, Value.require_eq_ok.2 found]
      rfl
    · rw [membersOf, Value.require_eq_ok.2 foundOther]
      rfl
  · exact .inr faults

/-- Rearranged elements that are alike have one order in a file, when no two of those that are
declared have the same type and name. -/
theorem forall₂_fileOrder {writer : StubWriter} {chosen chosenOther : List Value}
    (rearranged : IsRearranged AreAlike chosen chosenOther)
    (distinct : ((chosen.filter (isEmitted writer)).map fun element =>
      (typeOf element, nameOf element)).Nodup) :
    List.Forall₂ AreAlike (fileOrder writer chosen) (fileOrder writer chosenOther) := by
  have inOrder := isFileOrder_fileOrder writer chosen
  have inOrderOther := isFileOrder_fileOrder writer chosenOther
  have emitted := rearranged.filter fun _ _ alike => isEmitted_eq_of_alike alike writer
  refine ((emitted.perm_trans inOrder.perm).trans_perm inOrderOther.perm.symm).forall₂_of_pairwise
    inOrder.sorted inOrderOther.sorted ?_ ?_
  · intro element other next nextOther alike alikeNext precedes
    obtain ⟨_, _, sameType, sameName⟩ := classified_of_alike alike
    obtain ⟨_, _, nextType, nextName⟩ := classified_of_alike alikeNext
    rwa [Precedes, sameType, sameName, nextType, nextName]
  · intro element among next present precedes follows
    obtain ⟨sameType, sameName⟩ := precedes.antisymm follows
    exact List.inj_on_of_nodup_map distinct (inOrder.perm.mem_iff.1 among)
      (inOrder.perm.mem_iff.1 present) (by rw [sameType, sameName])

/-- The elements of a module that are selected and declared have distinct types or names. -/
def HasDistinctDeclarations (writer : StubWriter) (module : Value) : Prop :=
  ∀ selected chosen, writer.settings.lua.selection.select module = .ok selected →
    membersOf selected = .ok chosen →
    ((chosen.filter (isEmitted writer)).map fun element =>
      (typeOf element, nameOf element)).Nodup

/-- Modules that differ in the order of their elements only have the same wrapper and the same text,
or the same fault, when no two of the elements that are declared have the same type and name. -/
theorem moduleText?_eq_of_perm {writer : StubWriter} (version : String) {module other : Value}
    {elements others : List Value} (shaped : IsWellShaped module elements)
    (agree : module.AgreeBut ["elements"] other)
    (foundOther : other.field? "elements" = some (.list others)) (perm : elements.Perm others)
    (distinct : HasDistinctDeclarations writer module) :
    wrapper? writer module = wrapper? writer other ∧
      moduleText? writer version module = moduleText? writer version other := by
  obtain ⟨space, named⟩ := shaped.space
  have namedOther : other.field? "namespace" = some (.text space) :=
    (agree.field?_eq (by decide)).symm.trans named
  obtain ⟨selected, selectedOther, chosen, chosenOther, isSelected⟩ | ⟨fault, faultOther⟩ :=
    exists_isSelected writer.settings.lua.selection (shaped.areAlike agree foundOther perm)
  · obtain ⟨classified, classifiedOther⟩ := isSelected.classified
    obtain ⟨selects, selectsOther, members, membersOther, rearranged⟩ := isSelected
    have sameWrapper : wrapper? writer module = wrapper? writer other := by
      rw [wrapper?_eq selects members classified named,
        wrapper?_eq selectsOther membersOther classifiedOther namedOther,
        rearranged.any_eq fun element other alike => by
          rw [(classified_of_alike alike).2.2.2]]
    have sameDeclarations : moduleDeclarations writer module = moduleDeclarations writer other := by
      rw [moduleDeclarations_eq selects members classified,
        moduleDeclarations_eq selectsOther membersOther classifiedOther, declarationsOf,
        declarationsOf, Outcome.mapM_eq_of_forall₂
          ((forall₂_fileOrder rearranged (distinct selected chosen selects members)).imp
            fun _ _ alike => declaration?_eq_of_alike alike writer)]
    have agreeSelected : selected.AgreeBut ["elements"] selectedOther :=
      (Selection.agreeBut_select selects).symm.trans
        (agree.trans (Selection.agreeBut_select selectsOther))
    have sameHeader : moduleHeader writer version module = moduleHeader writer version other := by
      rw [moduleHeader, moduleHeader, selects, selectsOther, Outcome.ok_bind, Outcome.ok_bind,
        agreeSelected.require_eq (by decide), agreeSelected.get_eq (by decide)]
    refine ⟨sameWrapper, ?_⟩
    rw [moduleText?_eq selects members classified named,
      moduleText?_eq selectsOther membersOther classifiedOther namedOther, sameWrapper,
      sameDeclarations, sameHeader]
  · rw [wrapper?, wrapper?, moduleText?, moduleText?, Value.require_eq_ok.2 named,
      Value.require_eq_ok.2 namedOther, fault, faultOther]
    exact ⟨rfl, rfl⟩

/-- A text holds declarations one after the other. A newline stands behind an alias, two stand
behind any other declaration, and none behind the last. -/
inductive AreJoined : List (Kind × String) → String → Prop
  | last (kind : Kind) (text : String) : AreJoined [(kind, text)] text
  | alias (text : String) {later : List (Kind × String)} {body : String}
      (areJoined : AreJoined later body) :
      AreJoined ((.aliasType, text) :: later) (text ++ "\n" ++ body)
  | other {kind : Kind} (isOther : kind ≠ .aliasType) (text : String)
      {later : List (Kind × String)} {body : String} (areJoined : AreJoined later body) :
      AreJoined ((kind, text) :: later) (text ++ "\n\n" ++ body)

/-- Declarations are joined so. -/
theorem areJoined_joinDeclarations {declared : List (Kind × String)} (nonempty : declared ≠ []) :
    AreJoined declared (joinDeclarations declared) := by
  induction declared with
  | nil => exact absurd rfl nonempty
  | cons first rest inductionHypothesis =>
      obtain ⟨kind, text⟩ := first
      cases rest with
      | nil => exact .last kind text
      | cons second others =>
          have later := inductionHypothesis (List.cons_ne_nil second others)
          rw [joinDeclarations]
          split
          · next isAlias => exact isAlias ▸ .alias text later
          · next isOther => exact .other isOther text later

/-- The file of a module is a file around the declarations of its selected elements in order: of
those of a declarable type, but for the functions left undeclared. There is no file when there are
none of them. -/
def IsInOrder (writer : StubWriter) (version : String) (module : Value)
    (text? : Option String) : Prop :=
  ∃ selected chosen ordered declared,
    writer.settings.lua.selection.select module = .ok selected ∧
    membersOf selected = .ok chosen ∧
    IsFileOrder (chosen.filter (isEmitted writer)) ordered ∧
    List.Forall₂
      (fun element declaration => IsDeclaredAs writer element declaration.1 declaration.2) ordered
      declared ∧
    (declared = [] ∧ text? = none ∨ ∃ text body, text? = some text ∧ AreJoined declared body ∧
      IsFileAround writer version module text body)

/-- The order of a Lua file follows from what is declared in it. The declarations of a module stand
in descending order of their types and in ascending order of their names, and those of one type and
name in the order of the module. So when no two of them have the same type and name, the elements of
the module can be listed in any order, also those that are not declared: the decision about the
wrapper is the same, and so is the text, the notice that there is none, or the fault. -/
theorem file_in_order (writer : StubWriter) (version : String) (module : Value)
    (elements : List Value) (shaped : IsWellShaped module elements) :
    (∀ text?, moduleText? writer version module = .ok text? →
      IsInOrder writer version module text?) ∧
    (HasDistinctDeclarations writer module →
      ∀ other others, module.AgreeBut ["elements"] other →
        other.field? "elements" = some (.list others) → elements.Perm others →
        wrapper? writer module = wrapper? writer other ∧
          moduleText? writer version module = moduleText? writer version other ∧
          renderModule writer version module = renderModule writer version other) := by
  constructor
  · intro text? returns
    obtain ⟨declared, areDeclared, isFile⟩ := exists_declared_of_moduleText returns
    obtain ⟨fields, rfl⟩ := Value.exists_record_of_field? shaped.listed
    obtain ⟨selected, _, chosen, _, isSelected⟩ | ⟨fault, _⟩ :=
      exists_isSelected writer.settings.lua.selection
        (shaped.areAlike (.refl fields) shaped.listed (.refl elements))
    · obtain ⟨classified, _⟩ := isSelected.classified
      rw [moduleDeclarations_eq isSelected.selects isSelected.members classified] at areDeclared
      have inOrder := isFileOrder_fileOrder writer chosen
      refine ⟨selected, chosen, fileOrder writer chosen, declared, isSelected.selects,
        isSelected.members, inOrder,
        forall₂_of_declarationsOf (fun element among => ?_) (fun element among => ?_) areDeclared,
        isFile.imp id fun ⟨nonempty, text, isText, around⟩ =>
          ⟨text, _, isText, areJoined_joinDeclarations nonempty, around⟩⟩
      · exact classified element (List.mem_filter.1 (inOrder.perm.mem_iff.1 among)).1
      · exact (List.mem_filter.1 (inOrder.perm.mem_iff.1 among)).2
    · rw [moduleDeclarations, fault] at areDeclared
      cases areDeclared
  · intro distinct other others agree foundOther perm
    obtain ⟨sameWrapper, sameText⟩ := moduleText?_eq_of_perm version shaped agree foundOther perm
      distinct
    refine ⟨sameWrapper, sameText, ?_⟩
    rw [renderModule, renderModule, sameText, agree.require_eq (by decide)]

/-- A module with properties, messages and a function that is left undeclared has its declarations
in order, and the same file when its elements are reversed. -/
theorem file_in_order_of_reversed :
    let writer : StubWriter := { settings := .default, known := ⟨[]⟩ }
    let elements : List Value := [("FUNCTION", "go.set"), ("PROPERTY", "go.euler"),
      ("VARIABLE", "go.EASING"), ("FUNCTION", "init"), ("FUNCTION", "go.get"),
      ("MESSAGE", "enable")].map fun keys =>
        .record [("type", .text keys.1), ("name", .text keys.2)]
    let module (elements : List Value) : Value :=
      .record [("namespace", .text "go"), ("brief", .text "Game object"),
        ("elements", .list elements)]
    (∃ text?, moduleText? writer "1.9.0" (module elements) = .ok text? ∧
      IsInOrder writer "1.9.0" (module elements) text?) ∧
    wrapper? writer (module elements) = wrapper? writer (module elements.reverse) ∧
    renderModule writer "1.9.0" (module elements) =
      renderModule writer "1.9.0" (module elements.reverse) := by
  intro writer elements module
  have shaped : IsWellShaped (module elements) elements :=
    ⟨⟨"go", rfl⟩, rfl, List.forall_mem_map.2 fun keys _ => ⟨⟨keys.2, rfl⟩, ⟨keys.1, rfl⟩⟩⟩
  have selects : writer.settings.lua.selection.select (module elements) = .ok (module elements) :=
    select_everything rfl
  have members : membersOf (module elements) = .ok elements := rfl
  have declaresEach : ∀ element ∈ elements, (declaration? writer element).isOk = true := by
    decide +kernel
  have hasHeader : (moduleHeader writer "1.9.0" (module elements)).isOk = true := by decide +kernel
  have distinctKeys : ((elements.filter (isEmitted writer)).map fun element =>
      (typeOf element, nameOf element)).Nodup := by
    decide +kernel
  obtain ⟨top, isTop⟩ := Outcome.exists_of_isOk hasHeader
  obtain ⟨text?, returns⟩ :=
    exists_moduleText? selects members shaped.classified rfl declaresEach isTop
  obtain ⟨inOrder, sameFile⟩ := file_in_order writer "1.9.0" (module elements) elements shaped
  have distinct : HasDistinctDeclarations writer (module elements) := by
    intro selected chosen isSelected areMembers
    obtain rfl := Except.ok.inj (selects.symm.trans isSelected)
    obtain rfl := Except.ok.inj (members.symm.trans areMembers)
    exact distinctKeys
  have agree : (module elements).AgreeBut ["elements"] (module elements.reverse) := by
    refine ⟨_, _, rfl, rfl, fun key outside => ?_⟩
    simp only [Table.get?_cons, List.mem_singleton.not.1 outside, if_false]
  obtain ⟨sameWrapper, _, sameRun⟩ := sameFile distinct (module elements.reverse) elements.reverse
    agree rfl (List.reverse_perm elements).symm
  exact ⟨⟨text?, returns, inOrder text? returns⟩, sameWrapper, sameRun⟩

end ApiStubs.Lua
