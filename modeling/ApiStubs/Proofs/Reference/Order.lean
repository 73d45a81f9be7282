import ApiStubs.Proofs.Rearrangement
import ApiStubs.Proofs.Reference.Placement
import ApiStubs.Proofs.Table
import ApiStubs.Reference.Kind
import ApiStubs.Signature
import ApiStubs.Value.Order

/-!
# The order of modules and elements

Modules can be listed in any order, as can the elements of a module and the entries of a class. What
is selected of rearranged modules is rearranged, and so are the elements of the groups at every
path. Elements must have texts for their names and types; no other shape is asked of them.

- `AreAlike` relates elements that differ in the order of their fields and operators only, and
  `AreAlikeModules` relates modules that differ in the order of such elements.
- `agrees_selectAll` says that the selections of rearranged modules are rearranged, or both are
  stopped by the same fault.
- `Group.agrees_ofModules` says the same of the elements at each path of their groups.
-/

namespace ApiStubs

namespace Value

/-- A value, or the record with its entries in another order. -/
inductive IsReordered : Value → Value → Prop
  | same (value : Value) : IsReordered value value
  | entries {fields others : Table Value} (distinct : fields.keys.Nodup)
      (perm : fields.Perm others) : IsReordered (.record fields) (.record others)

/-- The order of entries does not matter to a look-up. -/
theorem IsReordered.get_eq {value other : Value} (reordered : IsReordered value other)
    (key : String) : value.get key = other.get key := by
  cases reordered with
  | same => rfl
  | entries distinct perm => simp only [get, getOr_record, Table.get?_eq_of_perm distinct perm]

/-- The order of entries does not matter when they are read in ascending order. -/
theorem IsReordered.sortedFields_eq {value other : Value} (reordered : IsReordered value other) :
    value.sortedFields = other.sortedFields := by
  cases reordered with
  | same => rfl
  | entries distinct perm =>
      rw [sortedFields_record, sortedFields_record, Table.sorted_eq_of_perm distinct perm]

/-- A replacement for a value that does not count as given replaces it in every order. -/
theorem IsReordered.orElse {value other : Value} (reordered : IsReordered value other)
    (replacement : Value) :
    IsReordered (value.orElse replacement) (other.orElse replacement) := by
  cases reordered with
  | same => exact .same _
  | @entries fields others distinct perm =>
      have given : (Value.record fields).isGiven = (Value.record others).isGiven := by
        simp only [isGiven, Bool.not_inj_iff]
        rw [Bool.eq_iff_iff, List.isEmpty_iff, List.isEmpty_iff]
        exact ⟨fun empty => (empty ▸ perm).nil_eq.symm, fun empty => (empty ▸ perm).eq_nil⟩
      rw [Value.orElse, Value.orElse, ← given]
      split
      · exact .entries distinct perm
      · exact .same _

end Value

namespace Reference

/-! ## Elements that are alike -/

/-- The fields of an element whose entries are read in ascending order. -/
def mappings : List String := ["fields", "operators"]

/-- Elements with texts for their names and types that differ in nothing but the order of their
fields and operators. -/
structure AreAlike (element other : Value) : Prop where
  named : ∃ name, element.field? "name" = some (.text name)
  typed : ∃ type, element.field? "type" = some (.text type)
  equal : ∀ key, key ∉ mappings → element.field? key = other.field? key
  reordered : ∀ key ∈ mappings,
    Option.Rel Value.IsReordered (element.field? key) (other.field? key)

namespace AreAlike

variable {element other : Value}

/-- An element with texts for its name and type is like itself. -/
theorem refl (named : ∃ name, element.field? "name" = some (.text name))
    (typed : ∃ type, element.field? "type" = some (.text type)) : AreAlike element element := by
  refine ⟨named, typed, fun _ _ => rfl, fun key _ => ?_⟩
  cases element.field? key with
  | none => exact .none
  | some value => exact .some (.same value)

/-- Elements that are alike are records. -/
theorem exists_records (alike : AreAlike element other) :
    ∃ fields others, element = .record fields ∧ other = .record others := by
  obtain ⟨name, named⟩ := alike.named
  obtain ⟨fields, isRecord⟩ := Value.exists_record_of_field? named
  obtain ⟨others, otherIsRecord⟩ :=
    Value.exists_record_of_field? ((alike.equal "name" (by decide)).symm.trans named)
  exact ⟨fields, others, isRecord, otherIsRecord⟩

/-- Elements that are alike have the same name. -/
theorem exists_name (alike : AreAlike element other) :
    ∃ name, element.field? "name" = some (.text name) ∧
      other.field? "name" = some (.text name) := by
  obtain ⟨name, named⟩ := alike.named
  exact ⟨name, named, (alike.equal "name" (by decide)).symm.trans named⟩

/-- A field that is no mapping is required of both elements alike. -/
theorem require_eq (alike : AreAlike element other) {key : String} (plain : key ∉ mappings) :
    element.require key = other.require key := by
  have equal := alike.equal key plain
  obtain ⟨fields, others, rfl, rfl⟩ := alike.exists_records
  rw [Value.field?_record, Value.field?_record] at equal
  rw [Value.require, Value.require, equal]

/-- A field that is no mapping is looked up in both elements alike. -/
theorem get_eq (alike : AreAlike element other) {key : String} (plain : key ∉ mappings) :
    element.get key = other.get key := by
  have equal := alike.equal key plain
  obtain ⟨fields, others, rfl, rfl⟩ := alike.exists_records
  rw [Value.field?_record, Value.field?_record] at equal
  simp only [Value.get, Value.getOr_record, equal]

/-- A mapping is looked up in both elements, and what is found differs in order only. -/
theorem exists_get (alike : AreAlike element other) {key : String} (mapping : key ∈ mappings) :
    ∃ found foundOther, element.get key = .ok found ∧ other.get key = .ok foundOther ∧
      found.IsReordered foundOther := by
  have reordered := alike.reordered key mapping
  obtain ⟨fields, others, rfl, rfl⟩ := alike.exists_records
  refine ⟨_, _, Value.getOr_record .., Value.getOr_record .., ?_⟩
  rw [Value.field?_record, Value.field?_record] at reordered
  generalize Table.get? fields key = found, Table.get? others key = foundOther at reordered ⊢
  cases reordered with
  | some reordered => exact reordered
  | none => exact .same _

/-- Elements that are alike have the same keys. -/
theorem hasKey_eq (alike : AreAlike element other) (key : String) :
    element.hasKey key = other.hasKey key := by
  by_cases mapping : key ∈ mappings
  · have reordered := alike.reordered key mapping
    obtain ⟨fields, others, rfl, rfl⟩ := alike.exists_records
    rw [Value.field?_record, Value.field?_record] at reordered
    rw [Value.hasKey_record, Value.hasKey_record, Table.has, Table.has]
    generalize Table.get? fields key = found, Table.get? others key = foundOther at reordered ⊢
    cases reordered <;> rfl
  · have equal := alike.equal key mapping
    obtain ⟨fields, others, rfl, rfl⟩ := alike.exists_records
    rw [Value.field?_record, Value.field?_record] at equal
    rw [Value.hasKey_record, Value.hasKey_record, Table.has, Table.has, equal]

/-- A mapping is required of both elements, and what is found differs in order only. -/
theorem agrees_require (alike : AreAlike element other) {key : String} (mapping : key ∈ mappings) :
    Outcome.Agrees (.missingKey (.text key)) Value.IsReordered (element.require key)
      (other.require key) := by
  have reordered := alike.reordered key mapping
  obtain ⟨fields, others, rfl, rfl⟩ := alike.exists_records
  rw [Value.field?_record, Value.field?_record] at reordered
  rw [Value.require, Value.require]
  generalize Table.get? fields key = found, Table.get? others key = foundOther at reordered ⊢
  cases reordered with
  | some reordered => exact .ok reordered
  | none => exact .fault

/-- Elements that are alike are of the same kind. -/
theorem kind_eq (alike : AreAlike element other) : Kind.of? element = Kind.of? other := by
  rw [Kind.of?, Kind.of?, alike.require_eq (by decide)]

/-- Elements that are alike document the same parameters and results. -/
theorem documented_eq (alike : AreAlike element other) (side : Types.Side) :
    Signature.documented side element = Signature.documented side other := by
  rw [Signature.documented, Signature.documented, alike.get_eq (by cases side <;> decide)]

/-- Functions that are alike have the same signature. -/
theorem ofElement_eq (alike : AreAlike element other) (speller : Types.Speller) (owner : Value) :
    Signature.ofElement speller owner element = Signature.ofElement speller owner other := by
  simp only [Signature.ofElement, Signature.readSide, alike.documented_eq]

/-- Elements that are alike stay so under a new name. -/
theorem rename (alike : AreAlike element other) (name : String) :
    AreAlike (element.withField "name" (.text name)) (other.withField "name" (.text name)) := by
  obtain ⟨type, typed⟩ := alike.typed
  have kept {key : String} (differs : key ≠ "name") (value : Value) :
      (value.withField "name" (.text name)).field? key = value.field? key :=
    Value.field?_withField_of_ne differs
  obtain ⟨fields, others, rfl, rfl⟩ := alike.exists_records
  refine ⟨⟨name, Value.field?_withField_record ..⟩, ⟨type, ?_⟩, fun key plain => ?_,
    fun key mapping => ?_⟩
  · rw [kept (by decide), typed]
  · by_cases isName : key = "name"
    · rw [isName, Value.field?_withField_record, Value.field?_withField_record]
    · rw [kept isName, kept isName, alike.equal key plain]
  · have differs : key ≠ "name" := by
      rintro rfl
      exact absurd mapping (by decide)
    rw [kept differs, kept differs]
    exact alike.reordered key mapping

end AreAlike

/-! ## Selections -/

/-- Rejecting is dropping what meets a condition out of a computation over all members. -/
theorem rejecting_eq_bind (condition : Value → Outcome Bool) (members : List Value) :
    rejecting condition members = do
      let kept ← members.mapM fun member => do
        return if ← condition member then none else some member
      return kept.reduceOption := by
  induction members with
  | nil => rfl
  | cons member rest inductionHypothesis =>
      rw [rejecting, inductionHypothesis, List.mapM_cons]
      simp only [bind_assoc, pure_bind]
      congr 1
      funext isMet
      congr 1
      funext kept
      cases isMet <;> rfl

/-- Rejecting by a condition on which elements that are alike agree keeps lists rearranged. -/
theorem agrees_rejecting {condition : Value → Outcome Bool} {only : Fault}
    {members others : List Value} (rearranged : IsRearranged AreAlike members others)
    (decided : ∀ element other, AreAlike element other →
      Outcome.Agrees only Eq (condition element) (condition other)) :
    Outcome.Agrees only (IsRearranged AreAlike) (rejecting condition members)
      (rejecting condition others) := by
  rw [rejecting_eq_bind, rejecting_eq_bind]
  refine Outcome.Agrees.bind ?_
    fun _ _ (kept : IsRearranged (Option.Rel AreAlike) _ _) => .ok kept.reduceOption
  refine .mapM rearranged fun element other alike => ?_
  refine (decided element other alike).bind fun isMet _ same => ?_
  subst same
  cases isMet with
  | true => exact .ok .none
  | false => exact .ok (.some alike)

/-- Modules with one namespace whose elements are alike, in some order. -/
structure AreAlikeModules (module other : Value) : Prop where
  space : ∃ space, module.field? "namespace" = some (.text space) ∧
    other.field? "namespace" = some (.text space)
  elements : ∃ members others, module.field? "elements" = some (.list members) ∧
    other.field? "elements" = some (.list others) ∧ IsRearranged AreAlike members others

namespace AreAlikeModules

variable {module other : Value}

/-- Modules stay alike when their elements give way to rearranged ones. -/
theorem withElements (alike : AreAlikeModules module other) {kept keptOther : List Value}
    (rearranged : IsRearranged AreAlike kept keptOther) :
    AreAlikeModules (module.withField "elements" (.list kept))
      (other.withField "elements" (.list keptOther)) := by
  obtain ⟨space, found, foundOther⟩ := alike.space
  obtain ⟨fields, rfl⟩ := Value.exists_record_of_field? found
  obtain ⟨others, rfl⟩ := Value.exists_record_of_field? foundOther
  refine ⟨⟨space, ?_, ?_⟩, kept, keptOther, Value.field?_withField_record ..,
    Value.field?_withField_record .., rearranged⟩
  · rw [Value.field?_withField_of_ne (by decide), found]
  · rw [Value.field?_withField_of_ne (by decide), foundOther]

/-- Leaving elements out of modules that are alike keeps them alike. -/
theorem withoutElements (alike : AreAlikeModules module other)
    {condition : Value → Outcome Bool} {only : Fault}
    (decided : ∀ element other, AreAlike element other →
      Outcome.Agrees only Eq (condition element) (condition other)) :
    Outcome.Agrees only AreAlikeModules (withoutElements condition module)
      (withoutElements condition other) := by
  obtain ⟨members, others, found, foundOther, rearranged⟩ := alike.elements
  rw [Reference.withoutElements, Reference.withoutElements, Value.require_eq_ok.2 found,
    Value.require_eq_ok.2 foundOther]
  exact (agrees_rejecting rearranged decided).bind fun _ _ kept => .ok (alike.withElements kept)

/-- A change that keeps modules alike keeps them alike when it is made under a condition. -/
theorem changeWhen (alike : AreAlikeModules module other) (condition : Bool)
    {change : Value → Outcome Value} {only : Fault}
    (changed : Outcome.Agrees only AreAlikeModules (change module) (change other)) :
    Outcome.Agrees only AreAlikeModules (changeWhen condition change module)
      (changeWhen condition change other) := by
  cases condition with
  | false => exact .ok alike
  | true => exact changed

end AreAlikeModules

/-- Only a start that is no text stops the search for a start of a text. -/
theorem agrees_beginsWithAny (text : String) (starts : List Value) :
    Outcome.Agrees .wrongShape Eq (beginsWithAny text starts) (beginsWithAny text starts) := by
  induction starts with
  | nil => exact .ok rfl
  | cons start rest inductionHypothesis =>
      cases start with
      | text content =>
          rw [beginsWithAny]
          simp only [Value.asText, Outcome.ok_bind]
          split
          · exact .ok rfl
          · exact inductionHypothesis
      | _ => exact .fault

/-- Elements that are alike are global tables alike. -/
theorem agrees_isGlobalTable {element other : Value} (alike : AreAlike element other) :
    Outcome.Agrees .wrongShape Eq (isGlobalTable element) (isGlobalTable other) := by
  obtain ⟨fields, others, found, foundOther, reordered⟩ :=
    alike.exists_get (show "fields" ∈ mappings by decide)
  rw [isGlobalTable, isGlobalTable, found, foundOther, Outcome.ok_bind, Outcome.ok_bind]
  cases reordered with
  | same =>
      cases fields with
      | null => exact .ok rfl
      | record fields =>
          simp only [Value.get, Value.getOr_record, Outcome.ok_bind]
          split <;> exact .ok rfl
      | _ => exact .fault
  | entries distinct perm =>
      simp only [Value.get, Value.getOr_record, Outcome.ok_bind,
        Table.get?_eq_of_perm distinct perm]
      split <;> exact .ok rfl

/-- Leaving elements out of a module changes no other field. -/
theorem agreeBut_withoutElements {condition : Value → Outcome Bool} {module changed : Value}
    (returns : withoutElements condition module = .ok changed) :
    module.AgreeBut ["elements"] changed := by
  simp only [withoutElements, Outcome.bind_eq_ok, Outcome.pure_eq_ok, Value.require_eq_ok]
    at returns
  obtain ⟨_, found, _, _, kept, _, rfl⟩ := returns
  obtain ⟨fields, rfl⟩ := Value.exists_record_of_field? found
  exact .withField fields "elements" (.list kept)

/-- Leaving elements out of a module under a condition changes no other field. -/
theorem agreeBut_changeWhen {condition : Bool} {isOut : Value → Outcome Bool}
    {module start changed : Value} (agree : module.AgreeBut ["elements"] start)
    (returns : changeWhen condition (withoutElements isOut) start = .ok changed) :
    module.AgreeBut ["elements"] changed := by
  cases condition with
  | false => exact Except.ok.inj returns ▸ agree
  | true => exact agree.trans (agreeBut_withoutElements returns)

end Reference

namespace Selection

open ApiStubs.Reference

/-- A selection changes no field of a module but its elements. -/
theorem agreeBut_select {selection : Selection} {module selected : Value}
    (returns : selection.select module = .ok selected) :
    module.AgreeBut ["elements"] selected := by
  simp only [select, Outcome.bind_eq_ok, Value.require_eq_ok] at returns
  obtain ⟨space, found, isAdmitted, _, returns⟩ := returns
  obtain ⟨fields, rfl⟩ := Value.exists_record_of_field? found
  split at returns
  · obtain rfl := Outcome.pure_eq_ok.1 returns
    exact .withField fields "elements" (.list [])
  · simp only [Outcome.bind_eq_ok] at returns
    obtain ⟨_, first, _, second, _, _, third⟩ := returns
    have agreeFirst := agreeBut_changeWhen (.refl fields) first
    exact agreeBut_changeWhen (agreeBut_changeWhen agreeFirst second) third

/-- Selections of modules that are alike are alike. -/
theorem agrees_select (selection : Selection) {module other : Value}
    (alike : AreAlikeModules module other) :
    Outcome.Agrees .wrongShape AreAlikeModules (selection.select module)
      (selection.select other) := by
  obtain ⟨space, found, foundOther⟩ := alike.space
  have admitted : ∃ answer, selection.admits (.text space) = .ok answer := by
    rw [admits]
    cases selection.namespaces <;> exact ⟨_, rfl⟩
  obtain ⟨answer, admission⟩ := admitted
  rw [select, select, Value.require_eq_ok.2 found, Value.require_eq_ok.2 foundOther]
  simp only [Outcome.ok_bind, admission, Value.lookupIn]
  cases answer with
  | false => exact .ok (alike.withElements ⟨[], .nil, .nil⟩)
  | true =>
      refine (alike.changeWhen _ (alike.withoutElements ?_)).bind fun _ _ alike =>
        (alike.changeWhen _ (alike.withoutElements ?_)).bind fun _ _ alike =>
          alike.changeWhen _ (alike.withoutElements ?_)
      · intro element other alike
        obtain ⟨name, named, namedOther⟩ := alike.exists_name
        rw [hasBarredStart, hasBarredStart, Value.require_eq_ok.2 named,
          Value.require_eq_ok.2 namedOther]
        exact agrees_beginsWithAny name selection.barredStarts
      · exact fun _ _ => agrees_isGlobalTable
      · intro element other alike
        obtain ⟨name, named, namedOther⟩ := alike.exists_name
        rw [isNamedIn, isNamedIn, Value.require_eq_ok.2 named, Value.require_eq_ok.2 namedOther]
        exact .ok rfl

/-- Selections of rearranged modules are rearranged, or both stopped by the same fault. -/
theorem agrees_selectAll (selection : Selection) {modules others : List Value}
    (rearranged : IsRearranged AreAlikeModules modules others) :
    Outcome.Agrees .wrongShape (IsRearranged AreAlikeModules) (selection.selectAll modules)
      (selection.selectAll others) :=
  .mapM rearranged fun _ _ => selection.agrees_select

end Selection

namespace Reference

/-- The elements that a selection declares of several modules. -/
def selectedElements (selection : Selection) (modules : List Value) : Outcome (List Value) := do
  elementsOf (← selection.selectAll modules)

/-- Rearranged modules have rearranged elements. -/
theorem exists_elementsOf_of_alike {modules others : List Value}
    (rearranged : IsRearranged AreAlikeModules modules others) :
    ∃ elements otherElements, elementsOf modules = .ok elements ∧
      elementsOf others = .ok otherElements ∧ IsRearranged AreAlike elements otherElements := by
  obtain ⟨lists, otherLists, returns, returnsOther, related⟩ :
      ∃ lists otherLists, modules.mapM membersOf = .ok lists ∧
        others.mapM membersOf = .ok otherLists ∧
        IsRearranged (IsRearranged AreAlike) lists otherLists := by
    refine rearranged.exists_mapM fun module other alike => ?_
    obtain ⟨members, others, found, foundOther, rearranged⟩ := alike.elements
    refine ⟨members, others, ?_, ?_, rearranged⟩
    · rw [membersOf, Value.require_eq_ok.2 found]
      rfl
    · rw [membersOf, Value.require_eq_ok.2 foundOther]
      rfl
  refine ⟨lists.flatten, otherLists.flatten, ?_, ?_, related.flatten⟩
  · rw [elementsOf, returns]
    rfl
  · rw [elementsOf, returnsOther]
    rfl

/-! ## Groups -/

/-- The kind and the name that an element is declared with, if it can be declared. -/
def declaredAs (element : Value) : Option (Kind × String) :=
  (Kind.of? element).toOption.join.map fun kind => (kind, Group.nameOf element)

/-- The kind of an element follows from the text of its type. -/
theorem kind_of_typed {element : Value} {type : String}
    (typed : element.field? "type" = some (.text type)) :
    Kind.of? element = .ok (Kind.byType.get? type) := by
  rw [Kind.of?, Value.require_eq_ok.2 typed]
  rfl

namespace Group

/-- An element is declared with the kind of what it appears as, under the name of that behind the
keys. -/
theorem IsShownAs.declaredAs_eq {path : List String} {element shown : Value}
    (appears : IsShownAs path element shown) :
    declaredAs element =
      (declaredAs shown).map fun declared => (declared.1, dottedName path declared.2) := by
  obtain ⟨last, namedShown, named⟩ := appears.named
  have name : nameOf element = dottedName path last := by simp [nameOf, named, Value.text?]
  have nameShown : nameOf shown = last := by simp [nameOf, namedShown, Value.text?]
  rw [declaredAs, declaredAs, appears.kind_eq, name, nameShown, Option.map_map]
  rfl

/-- Elements are declared with the kinds of what they appear as, under the names of these behind the
keys. -/
theorem filterMap_declaredAs_of_shown {path : List String} {elements shown : List Value}
    (appear : List.Forall₂ (IsShownAs path) elements shown) :
    elements.filterMap declaredAs = (shown.filterMap declaredAs).map
      fun declared => (declared.1, dottedName path declared.2) := by
  induction appear with
  | nil => rfl
  | @cons element other _ _ appears _ inductionHypothesis =>
      rw [List.filterMap_cons, List.filterMap_cons, inductionHypothesis, appears.declaredAs_eq]
      cases declaredAs other <;> rfl

/-- Groups whose elements at every path are alike, in some order. -/
def AreAlikeGroups (group other : Group) : Prop :=
  ∀ path, IsRearranged AreAlike (group.elementsAt path) (other.elementsAt path)

/-- Elements that are alike are put at the same path, and are alike there. -/
theorem alike_localized {element other : Value} (alike : AreAlike element other) :
    home element = home other ∧ AreAlike (localized element) (localized other) := by
  obtain ⟨name, named, namedOther⟩ := alike.exists_name
  have nameIs : nameOf element = name := by simp [nameOf, named]
  have nameIsOther : nameOf other = name := by simp [nameOf, namedOther]
  refine ⟨by rw [home, home, nameIs, nameIsOther], ?_⟩
  rw [localized, localized, nameIs, nameIsOther]
  exact alike.rename _

/-- Putting rearranged elements into groups makes groups that are alike. -/
theorem areAlikeGroups_foldl_put {elements others : List Value}
    (rearranged : IsRearranged AreAlike elements others) :
    AreAlikeGroups (elements.foldl put outermost) (others.foldl put outermost) := by
  intro path
  rw [elementsAt_foldl_put, elementsAt_foldl_put, outermost, elementsAt_empty, List.nil_append,
    List.nil_append]
  refine (rearranged.filter fun element other alike => ?_).map fun element other alike =>
    (alike_localized alike).2
  rw [(alike_localized alike).1]

/-- A group inside a tidy one is found in every group that has elements wherever that one does. -/
theorem exists_get?_of_inhabited {group other inside : Group} (tidy : group.Tidy) {key : String}
    (found : group.groups.get? key = some inside)
    (inhabited : ∀ path, group.elementsAt path ≠ [] → other.elementsAt path ≠ []) :
    ∃ otherInside, other.groups.get? key = some otherInside := by
  obtain ⟨_, _, _, _, inhabitedInside, _⟩ := tidy
  obtain ⟨path, innermost, leads, nonempty⟩ := inhabitedInside _ (Table.mem_of_get? found)
  rw [← elementsAt_of_follow leads] at nonempty
  have hasElements : other.elementsAt (key :: path) ≠ [] := by
    refine inhabited _ ?_
    rwa [elementsAt, found]
  rw [elementsAt] at hasElements
  cases foundOther : other.groups.get? key with
  | some otherInside => exact ⟨otherInside, rfl⟩
  | none => simp [foundOther] at hasElements

/-- Groups that are alike have the same keys, with groups that are alike. -/
theorem AreAlikeGroups.get? {group other : Group} (alike : AreAlikeGroups group other)
    (tidy : group.Tidy) (tidyOther : other.Tidy) (key : String) :
    Option.Rel AreAlikeGroups (group.groups.get? key) (other.groups.get? key) := by
  have empty (path : List String) :
      group.elementsAt path = [] ↔ other.elementsAt path = [] := by
    rw [← List.length_eq_zero_iff, (alike path).length_eq, List.length_eq_zero_iff]
  cases found : group.groups.get? key with
  | none =>
      cases foundOther : other.groups.get? key with
      | none => exact .none
      | some otherInside =>
          obtain ⟨inside, isFound⟩ := exists_get?_of_inhabited tidyOther foundOther
            fun path => mt (empty path).1
          simp [found] at isFound
  | some inside =>
      obtain ⟨otherInside, foundOther⟩ := exists_get?_of_inhabited tidy found
        fun path => mt (empty path).2
      rw [foundOther]
      refine .some fun path => ?_
      have alikeThere := alike (key :: path)
      rwa [elementsAt, elementsAt, found, foundOther] at alikeThere

/-- Groups at no path of which two elements are declared with the same kind and name. -/
def HasDistinctDeclarations (group : Group) : Prop :=
  ∀ path, ((group.elementsAt path).filterMap declaredAs).Nodup

/-- What holds of declarations in a group holds of those in the groups inside it. -/
theorem HasDistinctDeclarations.inside {group inside : Group}
    (distinct : group.HasDistinctDeclarations) {key : String}
    (found : group.groups.get? key = some inside) : inside.HasDistinctDeclarations := by
  intro path
  have distinctThere := distinct (key :: path)
  rwa [elementsAt, found] at distinctThere

/-- Elements with distinct kinds and names have distinct ones in their groups. -/
theorem hasDistinctDeclarations_foldl_put {elements : List Value}
    (shaped : ∀ element ∈ elements, ∃ other, AreAlike element other)
    (distinct : (elements.filterMap declaredAs).Nodup) :
    (elements.foldl put outermost).HasDistinctDeclarations := by
  intro path
  have appear : List.Forall₂ (IsShownAs path) (elements.filter fun element => home element == path)
      ((elements.filter fun element => home element == path).map localized) := by
    rw [List.forall₂_map_right_iff, List.forall₂_same]
    intro element member
    obtain ⟨among, isHome⟩ := List.mem_filter.1 member
    obtain ⟨_, alike⟩ := shaped element among
    exact isShownAs_localized alike.named (beq_iff_eq.1 isHome)
  rw [elementsAt_foldl_put, outermost, elementsAt_empty, List.nil_append]
  -- Behind the keys of the path, the last segments of the names become the names again.
  refine List.Nodup.of_map
    (fun declared : Kind × String => (declared.1, dottedName path declared.2)) ?_
  rw [← filterMap_declaredAs_of_shown appear]
  exact distinct.sublist (List.filter_sublist.filterMap _)

/-- The groups of rearranged modules are made of rearranged elements, or both are stopped by the
same fault. -/
theorem agrees_ofModules (selection : Selection) {modules others : List Value}
    (rearranged : IsRearranged AreAlikeModules modules others) :
    Outcome.Agrees .wrongShape
      (fun root other => ∃ elements otherElements,
        selectedElements selection modules = .ok elements ∧
        IsRearranged AreAlike elements otherElements ∧
        root = elements.foldl put outermost ∧ other = otherElements.foldl put outermost)
      (ofModules selection modules) (ofModules selection others) := by
  have placed {modules elements : List Value} (read : elementsOf modules = .ok elements)
      (named : ∀ element ∈ elements, ∃ name, element.field? "name" = some (.text name)) :
      modules.foldlM placeAll outermost = .ok (elements.foldl put outermost) :=
    foldlM_placeAll_eq_ok.2 ⟨elements, read, (Outcome.foldlM_eq_ok place_eq_ok).2 ⟨named, rfl⟩⟩
  rw [ofModules, ofModules, selectedElements]
  have agrees := selection.agrees_selectAll rearranged
  generalize selection.selectAll modules = first, selection.selectAll others = second at agrees ⊢
  cases agrees with
  | fault => exact .fault
  | ok selected =>
      obtain ⟨elements, otherElements, read, readOther, alike⟩ :=
        exists_elementsOf_of_alike selected
      rw [Outcome.ok_bind, Outcome.ok_bind, Outcome.ok_bind, placed read fun element among => ?_,
        placed readOther fun other among => ?_]
      · exact .ok ⟨elements, otherElements, read, alike, rfl, rfl⟩
      · obtain ⟨_, _, alike⟩ := alike.exists_left among
        exact alike.exists_name.imp fun _ => And.right
      · obtain ⟨_, _, alike⟩ := alike.exists_right among
        exact alike.named

end Group

end Reference

end ApiStubs
