import ApiStubs.Proofs.Reference.Documented
import ApiStubs.Reference.KnownModule

/-!
# The module of the known types

The module that is made of the known classes and aliases has an element for each of them, and no
other (`exists_isKnownModule`). It has the shape of a documented module, and none of its classes
lacks its fields. A known class keeps the fields and operators of its declaration, whatever shapes
these have (`exists_isKnownClass`).
-/

namespace ApiStubs

/-- A name of a known class or alias. -/
def Settings.Knows (settings : Settings) (name : String) : Prop :=
  name ∈ settings.classes.keys ∨ name ∈ settings.aliases.keys

instance (settings : Settings) (name : String) : Decidable (settings.Knows name) :=
  inferInstanceAs (Decidable (_ ∨ _))

namespace Reference

open ApiStubs.Value

/-! ## Classes -/

/-- A table of a shape can be read as one. -/
theorem exists_toTable {each : Value → Prop} {value : Value} (isTable : value.IsTableOf each) :
    ∃ table, value.toTable = .ok table ∧ table.All each := by
  obtain ⟨fields, rfl, shapes⟩ := isTable
  have nothing : Table.All each [] := by simp [Table.All]
  exact ⟨_, rfl, nothing.update shapes⟩

/-- The element of a known class, whose fields and operators have given shapes. -/
structure IsKnownClass (field operator : Value → Prop) (name : String) (element : Value) : Prop
    where
  type : element.field? "type" = some (.text "BASIC_CLASS")
  name : element.field? "name" = some (.text name)
  description : element.field? "description" = some (.text "")
  fields : element.Requires "fields" (IsTableOf field)
  operators : element.Offers "operators" (IsTableOf operator)
  noParameters : element.field? "parameters" = none
  noResults : element.field? "returnvalues" = none

/-- A known class has an element, which keeps the shapes of its fields and operators. -/
theorem exists_isKnownClass (name : String) {declaration : Value} {field operator : Value → Prop}
    (isRecord : ∃ fields, declaration = .record fields)
    (fields : declaration.Offers "fields" (IsTableOf field))
    (operators : declaration.Offers "operators" (IsTableOf operator)) :
    ∃ element, knownClass name declaration = .ok element ∧
      IsKnownClass field operator name element := by
  obtain ⟨entries, rfl⟩ := isRecord
  obtain ⟨_, read, isTable⟩ := fields.exists_getOr ⟨[], rfl, by simp [Table.All]⟩
  obtain ⟨table, isFields, shapes⟩ := exists_toTable isTable
  rw [knownClass, read, Outcome.ok_bind, isFields, Outcome.ok_bind]
  cases found : (Value.record entries).field? "operators" with
  | none =>
      refine ⟨_, rfl, rfl, rfl, rfl, ⟨_, rfl, table, rfl, shapes⟩, fun value present => ?_, rfl,
        rfl⟩
      cases present
  | some given =>
      obtain ⟨operatorTable, isOperators, operatorShapes⟩ := exists_toTable (operators given found)
      simp only [isOperators]
      refine ⟨_, rfl, rfl, rfl, rfl, ⟨_, rfl, table, rfl, shapes⟩, fun value present => ?_, rfl,
        rfl⟩
      obtain rfl : Value.record operatorTable = value := Option.some.inj present
      exact ⟨operatorTable, rfl, operatorShapes⟩

/-! ## Elements -/

/-- The element of a known class or alias of a name. -/
inductive IsKnownElement (settings : Settings) (name : String) : Value → Prop
  | classType {declaration element : Value} (isClass : (name, declaration) ∈ settings.classes)
      (made : knownClass name declaration = .ok element) : IsKnownElement settings name element
  | aliasType {target : Value} (isAlias : (name, target) ∈ settings.aliases) :
      IsKnownElement settings name (knownAlias name target)

/-- What has an element is a known class or alias. -/
theorem IsKnownElement.knows {settings : Settings} {name : String} {element : Value}
    (isKnown : IsKnownElement settings name element) : settings.Knows name := by
  cases isKnown with
  | classType isClass _ => exact .inl (List.mem_map_of_mem isClass)
  | aliasType isAlias => exact .inr (List.mem_map_of_mem isAlias)

/-- The element of a known class whose name is that of no alias is made of its declaration. -/
theorem IsKnownElement.made_of_get? {settings : Settings} {name : String}
    {element declaration : Value} (isKnown : IsKnownElement settings name element)
    (distinct : settings.classes.keys.Nodup)
    (isClass : settings.classes.get? name = some declaration)
    (noAlias : name ∉ settings.aliases.keys) : knownClass name declaration = .ok element := by
  cases isKnown with
  | classType member made =>
      obtain rfl := Option.some.inj (isClass.symm.trans (Table.get?_of_mem distinct member))
      exact made
  | aliasType isAlias => exact absurd (List.mem_map_of_mem isAlias) noAlias

section Shaped

variable {settings : Settings} (classes : settings.classes.All IsClassDeclaration)

include classes

/-- A known class or alias has an element. -/
theorem exists_isKnownElement {name : String} (known : settings.Knows name) :
    ∃ element, IsKnownElement settings name element := by
  rcases known with isClass | isAlias
  · obtain ⟨⟨_, declaration⟩, member, rfl⟩ := List.mem_map.1 isClass
    obtain ⟨element, made, _⟩ := exists_isKnownClass _ (classes _ member).isRecord
      (classes _ member).fields (classes _ member).operators
    exact ⟨element, .classType member made⟩
  · obtain ⟨⟨_, target⟩, member, rfl⟩ := List.mem_map.1 isAlias
    exact ⟨_, .aliasType member⟩

/-- The element of a known class has the shapes that its declaration has. -/
theorem isKnownClass_of_made {name : String} {declaration element : Value}
    (isClass : (name, declaration) ∈ settings.classes)
    (made : knownClass name declaration = .ok element) {field operator : Value → Prop}
    (fields : declaration.Offers "fields" (IsTableOf field))
    (operators : declaration.Offers "operators" (IsTableOf operator)) :
    IsKnownClass field operator name element := by
  obtain ⟨other, madeOther, isKnown⟩ :=
    exists_isKnownClass name (classes _ isClass).isRecord fields operators
  obtain rfl := Except.ok.inj (made.symm.trans madeOther)
  exact isKnown

end Shaped

namespace IsKnownElement

variable {settings : Settings} (shaped : settings.IsShaped) {name : String} {element : Value}
  (isKnown : IsKnownElement settings name element)

include shaped isKnown

/-- The element of a known class or alias is a documented one, of its name. -/
theorem isDocumentedElement : IsDocumentedElement element ∧
    element.field? "name" = some (.text name) := by
  cases isKnown with
  | @classType declaration _ isClass made =>
      have declared := shaped.classes _ isClass
      have known := isKnownClass_of_made shaped.classes isClass made declared.fields
        declared.operators
      refine ⟨⟨⟨_, known.name⟩, ⟨_, known.type⟩, fun value found => ?_, fun value found => ?_,
        fun value found => ?_, fun value found => ?_, fun value found => ?_, fun isAlias => ?_⟩,
        known.name⟩
      · obtain rfl := Option.some.inj (known.description.symm.trans found)
        exact .inr (isText_text "")
      · cases known.noParameters.symm.trans found
      · cases known.noResults.symm.trans found
      · obtain ⟨fields, present, isTable⟩ := known.fields
        obtain rfl := Option.some.inj (present.symm.trans found)
        exact isTable
      · exact .inr (known.operators value found)
      · simp [known.type] at isAlias
  | @aliasType target isAlias =>
      refine ⟨⟨⟨name, rfl⟩, ⟨_, rfl⟩, fun value found => ?_, fun value found => ?_,
        fun value found => ?_, fun value found => ?_, fun value found => ?_, fun _ => ?_⟩, rfl⟩
      · obtain rfl : Value.text "" = value := Option.some.inj found
        exact .inr (isText_text "")
      · cases found
      · cases found
      · cases found
      · cases found
      · exact ⟨target, rfl, shaped.aliases _ isAlias⟩

/-- No known class lacks its fields. -/
theorem not_isBareClass (other : String) : ¬ IsBareClass other element := by
  intro bare
  cases isKnown with
  | @classType declaration _ isClass made =>
      have declared := shaped.classes _ isClass
      obtain ⟨fields, present, _⟩ := (isKnownClass_of_made shaped.classes isClass made
        declared.fields declared.operators).fields
      cases present.symm.trans bare.bare
  | @aliasType target _ =>
      have isAlias : (knownAlias name target).field? "type" = some (.text "BASIC_ALIAS") := rfl
      simpa using isAlias.symm.trans bare.type

/-- The element of a known class or alias can be declared as one. -/
theorem exists_kind :
    ∃ kind, Kind.of? element = .ok (some kind) ∧ (kind = .classType ∨ kind = .aliasType) := by
  cases isKnown with
  | @classType declaration _ isClass made =>
      have declared := shaped.classes _ isClass
      have known :=
        isKnownClass_of_made shaped.classes isClass made declared.fields declared.operators
      exact ⟨.classType, kind_of_typed known.type, .inl rfl⟩
  | aliasType _ => exact ⟨.aliasType, rfl, .inr rfl⟩

end IsKnownElement

/-! ## The module -/

/-- A module that declares the known classes and aliases of settings: it has the element of each of
them, and no other. -/
structure IsKnownModule (settings : Settings) (module : Value) (elements : List Value) : Prop where
  space : module.field? "namespace" = some (.text knownNamespace)
  brief : module.field? "brief" = some (.text knownBrief)
  description : module.field? "description" = some .null
  listed : module.field? "elements" = some (.list elements)
  mem_iff : ∀ element, element ∈ elements ↔ ∃ name, IsKnownElement settings name element

/-- The module of the known types can be made. -/
theorem exists_isKnownModule {settings : Settings}
    (classes : settings.classes.All IsClassDeclaration) : ∃ module elements,
      knownModule settings = .ok module ∧ IsKnownModule settings module elements := by
  obtain ⟨classElements, made⟩ : ∃ classElements,
      settings.classes.sorted.mapM (fun entry => knownClass entry.1 entry.2) = .ok classElements :=
    Outcome.exists_mapM_of_each fun entry member => by
      have declared := classes entry (List.mem_mergeSort.1 member)
      obtain ⟨element, made, _⟩ :=
        exists_isKnownClass entry.1 declared.isRecord declared.fields declared.operators
      exact ⟨element, made⟩
  refine ⟨_, classElements ++ settings.aliases.sorted.map fun entry => knownAlias entry.1 entry.2,
    Outcome.bind_eq_ok.2 ⟨classElements, made, rfl⟩, rfl, rfl, rfl, rfl, fun element => ?_⟩
  rw [List.mem_append, Outcome.mem_mapM_iff made, List.mem_map]
  constructor
  · rintro (⟨entry, member, makes⟩ | ⟨entry, member, rfl⟩)
    · exact ⟨entry.1, .classType (List.mem_mergeSort.1 member) makes⟩
    · exact ⟨entry.1, .aliasType (List.mem_mergeSort.1 member)⟩
  · rintro ⟨name, ⟨isClass, makes⟩ | ⟨isAlias⟩⟩
    · exact .inl ⟨_, List.mem_mergeSort.2 isClass, makes⟩
    · exact .inr ⟨_, List.mem_mergeSort.2 isAlias, rfl⟩

namespace IsKnownModule

variable {settings : Settings} {module : Value} {elements : List Value}
  (isKnown : IsKnownModule settings module elements)

include isKnown

/-- The elements of the module are listed in it. -/
theorem membersOf_eq : membersOf module = .ok elements := by
  rw [membersOf, require_eq_ok.2 isKnown.listed]
  rfl

/-- The module of the known types is a documented one. -/
theorem isDocumentedModule (shaped : settings.IsShaped) : IsDocumentedModule module where
  space := ⟨_, isKnown.space⟩
  brief := ⟨_, isKnown.brief, isText_text _⟩
  description := fun value found =>
    .inl (Option.some.inj (isKnown.description.symm.trans found)).symm
  elements := ⟨elements, isKnown.listed, fun element member => by
    obtain ⟨name, isElement⟩ := (isKnown.mem_iff element).1 member
    exact (isElement.isDocumentedElement shaped).1⟩

end IsKnownModule

end Reference

end ApiStubs
