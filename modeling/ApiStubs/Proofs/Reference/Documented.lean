import ApiStubs.Proofs.Pattern
import ApiStubs.Proofs.Reference.Order
import ApiStubs.Proofs.Reference.Selection
import ApiStubs.Proofs.Settings.Amendment
import ApiStubs.Proofs.Signature
import ApiStubs.Proofs.Types.Spelling

/-!
# Documented elements and their signatures

The shape that a reference gives to its modules, elements, parameters and return values. It lets a
class lack its fields; `IsBareClass` is such a class.

- `IsDocumentedModule.exists_kept` says that a selection keeps elements of this shape of a module.
- `exists_ofElement` says that a documented element has a signature whose types are texts, in a
  dialect whose tables hold texts and whose pattern of arrays every text can fill.
-/

namespace ApiStubs

open ApiStubs.Value ApiStubs.Types

/-- A dialect whose pattern of arrays every text can fill. -/
def Dialect.FillsArrays (dialect : Dialect) : Prop :=
  ∀ content, ∃ filled, Pattern.fill dialect.arrayPattern (.text content) = .ok filled

/-- A pattern with one plain place can be filled with every text. -/
theorem Dialect.FillsArrays.of_pieces {dialect : Dialect} {before after : List Char}
    (read : Pattern.pieces dialect.arrayPattern =
      before.map .char ++ .place .plain :: after.map .char) : dialect.FillsArrays :=
  fun content => ⟨_, Pattern.fill_of_pieces read content⟩

/-- A dialect in shape can spell whatever is documented when its pattern can be filled. -/
theorem Dialect.IsShaped.canSpell {dialect : Dialect} (shaped : dialect.IsShaped)
    (fills : dialect.FillsArrays) : dialect.CanSpell where
  fallbackType := shaped.fallbackType
  substitutions := shaped.substitutions
  overrides := shaped.overrides
  arrays := fills

/-- A dialect in shape has a selection whose barred starts are texts. -/
theorem Dialect.IsShaped.hasTextStarts {dialect : Dialect} (shaped : dialect.IsShaped) :
    dialect.selection.HasTextStarts :=
  shaped.barredStarts

namespace Reference

/-! ## Shapes -/

/-- A documented parameter or return value. -/
structure IsDocumentedSlot (member : Value) : Prop where
  name : member.Requires "name" IsText
  types : member.Offers "types" (IsNullOr fun types => types.IsText ∨ types.IsListOf IsText)
  doc : member.Offers "doc" (IsNullOr IsText)

/-- A documented element of any type. An alias tells what it stands for; a class may lack its
fields. -/
structure IsDocumentedElement (element : Value) : Prop where
  name : ∃ name, element.field? "name" = some (.text name)
  type : ∃ type, element.field? "type" = some (.text type)
  description : element.Offers "description" (IsNullOr IsText)
  parameters : element.Offers "parameters" (IsNullOr (IsListOf IsDocumentedSlot))
  results : element.Offers "returnvalues" (IsNullOr (IsListOf IsDocumentedSlot))
  fields : element.Offers "fields" (IsTableOf fun field =>
    field.IsText ∨ ∃ flag, field = .bool flag)
  operators : element.Offers "operators" (IsNullOr (IsTableOf IsOperator))
  target : element.field? "type" = some (.text "BASIC_ALIAS") → element.Requires "alias" IsText

/-- A documented module. -/
structure IsDocumentedModule (module : Value) : Prop where
  space : ∃ space, module.field? "namespace" = some (.text space)
  brief : module.Requires "brief" IsText
  description : module.Offers "description" (IsNullOr IsText)
  elements : ∃ elements, module.field? "elements" = some (.list elements) ∧
    ∀ element ∈ elements, IsDocumentedElement element

/-- A class of a name that lacks its fields. -/
structure IsBareClass (name : String) (element : Value) : Prop where
  type : element.field? "type" = some (.text "BASIC_CLASS")
  name : element.field? "name" = some (.text name)
  bare : element.field? "fields" = none

/-- A class without fields has no key for them. -/
theorem IsBareClass.hasKey {name : String} {element : Value} (bare : IsBareClass name element) :
    element.hasKey "fields" = .ok false := by
  obtain ⟨fields, rfl⟩ := exists_record_of_field? bare.name
  have missing : Table.get? fields "fields" = none := bare.bare
  rw [hasKey_record, Table.has, missing, Option.isSome_none]

/-- A selection keeps a class of a name that lacks its fields. -/
def KeepsBareClass (selection : Selection) (module : Value) (name : String) : Prop :=
  ∃ selected kept, selection.select module = .ok selected ∧ membersOf selected = .ok kept ∧
    ∃ element ∈ kept, IsBareClass name element

namespace IsDocumentedElement

variable {element : Value} (documented : IsDocumentedElement element)

include documented

/-- A documented element is a record. -/
theorem exists_record : ∃ fields, element = .record fields := by
  obtain ⟨name, named⟩ := documented.name
  exact exists_record_of_field? named

/-- A documented element is an element. -/
theorem isElement : IsElement element where
  name := documented.name
  fields := fun fields present => by
    obtain ⟨entries, isRecord, _⟩ := documented.fields fields present
    exact .inr ⟨entries, isRecord⟩

/-- An optional part of an element is read as null or with its shape. -/
theorem exists_get {key : String} {each : Value → Prop}
    (offered : element.Offers key (IsNullOr each)) :
    ∃ found, element.get key = .ok found ∧ found.IsNullOr each := by
  obtain ⟨fields, rfl⟩ := documented.exists_record
  exact offered.exists_get

/-- The documented members of a side of an element can be read. -/
theorem exists_documented (side : Side) :
    ∃ members, Signature.documented side element = .ok members ∧
      ∀ member ∈ members, IsDocumentedSlot member := by
  have offered : element.Offers side.key (IsNullOr (IsListOf IsDocumentedSlot)) := by
    cases side with
    | argument => exact documented.parameters
    | result => exact documented.results
  obtain ⟨found, read, nullOrList⟩ := documented.exists_get offered
  obtain ⟨members, isList, each⟩ := nullOrList.orElse ⟨[], rfl, by simp⟩
  rw [Signature.documented, read, Outcome.ok_bind, isList]
  exact ⟨members, rfl, each⟩

/-- An element of a kind has the type that stands for it. -/
theorem type_of_kind {kind : Kind} (ofKind : Kind.of? element = .ok (some kind)) {type : String}
    (isType : ∀ entry ∈ Kind.byType, entry.2 = kind → entry.1 = type) :
    element.field? "type" = some (.text type) := by
  obtain ⟨found, typed⟩ := documented.type
  rw [kind_of_typed typed] at ofKind
  have same : found = type := isType _ (Table.mem_of_get? (Except.ok.inj ofKind)) rfl
  rw [typed, same]

end IsDocumentedElement

namespace IsDocumentedModule

variable {module : Value} (documented : IsDocumentedModule module)

include documented

/-- A documented module is a module. -/
theorem isModule : IsModule module where
  space := documented.space
  elements := by
    obtain ⟨elements, listed, each⟩ := documented.elements
    exact ⟨elements, listed, fun element member => (each element member).isElement⟩

/-- A selection keeps documented elements of a documented module, and leaves its other parts
alone. -/
theorem exists_kept {selection : Selection} (textual : selection.HasTextStarts) :
    ∃ selected kept, selection.select module = .ok selected ∧
      membersOf selected = .ok kept ∧ (∀ element ∈ kept, IsDocumentedElement element) ∧
      module.AgreeBut ["elements"] selected := by
  obtain ⟨space, located⟩ := documented.space
  obtain ⟨elements, listed, each⟩ := documented.elements
  have has : HasElements module (.text space) elements :=
    ⟨located, rfl, listed, fun element member => (each element member).isElement⟩
  have selects := Selection.select_eq_filter has textual
  exact ⟨_, _, selects, membersOf_withElements (require_eq_ok.2 located) _,
    fun element member => each element (List.mem_of_mem_filter member),
    Selection.agreeBut_select selects⟩

end IsDocumentedModule

/-! ## Signatures -/

/-- Putting placeholders in place of types that are texts leaves texts. -/
theorem isText_of_mem_generalizeAll {slots : List Slot} (texts : ∀ slot ∈ slots, slot.type.IsText)
    (type : Value) : ∀ slot ∈ (Slot.generalizeAll slots type).1, slot.type.IsText := by
  have each : ∀ slot ∈ slots.map (Slot.generalize type), slot.type.IsText := by
    refine List.forall_mem_map.2 fun slot member => ?_
    rw [Slot.generalize]
    split
    · exact isText_text Slot.placeholder
    · exact texts slot member
  rw [Slot.generalizeAll.eq_def]
  split
  · exact texts
  · split
    · exact texts
    · exact each

section Dialect

variable {speller : Speller} (shaped : speller.dialect.IsShaped)
  (fills : speller.dialect.FillsArrays)

include shaped fills

/-- A documented parameter or return value has a slot whose type is a text. -/
theorem IsDocumentedSlot.exists_ofDocumented {member : Value} (documented : IsDocumentedSlot member)
    (side : Side) (owner : String) :
    ∃ slot, Slot.ofDocumented speller side (.text owner) member = .ok slot ∧ slot.type.IsText := by
  obtain ⟨_, named, name, rfl⟩ := documented.name
  obtain ⟨fields, rfl⟩ := exists_record_of_field? named
  obtain ⟨⟨found, isOptional⟩, identified⟩ :=
    Naming.exists_identifier shaped.renamings shaped.localRenamings name owner side
  obtain ⟨given, read, nullOrTypes⟩ := documented.types.exists_get
  have types := nullOrTypes.orElse (.inr ⟨[], rfl, by simp⟩)
  let site : Site := { owner := .text owner, name := .text found, side, isOptional }
  have owned : site.owner.IsText := isText_text owner
  obtain ⟨type, spelled, isText⟩ := Speller.exists_spell (shaped.canSpell fills) types owned
  refine ⟨{ name := found, isOptional, type }, ?_, isText⟩
  simp only [Slot.ofDocumented, require_eq_ok.2 named, identified, read, Outcome.ok_bind]
  rw [spelled]
  rfl

/-- The slots of a side of a documented element have texts for types. -/
theorem exists_readSide {element : Value} (documented : IsDocumentedElement element) (side : Side)
    (owner : String) : ∃ slots, Signature.readSide speller side (.text owner) element = .ok slots ∧
      ∀ slot ∈ slots, slot.type.IsText := by
  obtain ⟨members, read, each⟩ := documented.exists_documented side
  rw [Signature.readSide, read]
  exact Outcome.exists_mapM fun member among =>
    (each member among).exists_ofDocumented shaped fills side owner

/-- A documented element has a signature whose types are texts. -/
theorem exists_ofElement {element : Value} (documented : IsDocumentedElement element)
    (owner : String) : ∃ signature, Signature.ofElement speller (.text owner) element =
      .ok signature ∧ ∀ slot ∈ signature.parameters ++ signature.results, slot.type.IsText := by
  obtain ⟨parameters, readParameters, textParameters⟩ :=
    exists_readSide shaped fills documented .argument owner
  obtain ⟨results, readResults, textResults⟩ :=
    exists_readSide shaped fills documented .result owner
  let repeated := (Table.get? speller.dialect.placeholders owner).getD .null
  have texts := isText_of_mem_generalizeAll
    (List.forall_mem_append.2 ⟨textParameters, textResults⟩) repeated
  refine ⟨Signature.generalize parameters results repeated, ?_,
    List.forall_mem_append.2 ⟨fun slot member => ?_, fun slot member => ?_⟩⟩
  · simp only [Signature.ofElement, readParameters, readResults, lookupIn, Outcome.ok_bind]
    rfl
  · exact texts slot (List.mem_of_mem_take member)
  · exact texts slot (List.mem_of_mem_drop member)

end Dialect

end Reference

end ApiStubs
