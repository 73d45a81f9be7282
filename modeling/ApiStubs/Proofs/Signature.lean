import ApiStubs.Proofs.Outcome
import ApiStubs.Proofs.Value.Shape
import ApiStubs.Signature

/-!
# Labels of signatures

The label of a slot is its identifier together with whether it is optional. Labels follow from the
documented names and from the renamings of a dialect alone: neither the spelling of types nor a
placeholder for a repeated type touches them. A signature has as many slots as are documented.
-/

namespace ApiStubs

open ApiStubs.Types

namespace Naming

/-- Dialects with the same renamings find the same identifier for a documented name. -/
theorem identifier_congr {left right : Dialect} (general : left.renamings = right.renamings)
    (locally : left.localRenamings = right.localRenamings) (documented : Value) (side : Side)
    (owner : Value) : identifier left documented side owner =
      identifier right documented side owner := by
  have chosen (name : String) : substitute left name side owner =
      substitute right name side owner := by
    rw [substitute, substitute, general, locally]
  simp only [identifier, chosen]

/-- The label of a documented parameter or return value. -/
def label (dialect : Dialect) (side : Side) (owner documented : Value) :
    Outcome (String × Bool) := do
  identifier dialect (← documented.require "name") side owner

/-- The labels of the documented members of a side of an element. -/
def labels (dialect : Dialect) (side : Side) (owner element : Value) :
    Outcome (List (String × Bool)) := do
  (← Signature.documented side element).mapM (label dialect side owner)

/-- Dialects with the same renamings find the same labels. -/
theorem labels_congr {left right : Dialect} (general : left.renamings = right.renamings)
    (locally : left.localRenamings = right.localRenamings) (side : Side) (owner element : Value) :
    labels left side owner element = labels right side owner element := by
  have same : label left side owner = label right side owner := by
    funext documented
    simp only [label, identifier_congr general locally]
  rw [labels, labels, same]

/-- Where the renamings are texts, a text stands for every name. -/
theorem exists_substitute {dialect : Dialect} (general : dialect.renamings.All Value.IsText)
    (locally : dialect.localRenamings.All (Table.All Value.IsText)) (name owner : String)
    (side : Side) :
    ∃ chosen, substitute dialect name side (.text owner) = .ok chosen ∧ chosen.IsText := by
  have texts : ((Table.get? dialect.localRenamings owner).getD []).All Value.IsText :=
    locally.getD (by simp [Table.All]) owner
  have nullOrText := texts.mono fun value isText => (.inr isText : value.IsNullOr Value.IsText)
  rw [substitute, Value.lookupIn, Outcome.ok_bind]
  rcases nullOrText.getD (.inl rfl) s!"{side.word}_{name}" with isNull | ⟨content, isText⟩
  · simp only [isNull]
    exact ⟨_, rfl, general.getD (Value.isText_text name) name⟩
  · simp only [isText]
    exact ⟨_, rfl, Value.isText_text content⟩

/-- Where the renamings are texts, every text has an identifier. -/
theorem exists_identifier {dialect : Dialect} (general : dialect.renamings.All Value.IsText)
    (locally : dialect.localRenamings.All (Table.All Value.IsText)) (name owner : String)
    (side : Side) : ∃ found, identifier dialect (.text name) side (.text owner) = .ok found := by
  obtain ⟨_, chosen, content, rfl⟩ :=
    exists_substitute general locally (shortenVariadic (splitOptional name).1) owner side
  simp only [identifier, chosen]
  exact ⟨_, rfl⟩

end Naming

namespace Slot

/-- The types that are joined for a documented parameter or return value. -/
def joinedTypes (speller : Speller) (side : Side) (owner documented : Value) :
    Outcome (List String) := do
  let (name, isOptional) ←
    Naming.identifier speller.dialect (← documented.require "name") side owner
  let documentedTypes := (← documented.get "types").orElse (.list [])
  speller.joined documentedTypes { owner, name := .text name, side, isOptional }

/-- The type of a slot unites the types that are joined for what it documents, or it is the fallback
when nothing is left of them. -/
theorem exists_ofDocumented {speller : Speller} {side : Side} {owner documented : Value}
    {types : List String} (joins : joinedTypes speller side owner documented = .ok types) :
    ∃ slot, ofDocumented speller side owner documented = .ok slot ∧
      slot.type = if Text.join "|" types = "" then speller.dialect.fallbackType
        else .text (Text.join "|" types) := by
  simp only [joinedTypes, Outcome.bind_eq_ok] at joins
  obtain ⟨raw, named, ⟨name, isOptional⟩, identified, documentedTypes, read, joined⟩ := joins
  refine ⟨{ name, isOptional, type := _ }, ?_, rfl⟩
  simp only [ofDocumented, named, identified, read, Speller.spell, joined, Outcome.ok_bind]
  rfl

/-- The identifier of a slot, and whether it is optional. -/
def label (slot : Slot) : String × Bool :=
  (slot.name, slot.isOptional)

/-- A slot has the label of what it documents. -/
theorem label_of_ofDocumented {speller : Speller} {side : Side} {owner documented : Value}
    {slot : Slot} (returns : ofDocumented speller side owner documented = .ok slot) :
    Naming.label speller.dialect side owner documented = .ok slot.label := by
  simp only [ofDocumented, Outcome.bind_eq_ok, Outcome.pure_eq_ok] at returns
  obtain ⟨raw, found, ⟨name, isOptional⟩, identified, _, _, _, _, rfl⟩ := returns
  exact Outcome.bind_eq_ok.2 ⟨raw, found, identified⟩

/-- A placeholder does not change a label. -/
@[simp] theorem label_generalize (type : Value) (slot : Slot) :
    (slot.generalize type).label = slot.label := by
  rw [generalize]
  split <;> rfl

/-- Placeholders do not change labels. -/
theorem map_label_generalizeAll (slots : List Slot) (type : Value) :
    (generalizeAll slots type).1.map label = slots.map label := by
  have each : (slots.map (generalize type)).map label = slots.map label := by
    rw [List.map_map]
    exact List.map_congr_left fun slot _ => label_generalize type slot
  rw [generalizeAll.eq_def]
  split
  · rfl
  · split
    · rfl
    · exact each

end Slot

namespace Signature

/-- The slots of a side have the labels of its documented members. -/
theorem labels_of_readSide {speller : Speller} {side : Side} {owner element : Value}
    {slots : List Slot} (returns : readSide speller side owner element = .ok slots) :
    Naming.labels speller.dialect side owner element = .ok (slots.map Slot.label) := by
  obtain ⟨members, read, spelled⟩ := Outcome.bind_eq_ok.1 returns
  refine Outcome.bind_eq_ok.2 ⟨members, read, Outcome.mapM_eq_ok.2 ?_⟩
  rw [List.forall₂_map_right_iff]
  exact (Outcome.mapM_eq_ok.1 spelled).imp fun _ _ => Slot.label_of_ofDocumented

/-- The parameters of a signature have the labels of the documented ones. -/
theorem labels_of_ofElement {speller : Speller} {owner element : Value} {signature : Signature}
    (returns : ofElement speller owner element = .ok signature) :
    Naming.labels speller.dialect .argument owner element =
      .ok (signature.parameters.map Slot.label) := by
  simp only [ofElement, Outcome.bind_eq_ok, Outcome.pure_eq_ok] at returns
  obtain ⟨parameters, readParameters, results, _, type?, _, rfl⟩ := returns
  have kept : (generalize parameters results (type?.getD .null)).parameters.map Slot.label =
      parameters.map Slot.label := by
    simp only [generalize, List.map_take, Slot.map_label_generalizeAll, List.map_append]
    rw [← List.length_map Slot.label, List.take_left]
  rw [kept]
  exact labels_of_readSide readParameters

/-- A signature has as many parameters and results as are documented. -/
theorem length_of_ofElement {speller : Speller} {owner element : Value} {signature : Signature}
    {parameters results : List Value}
    (documentsParameters : documented .argument element = .ok parameters)
    (documentsResults : documented .result element = .ok results)
    (returns : ofElement speller owner element = .ok signature) :
    signature.parameters.length = parameters.length ∧
      signature.results.length = results.length := by
  have same {side : Side} {members : List Value} {slots : List Slot}
      (documents : documented side element = .ok members)
      (read : readSide speller side owner element = .ok slots) :
      slots.length = members.length := by
    rw [readSide, documents, Outcome.ok_bind] at read
    exact (Outcome.mapM_eq_ok.1 read).length_eq.symm
  simp only [ofElement, Outcome.bind_eq_ok, Outcome.pure_eq_ok] at returns
  obtain ⟨parameterSlots, readParameters, resultSlots, readResults, type?, _, rfl⟩ := returns
  have kept := congrArg List.length
    (Slot.map_label_generalizeAll (parameterSlots ++ resultSlots) (type?.getD .null))
  simp only [List.length_map, List.length_append] at kept
  simp only [generalize, List.length_take, List.length_drop, kept,
    same documentsParameters readParameters, same documentsResults readResults]
  omega

end Signature

end ApiStubs
