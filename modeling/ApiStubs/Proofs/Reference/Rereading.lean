import ApiStubs.Json.Writer
import ApiStubs.Proofs.Outcome
import ApiStubs.Proofs.Value.Equality
import ApiStubs.Reference.Document

/-!
# Documents that are read again

Reading fills in what a document leaves out. What has been filled in stays when it is read once
more: a list is a list, a description that is given is kept, and one that is not has become the
empty text by then. So

- reading a parameter or an element again gives the same one (`readParameter_of_read`,
  `readElement_of_read`), and
- the document of a module that was read describes that module (`moduleOf?_full`).
-/

namespace ApiStubs.Reference

open ApiStubs.Value

/-! ## Defaults -/

/-- A list stands for itself, also when it is empty. -/
theorem orElse_list (members : List Value) :
    (Value.list members).orElse (.list []) = .list members := by
  cases members <;> rfl

/-- A traversal whose results are fixed by its step leaves its results as they are. -/
theorem mapM_of_read {step : Value → Outcome Value}
    (settles : ∀ raw read, step raw = .ok read → step read = .ok read)
    {members results : List Value} (returns : members.mapM step = .ok results) :
    results.mapM step = .ok results := by
  refine Outcome.mapM_eq_ok.2 (List.forall₂_same.2 fun result among => ?_)
  obtain ⟨raw, _, read⟩ := (Outcome.mem_mapM_iff returns).1 among
  exact settles raw result read

/-! ## Parameters -/

/-- A parameter in full, whose types are a list, is read as it is. -/
theorem readParameter_full (name doc : Value) (types : List Value) :
    readParameter (.record [("name", name), ("doc", doc), ("types", .list types)]) =
      .ok (.record [("name", name), ("doc", doc), ("types", .list types)]) := by
  have found : (Value.record [("name", name), ("doc", doc), ("types", .list types)]).get "types" =
      .ok (.list types) := rfl
  rw [readParameter, found, Outcome.ok_bind, orElse_list]
  rfl

/-- A parameter that has been read is read again as it is. -/
theorem readParameter_of_read {raw parameter : Value}
    (returns : readParameter raw = .ok parameter) : readParameter parameter = .ok parameter := by
  simp only [readParameter, Outcome.bind_eq_ok, Outcome.pure_eq_ok] at returns
  obtain ⟨_, _, name, _, doc, _, types, _, rfl⟩ := returns
  exact readParameter_full name doc types

/-- The parameters under a key are a list of parameters that are read again as they are. -/
theorem exists_of_readParameters {raw parameters : Value} {key : String}
    (returns : readParameters raw key = .ok parameters) :
    ∃ members, parameters = .list members ∧ members.mapM readParameter = .ok members := by
  simp only [readParameters, Outcome.bind_eq_ok, Outcome.pure_eq_ok] at returns
  obtain ⟨_, _, _, _, members, read, rfl⟩ := returns
  exact ⟨members, rfl, mapM_of_read (fun _ _ => readParameter_of_read) read⟩

/-- Parameters that have been read are read again as they are. -/
theorem readParameters_of_field {element : Value} {key : String} {members : List Value}
    (found : element.get key = .ok (.list members))
    (settled : members.mapM readParameter = .ok members) :
    readParameters element key = .ok (.list members) := by
  rw [readParameters, found, Outcome.ok_bind, orElse_list, Value.items, Outcome.ok_bind, settled]
  rfl

/-! ## Elements -/

/-- A description is given, or it is the empty text. -/
theorem given_or_empty_of_describe {raw description : Value}
    (returns : describe raw = .ok description) :
    description.isGiven = true ∨ description = .text "" := by
  simp only [describe, Outcome.bind_eq_ok] at returns
  obtain ⟨own, _, returns⟩ := returns
  split at returns
  · next given =>
      obtain rfl := Outcome.pure_eq_ok.1 returns
      exact .inl given
  · obtain ⟨brief, _, returns⟩ := Outcome.bind_eq_ok.1 returns
    obtain rfl := Outcome.pure_eq_ok.1 returns
    rw [Value.orElse]
    split
    · next given => exact .inl given
    · exact .inr rfl

/-- An element in full: the fields that every element has, and those that it keeps. -/
def fullElement (type name description parameters results : Value) (kept : Table Value) : Value :=
  .record ([("type", type), ("name", name), ("description", description),
    ("parameters", parameters), ("returnvalues", results)] ++ kept)

/-- What is kept of an element under a key is what the element has there, for the keys that are
kept. -/
theorem get?_optionalFields (raw : Value) (key : String) :
    Table.get? (optionalFields raw) key = if key ∈ optionalKeys then raw.field? key else none := by
  have each (keys : List String) :
      Table.get? (keys.filterMap fun key => (raw.field? key).map fun value => (key, value)) key =
        if key ∈ keys then raw.field? key else none := by
    induction keys with
    | nil => rfl
    | cons first rest inductionHypothesis =>
        by_cases isFirst : key = first
        · subst isFirst
          cases found : raw.field? key with
          | none => simp [found, inductionHypothesis]
          | some value => simp [found, Table.get?_cons]
        · cases found : raw.field? first with
          | none => simp [found, inductionHypothesis, isFirst]
          | some value => simp [found, Table.get?_cons, inductionHypothesis, isFirst]
  exact each optionalKeys

section Full

variable (raw type name description parameters results : Value)

/-- Beside the fields that every element has, an element in full has what it keeps. -/
theorem field?_full (kept : Table Value) {key : String}
    (other : key ∉ ["type", "name", "description", "parameters", "returnvalues"]) :
    (fullElement type name description parameters results kept).field? key =
      Table.get? kept key := by
  simp only [List.mem_cons, List.not_mem_nil, or_false, not_or] at other
  rw [fullElement, field?_record]
  simp [Table.get?_cons, other]

/-- What is kept of an element is kept again. -/
theorem optionalFields_full :
    optionalFields (fullElement type name description parameters results (optionalFields raw)) =
      optionalFields raw := by
  have apart : ∀ key ∈ optionalKeys,
      key ∉ ["type", "name", "description", "parameters", "returnvalues"] := by
    decide
  refine List.filterMap_congr fun key member => ?_
  rw [field?_full _ _ _ _ _ _ (apart key member), get?_optionalFields, if_pos member]

/-- An element in full describes itself as it did, when the description is given or empty: it has no
brief. -/
theorem describe_full (givenOrEmpty : description.isGiven = true ∨ description = .text "") :
    describe (fullElement type name description parameters results (optionalFields raw)) =
      .ok description := by
  have own : (fullElement type name description parameters results (optionalFields raw)).get
      "description" = .ok description := rfl
  rw [describe, own, Outcome.ok_bind]
  rcases givenOrEmpty with given | rfl
  · rw [if_pos given]
    rfl
  · have absent : (fullElement type name (.text "") parameters results
        (optionalFields raw)).field? "brief" = none := by
      rw [field?_full _ _ _ _ _ _ (by decide), get?_optionalFields, if_neg (by decide)]
    have noBrief : (fullElement type name (.text "") parameters results
        (optionalFields raw)).get "brief" = .ok .null := by
      rw [fullElement, field?_record] at absent
      rw [fullElement, Value.get, getOr_record, absent]
      rfl
    rw [noBrief]
    rfl

end Full

/-- An element that has been read is read again as it is. -/
theorem readElement_of_read {raw element : Value} (returns : readElement raw = .ok element) :
    readElement element = .ok element := by
  simp only [readElement, Outcome.bind_eq_ok, Outcome.pure_eq_ok] at returns
  obtain ⟨type, _, name, _, description, described, _, parametersRead, _, resultsRead, rfl⟩ :=
    returns
  obtain ⟨parameters, rfl, settledParameters⟩ := exists_of_readParameters parametersRead
  obtain ⟨results, rfl, settledResults⟩ := exists_of_readParameters resultsRead
  let element := fullElement type name description (.list parameters) (.list results)
    (optionalFields raw)
  have hasType : element.require "type" = .ok type := rfl
  have hasName : element.require "name" = .ok name := rfl
  have parametersAgain : readParameters element "parameters" = .ok (.list parameters) :=
    readParameters_of_field rfl settledParameters
  have resultsAgain : readParameters element "returnvalues" = .ok (.list results) :=
    readParameters_of_field rfl settledResults
  have describedAgain : describe element = .ok description :=
    describe_full raw type name description _ _ (given_or_empty_of_describe described)
  have keptAgain : optionalFields element = optionalFields raw := optionalFields_full ..
  change readElement element = .ok element
  simp only [readElement, hasType, hasName, describedAgain, parametersAgain, resultsAgain,
    keptAgain, Outcome.ok_bind]
  rfl

/-! ## Modules -/

/-- A module in full. -/
def fullModule (space brief description : Value) (elements : List Value) : Value :=
  .record [("namespace", space), ("brief", brief), ("description", description),
    ("elements", .list elements)]

/-- A module that has been read has a namespace that is given, and elements that are read again as
they are. -/
theorem exists_of_moduleOf? {document module : Value}
    (returns : moduleOf? document = .ok (some module)) :
    ∃ space brief description elements,
      module = fullModule space brief description elements ∧ space.isGiven = true ∧
        elements.mapM readElement = .ok elements := by
  simp only [moduleOf?, Outcome.bind_eq_ok] at returns
  obtain ⟨_, _, spoken, _, returns⟩ := returns
  split at returns
  · exact absurd (Outcome.pure_eq_ok.1 returns) nofun
  · obtain ⟨space, _, returns⟩ := Outcome.bind_eq_ok.1 returns
    split at returns
    · exact absurd (Outcome.pure_eq_ok.1 returns) nofun
    · next given =>
        simp only [Outcome.bind_eq_ok, Outcome.pure_eq_ok, Option.some.injEq] at returns
        obtain ⟨brief, _, description, _, _, _, _, _, elements, read, rfl⟩ := returns
        exact ⟨space, brief, description, elements, rfl, by simpa using given,
          mapM_of_read (fun _ _ => readElement_of_read) read⟩

/-- What a document says about a module in full. -/
def infoOf (space brief description : Value) : Value :=
  .record [("namespace", space), ("brief", brief), ("description", description)]

/-- The document of a module in full describes it, when its namespace is given and its elements are
read as they are. -/
theorem moduleOf?_full {space : Value} (brief description : Value) {elements : List Value}
    (given : space.isGiven = true) (settled : elements.mapM readElement = .ok elements) :
    moduleOf? (.record [("info", infoOf space brief description), ("elements", .list elements)]) =
      .ok (some (fullModule space brief description elements)) := by
  have info : (Value.record [("info", infoOf space brief description),
      ("elements", .list elements)]).get "info" = .ok (infoOf space brief description) := rfl
  have listed : (Value.record [("info", infoOf space brief description),
      ("elements", .list elements)]).get "elements" = .ok (.list elements) := rfl
  have spoken : (infoOf space brief description).getOr "language" language = .ok language := rfl
  have isLanguage : language.same language = true := by decide
  have named : (infoOf space brief description).get "namespace" = .ok space := rfl
  have ofInfo : (infoOf space brief description).orElse (.record []) =
      infoOf space brief description := rfl
  simp only [moduleOf?, info, ofInfo, spoken, isLanguage, named, given, listed, orElse_list,
    Value.items, settled, Outcome.ok_bind]
  rfl

/-- Reading fills in what is missing once and for all. Every parameter and every element that is
read is read again as it is. The document of every module that a text describes describes that
module, and so does each text that is read as this document. -/
theorem reading_again_changes_nothing :
    (∀ raw parameter, readParameter raw = .ok parameter →
      readParameter parameter = .ok parameter) ∧
    (∀ raw element, readElement raw = .ok element → readElement element = .ok element) ∧
    ∀ text module, readDocument text = .ok (some module) →
      ∃ document, documentOf module = .ok document ∧ moduleOf? document = .ok (some module) ∧
        ∀ write : Value → String, Json.read (write document) = .ok document →
          readDocument (write document) = .ok (some module) := by
  refine ⟨fun _ _ => readParameter_of_read, fun _ _ => readElement_of_read, ?_⟩
  intro text module returns
  obtain ⟨_, _, describes⟩ := Outcome.bind_eq_ok.1 returns
  obtain ⟨space, brief, description, elements, rfl, given, settled⟩ :=
    exists_of_moduleOf? describes
  have again := moduleOf?_full brief description given settled
  refine ⟨_, rfl, again, fun write undone => ?_⟩
  rw [readDocument, undone]
  exact again

local instance : DecidableEq Value := fun left right =>
  decidable_of_iff (left.equal right = true) (Value.equal_iff left right)

/-- An alias that has been read keeps its target and is read again. A document is read again from
the text that is written for what was read: its function has its brief for a description by then,
and the type of the parameter is a list of one. -/
theorem reading_again_of_filled_in_document :
    let text := "\x7b\"info\": \x7b\"namespace\": \"go\", \"language\": \"Lua\"\x7d, " ++
      "\"elements\": [\x7b\"type\": \"FUNCTION\", \"name\": \"go.get\", " ++
      "\"brief\": \"Get a property\", \"parameters\": [\x7b\"name\": \"url\", " ++
      "\"types\": \"string\"\x7d]\x7d]\x7d"
    let raw : Value := .record [("name", .text "url"), ("types", .text "string")]
    let parameter : Value :=
      .record [("name", .text "url"), ("doc", .text ""), ("types", .list [.text "string"])]
    let rawFunction : Value := .record [("type", .text "FUNCTION"), ("name", .text "go.get"),
      ("brief", .text "Get a property"), ("parameters", .list [raw])]
    let function := fullElement (.text "FUNCTION") (.text "go.get") (.text "Get a property")
      (.list [parameter]) (.list []) []
    let rawAlias : Value := .record [("type", .text "BASIC_ALIAS"), ("name", .text "angle"),
      ("alias", .text "number")]
    let angle := fullElement (.text "BASIC_ALIAS") (.text "angle") (.text "") (.list []) (.list [])
      [("alias", .text "number")]
    let document : Value := .record [("info", infoOf (.text "go") (.text "") .null),
      ("elements", .list [function])]
    readParameter raw = .ok parameter ∧ readParameter parameter = .ok parameter ∧
      readElement rawFunction = .ok function ∧ readElement function = .ok function ∧
      readElement rawAlias = .ok angle ∧ readElement angle = .ok angle ∧
      Json.read (Json.write document) = .ok document ∧
      ∃ module, readDocument text = .ok (some module) ∧ documentOf module = .ok document ∧
        readDocument (Json.write document) = .ok (some module) := by
  intro text raw parameter rawFunction function rawAlias angle document
  have isRead : Json.read text = .ok (.record [
      ("info", .record [("namespace", .text "go"), ("language", .text "Lua")]),
      ("elements", .list [rawFunction])]) :=
    Outcome.toOption_eq_some.1 (by decide +kernel)
  have undone : Json.read (Json.write document) = .ok document :=
    Outcome.toOption_eq_some.1 (by decide +kernel)
  have describes : readDocument text =
      .ok (some (fullModule (.text "go") (.text "") .null [function])) := by
    rw [readDocument, isRead]
    rfl
  obtain ⟨ofParameter, ofElement, ofDocument⟩ := reading_again_changes_nothing
  obtain ⟨_, isDocument, _, again⟩ := ofDocument text _ describes
  obtain rfl := Except.ok.inj isDocument
  exact ⟨rfl, ofParameter raw _ rfl, rfl, ofElement rawFunction _ rfl, rfl,
    ofElement rawAlias _ rfl, undone, _, describes, rfl, again Json.write undone⟩

end ApiStubs.Reference
