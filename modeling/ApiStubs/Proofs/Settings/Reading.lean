import ApiStubs.Proofs.Value.Shape
import ApiStubs.Settings.Correction

/-!
# Reading corrections of the documented shape

Where every part of a corrections document has its shape, the document is read to its end, and each
edit that follows from it writes values of the shapes that the settings hold.
-/

namespace ApiStubs

open ApiStubs.Value

namespace Progress

variable {α β : Type} {each : α → Prop}

/-- Everything was read, and each member has a property. -/
def Delivers (progress : Progress α) (each : α → Prop) : Prop :=
  progress.fault? = none ∧ ∀ member ∈ progress.done, each member

/-- A complete sequence delivers its members. -/
theorem delivers_complete {members : List α} (shaped : ∀ member ∈ members, each member) :
    (complete members).Delivers each :=
  ⟨rfl, shaped⟩

/-- Parts that deliver deliver one after the other. -/
theorem Delivers.andThen {first second : Progress α} (delivers : first.Delivers each)
    (deliversNext : second.Delivers each) : (first.andThen second).Delivers each := by
  obtain ⟨ended, shaped⟩ := delivers
  obtain ⟨endedNext, shapedNext⟩ := deliversNext
  rw [Progress.andThen, ended]
  exact ⟨endedNext, List.forall_mem_append.2 ⟨shaped, shapedNext⟩⟩

/-- Any number of parts that deliver deliver one after the other. -/
theorem delivers_concat {parts : List (Progress α)}
    (delivers : ∀ part ∈ parts, part.Delivers each) : (concat parts).Delivers each := by
  induction parts with
  | nil => exact delivers_complete (by simp)
  | cons part rest inductionHypothesis =>
      obtain ⟨first, others⟩ := List.forall_mem_cons.1 delivers
      exact first.andThen (inductionHypothesis others)

/-- Changed members are delivered when the members are. -/
theorem Delivers.map {progress : Progress β} {holds : β → Prop} (delivers : progress.Delivers holds)
    {change : β → α} (changes : ∀ member, holds member → each (change member)) :
    (progress.map change).Delivers each := by
  refine ⟨delivers.1, fun member among => ?_⟩
  obtain ⟨source, present, rfl⟩ := List.mem_map.1 among
  exact changes source (delivers.2 source present)

/-- The parts of a computed list deliver one after the other. -/
theorem delivers_ofOutcome {members : List β} {part : β → Progress α}
    (delivers : ∀ member ∈ members, (part member).Delivers each) :
    (ofOutcome (.ok members) part).Delivers each :=
  delivers_concat (List.forall_mem_map.2 delivers)

end Progress

/-! ## Shapes of edits -/

/-- An edit that writes texts into the tables of a dialect. -/
def DialectEdit.IsShaped : DialectEdit → Prop
  | .substitute _ replacement => replacement.IsText
  | .rename _ replacement => replacement.IsText
  | .setPlaceholder _ type => type.IsText
  | .openOverrides _ => True
  | .override _ _ replacement => replacement.IsText
  | .openLocalRenamings _ => True
  | .renameLocally _ _ replacement => replacement.IsText
  | .leaveUndeclared names => ∀ name ∈ names, name.IsText
  | .setFallbackType type => type.IsText
  | .admitNamespaces namespaces => ∀ space ∈ namespaces.getD [], space.IsText
  | .barStarts starts => ∀ start ∈ starts, start.IsText
  | .openBarredNames _ => True
  | .barName _ name => name.IsText

/-- An operator of a class: its result, and its second operand when it has one. -/
structure IsOperator (operator : Value) : Prop where
  result : operator.Requires "result" IsText
  param : operator.Offers "param" (IsNullOr IsText)

/-- The declaration of a class. Its fields are texts, or the mark of a global table. -/
structure IsClassDeclaration (declaration : Value) : Prop where
  isRecord : ∃ fields, declaration = .record fields
  fields : declaration.Offers "fields" (IsTableOf fun field =>
    field.IsText ∨ ∃ flag, field = .bool flag)
  operators : declaration.Offers "operators" (IsTableOf IsOperator)

/-- An edit that writes values of their shapes into settings. -/
def Edit.IsShaped : Edit → Prop
  | .addPlainTypes types => ∀ type ∈ types, type.IsText
  | .declareClass _ declaration => IsClassDeclaration declaration
  | .declareAlias _ target => target.IsText
  | .setDiagnostics diagnostics => ∀ diagnostic ∈ diagnostics, diagnostic.IsText
  | .setStubFolder folder => folder.IsText
  | .amend _ edit => edit.IsShaped

namespace Corrections

/-! ## Shapes of documents -/

/-- The part of a corrections document about one dialect. -/
structure IsDialectPart (document : Value) : Prop where
  isRecord : ∃ fields, document = .record fields
  substitutions : document.Offers "type_replacements" (IsTableOf IsText)
  renamings : document.Offers "name_replacements" (IsTableOf IsText)
  placeholders : document.Offers "generics" (IsTableOf IsText)
  overrides : document.Offers "local_type_replacements" (IsTableOf (IsTableOf IsText))
  localRenamings : document.Offers "local_name_replacements" (IsTableOf (IsTableOf IsText))
  undeclared : document.Offers "ignored_funcs" (IsListOf IsText)
  fallbackType : document.Offers "unknown_type" IsText
  namespaces : document.Offers "allowed_namespaces" (IsNullOr (IsListOf IsText))
  barredStarts : document.Offers "removed_prefixes" (IsListOf IsText)
  barredNames : document.Offers "removed_names" (IsTableOf (IsListOf IsText))

/-- A corrections document. -/
structure IsDocument (document : Value) : Prop where
  isRecord : ∃ fields, document = .record fields
  plainTypes : document.Offers "known_types" (IsListOf IsText)
  classes : document.Offers "known_classes" (IsTableOf IsClassDeclaration)
  aliases : document.Offers "known_aliases" (IsTableOf IsText)
  diagnostics : document.Offers "disabled_diagnostics" (IsListOf IsText)
  stubFolder : document.Offers "api_folder" IsText
  lua : document.Offers "lua" IsDialectPart
  teal : document.Offers "teal" IsDialectPart

/-! ## Edits of documents -/

section Reading

variable {α : Type} {each : α → Prop} {shape : Value → Prop} {fields : Table Value} {key : String}

/-- What a record says under a key is read when it has a shape that can be read. -/
theorem delivers_whenMentioned {read : Value → Progress α}
    (offered : (Value.record fields).Offers key shape)
    (delivers : ∀ value, shape value → (read value).Delivers each) :
    (whenMentioned (.record fields) key read).Delivers each := by
  rw [whenMentioned, mention]
  cases found : Table.get? fields key with
  | none => exact Progress.delivers_complete (by simp)
  | some value => exact delivers value (offered value found)

/-- A value that can be read is read as one edit. -/
theorem delivers_single {β : Type} {read : Value → Outcome β} {edit : β → α} {value : Value}
    (reads : ∃ content, read value = .ok content ∧ each (edit content)) :
    (single read edit value).Delivers each := by
  obtain ⟨content, returns, shaped⟩ := reads
  rw [single, returns]
  exact Progress.delivers_complete (by simpa using shaped)

/-- A list is read as one edit, which has a property whatever the members are. -/
theorem delivers_items {edit : List Value → α} {value : Value} (isList : value.IsListOf shape)
    (edits : ∀ members, each (edit members)) : (single Value.items edit value).Delivers each := by
  obtain ⟨members, reads, _⟩ := isList.exists_items
  exact delivers_single ⟨members, reads, edits members⟩

/-- A record gives an edit for each entry. -/
theorem delivers_perEntry {edit : String → Value → α} {value : Value}
    (isTable : value.IsTableOf shape) (edits : ∀ name content, shape content →
      each (edit name content)) :
    (perEntry edit value).Delivers each := by
  obtain ⟨entries, rfl, shapes⟩ := isTable
  have complete : (Value.record entries).entries.Delivers fun entry => shape entry.2 :=
    Progress.delivers_complete shapes
  exact complete.map fun entry => edits entry.1 entry.2

/-- A record of tables gives the edits of each. -/
theorem delivers_perTable {opening : String → α} {read : String → Value → Progress α}
    (offered : (Value.record fields).Offers key (IsTableOf shape))
    (opens : ∀ name, each (opening name))
    (delivers : ∀ name value, shape value → (read name value).Delivers each) :
    (perTable (.record fields) key opening read).Delivers each := by
  have nothing : (Value.record []).IsTableOf shape := ⟨[], rfl, by simp [Table.All]⟩
  obtain ⟨_, found, entries, rfl, shapes⟩ := offered.exists_getOr nothing
  rw [perTable, found]
  refine Progress.delivers_ofOutcome fun entry member => ?_
  exact (Progress.delivers_complete (by simpa using opens entry.1)).andThen
    (delivers entry.1 entry.2 (shapes entry member))

end Reading

/-- Texts can be inserted into a set of texts, which stays one. -/
theorem exists_insertAll {items set : List Value} (texts : ∀ item ∈ items, item.IsText)
    (before : ∀ member ∈ set, member.IsText) :
    ∃ members, items.foldlM (fun set member =>
      member.asScalar.map fun scalar => scalar.insertInto set) set = .ok members ∧
      ∀ member ∈ members, member.IsText := by
  induction items generalizing set with
  | nil => exact ⟨set, rfl, before⟩
  | cons item rest inductionHypothesis =>
      obtain ⟨⟨content, rfl⟩, others⟩ := List.forall_mem_cons.1 texts
      refine inductionHypothesis others fun member among => ?_
      simp only [insertInto] at among
      split at among
      · exact before member among
      · rcases List.mem_append.1 among with old | new
        · exact before member old
        · exact List.mem_singleton.1 new ▸ isText_text content

/-- A list of texts is read as a set of texts. -/
theorem exists_toSet {value : Value} (isList : value.IsListOf IsText) :
    ∃ members, value.toSet = .ok members ∧ ∀ member ∈ members, member.IsText := by
  obtain ⟨items, rfl, texts⟩ := isList
  exact exists_insertAll texts (by simp)

/-- The part about a dialect is read to its end, and its edits write texts. -/
theorem delivers_readDialect {document : Value} (isPart : IsDialectPart document) :
    (readDialect document).Delivers DialectEdit.IsShaped := by
  obtain ⟨fields, rfl⟩ := isPart.isRecord
  refine Progress.delivers_concat ?_
  simp only [List.forall_mem_cons, List.not_mem_nil, false_implies, implies_true, and_true]
  refine ⟨?_, ?_, ?_, ?_, ?_, ?_, ?_, ?_, ?_, ?_⟩
  · exact delivers_whenMentioned isPart.substitutions fun value isTable =>
      delivers_perEntry isTable fun _ _ => id
  · exact delivers_whenMentioned isPart.renamings fun value isTable =>
      delivers_perEntry isTable fun _ _ => id
  · exact delivers_whenMentioned isPart.placeholders fun value isTable =>
      delivers_perEntry isTable fun _ _ => id
  · exact delivers_perTable isPart.overrides (fun _ => trivial) fun _ value isTable =>
      delivers_perEntry isTable fun _ _ => id
  · exact delivers_perTable isPart.localRenamings (fun _ => trivial) fun _ value isTable =>
      delivers_perEntry isTable fun _ _ => id
  · exact delivers_whenMentioned isPart.undeclared fun value isList =>
      delivers_single isList.exists_items
  · exact delivers_whenMentioned isPart.fallbackType fun value isText =>
      delivers_single ⟨value, rfl, isText⟩
  · refine delivers_whenMentioned isPart.namespaces fun value isNullOrList => ?_
    rcases isNullOrList with rfl | isList
    · exact Progress.delivers_complete (by simp [DialectEdit.IsShaped])
    · have reads := exists_toSet isList
      obtain ⟨members, rfl, _⟩ := isList
      exact delivers_single reads
  · exact delivers_whenMentioned isPart.barredStarts fun value isList =>
      delivers_single isList.exists_items
  · refine delivers_perTable isPart.barredNames (fun _ => trivial) fun space names isList => ?_
    obtain ⟨members, items, texts⟩ := isList.exists_items
    rw [items]
    refine Progress.delivers_ofOutcome fun name member => delivers_single ?_
    obtain ⟨content, rfl⟩ := texts name member
    exact ⟨_, rfl, isText_text content⟩

/-- A corrections document is read to its end, and its edits write values of their shapes. -/
theorem delivers_read {document : Value} (isDocument : IsDocument document) :
    (read document).Delivers Edit.IsShaped := by
  obtain ⟨fields, rfl⟩ := isDocument.isRecord
  refine Progress.delivers_concat ?_
  simp only [List.forall_mem_cons, List.not_mem_nil, false_implies, implies_true, and_true]
  refine ⟨?_, ?_, ?_, ?_, ?_, ?_, ?_⟩
  · exact delivers_whenMentioned isDocument.plainTypes fun value isList =>
      delivers_single isList.exists_items
  · exact delivers_whenMentioned isDocument.classes fun value isTable =>
      delivers_perEntry isTable fun _ _ => id
  · exact delivers_whenMentioned isDocument.aliases fun value isTable =>
      delivers_perEntry isTable fun _ _ => id
  · exact delivers_whenMentioned isDocument.diagnostics fun value isList =>
      delivers_single isList.exists_items
  · exact delivers_whenMentioned isDocument.stubFolder fun value isText =>
      delivers_single ⟨value, rfl, isText⟩
  · exact delivers_whenMentioned isDocument.lua fun value isPart =>
      (delivers_readDialect isPart).map fun _ => id
  · exact delivers_whenMentioned isDocument.teal fun value isPart =>
      (delivers_readDialect isPart).map fun _ => id

end Corrections

end ApiStubs
