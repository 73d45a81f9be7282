import ApiStubs.Proofs.Lua.Marked
import ApiStubs.Proofs.Signature
import ApiStubs.Settings.Default

/-!
# Tags of functions

The language server reads a comment line that begins with the marker and an at sign as a tag. The
tags of a function are meant to be its signature: the placeholder, its parameters and its return
values. A line of its documentation that begins with an at sign becomes a tag too, as nothing stands
between the marker and the line.

- `IsMadeOf` says which comment lines are made of tags and which of documentation.
- `tags_eq_signature_iff` is the result.
-/

namespace ApiStubs.Lua

open ApiStubs.Reference ApiStubs.Types

/-! ## Lines made of tags and of documentation -/

/-- The marker of declarations with an at sign behind it. -/
def tagMarker : String := "---@"

/-- Whether a line is a tag. -/
def isTag (line : String) : Bool :=
  Text.beginsWith line tagMarker

/-- A line is a tag when its start is one. -/
theorem isTag_of_beginsWith {line start : String} (begins : Text.beginsWith line start = true)
    (startsTag : isTag start = true) : isTag line = true :=
  Text.beginsWith_trans begins startsTag

/-- The tags of a text. -/
def tags (text : String) : List String :=
  (Text.lines text).filter isTag

/-- Lines that are, in order, tags with the given starts, and among them lines of documentation with
the given remarks. A line of documentation is a tag exactly when its remark begins with an at
sign. -/
inductive IsMadeOf : List String → List String → List String → Prop
  | nil : IsMadeOf [] [] []
  | tag {line start : String} {lines starts remarks : List String}
      (begins : Text.beginsWith line start = true) (startsTag : isTag start = true)
      (later : IsMadeOf lines starts remarks) : IsMadeOf (line :: lines) (start :: starts) remarks
  | remark {line remark : String} {lines starts remarks : List String}
      (alike : isTag line = Text.beginsWith remark "@")
      (later : IsMadeOf lines starts remarks) : IsMadeOf (line :: lines) starts (remark :: remarks)

namespace IsMadeOf

variable {lines starts remarks : List String}

/-- Lines below others are made of what both are made of. -/
theorem append (made : IsMadeOf lines starts remarks)
    {linesBelow startsBelow remarksBelow : List String}
    (below : IsMadeOf linesBelow startsBelow remarksBelow) :
    IsMadeOf (lines ++ linesBelow) (starts ++ startsBelow) (remarks ++ remarksBelow) := by
  induction made with
  | nil => exact below
  | tag begins startsTag _ inductionHypothesis => exact .tag begins startsTag inductionHypothesis
  | remark alike _ inductionHypothesis => exact .remark alike inductionHypothesis

/-- Remarks behind the marker are made of themselves. -/
theorem of_remarks (remarks : List String) :
    IsMadeOf (remarks.map (Text.declarationMarker ++ ·)) [] remarks := by
  induction remarks with
  | nil => exact .nil
  | cons remark rest inductionHypothesis =>
      exact .remark (Text.beginsWith_append_append Text.declarationMarker remark "@")
        inductionHypothesis

/-- Tags of one line each are made of themselves. -/
theorem of_starts {starts : List String} (unbroken : ∀ start ∈ starts, Text.IsUnbroken start)
    (areTags : ∀ start ∈ starts, isTag start = true) :
    IsMadeOf (starts.flatMap Text.lines) starts [] := by
  induction starts with
  | nil => exact .nil
  | cons start rest inductionHypothesis =>
      obtain ⟨unbrokenStart, unbrokenRest⟩ := List.forall_mem_cons.1 unbroken
      obtain ⟨startsTag, areTagsLater⟩ := List.forall_mem_cons.1 areTags
      have begins : Text.beginsWith start start = true := by
        simpa using Text.beginsWith_append start ""
      rw [List.flatMap_cons, Text.lines_of_not_mem unbrokenStart]
      exact .tag begins startsTag (inductionHypothesis unbrokenRest areTagsLater)

/-- Trimmed lines are made of trimmed starts and the same remarks. -/
theorem trimEnd {trimmedLines : List String} (made : IsMadeOf lines starts remarks)
    (trimmed : List.Forall₂ (fun line trimmed => trimmed = line ∨ trimmed = Text.trimEnd line) lines
      trimmedLines) : IsMadeOf trimmedLines (starts.map Text.trimEnd) remarks := by
  have sharp : Text.trimEnd tagMarker = tagMarker := by decide
  induction made generalizing trimmedLines with
  | nil =>
      cases trimmed
      exact .nil
  | @tag line start _ _ _ begins startsTag _ inductionHypothesis =>
      obtain _ | ⟨isTrimmed, later⟩ := trimmed
      refine .tag ?_ (by rwa [isTag, Text.beginsWith_trimEnd sharp]) (inductionHypothesis later)
      obtain ⟨rest, rfl⟩ := Text.exists_eq_append_of_beginsWith begins
      rcases isTrimmed with rfl | rfl
      · obtain ⟨ending, whole⟩ := Text.exists_trimEnd_append start
        have stands := Text.beginsWith_append (Text.trimEnd start) ending
        rw [← whole] at stands
        exact Text.beginsWith_append_right stands rest
      · exact Text.beginsWith_trimEnd_append start rest
  | remark alike _ inductionHypothesis =>
      obtain _ | ⟨isTrimmed, later⟩ := trimmed
      refine .remark ?_ (inductionHypothesis later)
      rcases isTrimmed with rfl | rfl
      · exact alike
      · rwa [isTag, Text.beginsWith_trimEnd sharp]

/-- Besides the given tags there are those that remarks become. -/
theorem length_tags (made : IsMadeOf lines starts remarks) :
    (lines.filter isTag).length =
      starts.length + remarks.countP fun remark => Text.beginsWith remark "@" := by
  induction made with
  | nil => rfl
  | tag begins startsTag _ inductionHypothesis =>
      rw [List.filter_cons_of_pos (isTag_of_beginsWith begins startsTag), List.length_cons,
        inductionHypothesis, List.length_cons]
      omega
  | @remark line remark _ _ _ alike _ inductionHypothesis =>
      rw [List.filter_cons, alike, List.countP_cons]
      split
      · rw [List.length_cons, inductionHypothesis, Nat.add_assoc]
      · exact inductionHypothesis

/-- The tags are the given ones exactly when no remark begins with an at sign. -/
theorem tags_iff (made : IsMadeOf lines starts remarks) :
    List.Forall₂ (fun line start => Text.beginsWith line start = true)
        (lines.filter isTag) starts ↔
      ∀ remark ∈ remarks, Text.beginsWith remark "@" = false := by
  constructor
  · intro matched
    have none : remarks.countP (fun remark => Text.beginsWith remark "@") = 0 := by
      have counted := made.length_tags
      rw [matched.length_eq] at counted
      omega
    simpa using List.countP_eq_zero.1 none
  · intro plain
    induction made with
    | nil => exact .nil
    | tag begins startsTag _ inductionHypothesis =>
        rw [List.filter_cons_of_pos (isTag_of_beginsWith begins startsTag)]
        exact .cons begins (inductionHypothesis plain)
    | remark alike _ inductionHypothesis =>
        obtain ⟨isPlain, later⟩ := List.forall_mem_cons.1 plain
        rw [List.filter_cons_of_neg (by simp [alike, isPlain])]
        exact inductionHypothesis later

end IsMadeOf

/-! ## Lines of a function -/

/-- A start of one line and the documentation behind it are made of one tag and of the later lines
of the documentation. -/
theorem isMadeOf_append_commentTail {start given : String} (unbroken : Text.IsUnbroken start)
    (begins : Text.beginsWith start given = true) (startsTag : isTag given = true)
    {doc : Value} {tail : String}
    (returns : Text.commentTail doc Text.declarationMarker = .ok tail) :
    ∃ plainText, Text.plain doc = .ok plainText ∧
      IsMadeOf (Text.lines (start ++ tail)) [given] (Text.lines plainText).tail := by
  obtain ⟨plainText, first, others, isPlain, cut, made⟩ :=
    Text.exists_lines_commentTail (by decide) returns
  refine ⟨plainText, isPlain, ?_⟩
  rw [made start unbroken, cut, List.tail_cons]
  exact .tag (Text.beginsWith_append_right begins first) startsTag (.of_remarks others)

/-- What the line of a parameter begins with, as far as it is not trimmed. -/
def parameterStart (slot : Slot) : String :=
  Text.trimEnd ("---@param " ++ slot.name ++ " " ++ slot.type.display)

/-- What the line of a return value begins with. -/
def resultStart (slot : Slot) : String :=
  "---@return " ++ slot.type.display

/-- The line of a parameter is made of its tag and of the later lines of the doc. -/
theorem isMadeOf_parameterLine {slot : Slot} (unbroken : slot.IsUnbroken) {doc : Value}
    {line : String} (returns : parameterLine slot doc = .ok line) :
    ∃ plainText, Text.plain doc = .ok plainText ∧
      IsMadeOf (Text.lines line) [parameterStart slot] (Text.lines plainText).tail := by
  obtain ⟨description, isTail, rfl⟩ := exists_of_parameterLine returns
  have unbrokenStart := isUnbroken_parameterStart unbroken
  have startsTag : isTag ("---@param " ++ slot.name ++ " " ++ slot.type.display) = true := by
    simp only [isTag, String.append_assoc]
    exact Text.beginsWith_append_right (by decide) _
  have marked := Text.isMarked_append_commentTail unbrokenStart
    (Text.beginsWith_append_right (Text.beginsWith_trans startsTag (by decide)) " ") isTail
  obtain ⟨plainText, isPlain, made⟩ := isMadeOf_append_commentTail unbrokenStart
    (Text.beginsWith_append _ " ") startsTag isTail
  exact ⟨plainText, isPlain, made.trimEnd (Text.forall₂_lines_trimEnd marked)⟩

/-- The line of a return value is made of its tag and of the later lines of the doc. -/
theorem isMadeOf_resultLine {slot : Slot} (unbroken : slot.IsUnbroken) {doc : Value}
    {line : String} (returns : resultLine slot doc = .ok line) :
    ∃ plainText, Text.plain doc = .ok plainText ∧
      IsMadeOf (Text.lines line) [resultStart slot] (Text.lines plainText).tail := by
  obtain ⟨description, start, isTail, rfl, begins, unbrokenStart⟩ := exists_of_resultLine returns
  exact isMadeOf_append_commentTail (unbrokenStart unbroken) begins
    (Text.beginsWith_append_right (by decide) _) isTail

/-- The lines of slots are made of their tags and of the later lines of the docs. -/
theorem isMadeOf_describeSlots {line : Slot → Value → Outcome String} {start : Slot → String}
    (each : ∀ {slot : Slot}, slot.IsUnbroken → ∀ {doc : Value} {text : String},
      line slot doc = .ok text → ∃ plainText, Text.plain doc = .ok plainText ∧
        IsMadeOf (Text.lines text) [start slot] (Text.lines plainText).tail)
    {slots : List Slot} (unbroken : ∀ slot ∈ slots, slot.IsUnbroken) {docs : List Value}
    (sameLength : slots.length = docs.length) {texts : List String}
    (returns : describeSlots line slots docs = .ok texts) :
    ∃ plainTexts, docs.mapM Text.plain = .ok plainTexts ∧
      IsMadeOf (texts.flatMap Text.lines) (slots.map start)
        (plainTexts.flatMap fun plainText => (Text.lines plainText).tail) := by
  induction slots generalizing docs texts with
  | nil =>
      obtain rfl := List.eq_nil_of_length_eq_zero sameLength.symm
      obtain rfl := Except.ok.inj returns
      exact ⟨[], rfl, .nil⟩
  | cons slot rest inductionHypothesis =>
      obtain ⟨unbrokenSlot, unbrokenRest⟩ := List.forall_mem_cons.1 unbroken
      cases docs with
      | nil => cases sameLength
      | cons doc others =>
          rw [describeSlots, List.zip_cons_cons, List.mapM_cons] at returns
          simp only [Outcome.bind_eq_ok, Outcome.pure_eq_ok] at returns
          obtain ⟨text, isText, later, areLater, rfl⟩ := returns
          obtain ⟨plainText, isPlain, made⟩ := each unbrokenSlot isText
          obtain ⟨plainTexts, arePlain, madeLater⟩ :=
            inductionHypothesis unbrokenRest (Nat.succ.inj sameLength) areLater
          refine ⟨plainText :: plainTexts, ?_, made.append madeLater⟩
          rw [List.mapM_cons, isPlain, arePlain]
          rfl

/-! ## Tags and signatures -/

/-- What the tags of a signature begin with, in order. -/
def tagStarts (signature : Signature) : List String :=
  (signature.generalized?.toList.map fun type =>
    "---@generic " ++ Slot.placeholder ++ ": " ++ type.display) ++
    signature.parameters.map parameterStart ++ signature.results.map resultStart

/-- The lines of the documentation of a function that stand right behind the marker: those of the
description, and those of each doc but the first, which stands behind a tag. -/
def remarkLines (element : Value) : Outcome (List String) := do
  let description ← Text.plain (← element.get "description")
  let parameterDocs ← (← docs .argument element).mapM Text.plain
  let resultDocs ← (← docs .result element).mapM Text.plain
  return Text.lines description ++ (parameterDocs.flatMap fun doc => (Text.lines doc).tail) ++
    resultDocs.flatMap fun doc => (Text.lines doc).tail

section Functions

variable {writer : StubWriter} {element : Value}

/-- There are as many docs as there are documented members of a side. -/
theorem exists_documented_of_docs {side : Side} {found : List Value}
    (returns : docs side element = .ok found) :
    ∃ members, Signature.documented side element = .ok members ∧ found.length = members.length := by
  obtain ⟨members, documents, read⟩ := Outcome.bind_eq_ok.1 returns
  exact ⟨members, documents, (Outcome.mapM_eq_ok.1 read).length_eq.symm⟩

/-- There is documentation for each slot of the signature. -/
theorem FunctionLayout.length_docs (layout : FunctionLayout writer element) :
    layout.signature.parameters.length = layout.parameterDocs.length ∧
      layout.signature.results.length = layout.resultDocs.length := by
  obtain ⟨parameters, documentsParameters, manyParameters⟩ :=
    exists_documented_of_docs layout.areParameterDocs
  obtain ⟨results, documentsResults, manyResults⟩ :=
    exists_documented_of_docs layout.areResultDocs
  obtain ⟨sameParameters, sameResults⟩ := Signature.length_of_ofElement documentsParameters
    documentsResults layout.isSignature
  exact ⟨sameParameters.trans manyParameters.symm, sameResults.trans manyResults.symm⟩

/-- The comment and the tags of a function are made of its signature and of its documentation. -/
theorem FunctionLayout.isMadeOf_annotations (layout : FunctionLayout writer element)
    (unbroken : IsUnbroken writer .function element) :
    ∃ remarks, remarkLines element = .ok remarks ∧
      IsMadeOf (layout.annotations.flatMap Text.lines) (tagStarts layout.signature) remarks := by
  obtain ⟨_, unbrokenSlots⟩ := unbroken layout.name layout.named
  obtain ⟨unbrokenParameters, unbrokenResults, unbrokenPlaceholder⟩ :=
    Signature.isUnbroken_ofElement unbrokenSlots layout.isSignature
  obtain ⟨manyParameters, manyResults⟩ := layout.length_docs
  obtain ⟨description, isDescription, comment⟩ :=
    Text.lines_commentBlock (by decide) layout.isComment
  obtain ⟨parameterTexts, arePlainParameters, madeParameters⟩ :=
    isMadeOf_describeSlots isMadeOf_parameterLine unbrokenParameters
      manyParameters layout.describesParameters
  obtain ⟨resultTexts, arePlainResults, madeResults⟩ :=
    isMadeOf_describeSlots isMadeOf_resultLine unbrokenResults
      manyResults layout.describesResults
  have madePlaceholder :
      IsMadeOf (layout.placeholder.flatMap Text.lines) layout.placeholder [] := by
    refine .of_starts (List.forall_mem_map.2 fun type member => ?_)
      (List.forall_mem_map.2 fun type _ => Text.beginsWith_append_right (by decide) _)
    exact Text.isUnbroken_append.2
      ⟨by decide, unbrokenPlaceholder type (Option.mem_toList.1 member)⟩
  have madeComment := IsMadeOf.of_remarks (Text.lines description)
  rw [← comment] at madeComment
  refine ⟨Text.lines description ++ (parameterTexts.flatMap fun doc => (Text.lines doc).tail) ++
    resultTexts.flatMap fun doc => (Text.lines doc).tail, ?_, ?_⟩
  · simp only [remarkLines, layout.isDescription, isDescription, layout.areParameterDocs,
      arePlainParameters, layout.areResultDocs, arePlainResults, Outcome.ok_bind]
    rfl
  · have made := ((madeComment.append madePlaceholder).append madeParameters).append madeResults
    simp only [List.nil_append, List.append_nil] at made
    simp only [annotations, List.flatMap_append, List.flatMap_singleton]
    exact made

/-- The tags of a function are its signature exactly when no line of its documentation that stands
right behind the marker begins with an at sign. They are then, in order, the line of the placeholder
if a type repeats, one line for each parameter and one for each return value. Names and types may
hold no newline; blanks that a type ends with may be missing at the end of the line of a
parameter. -/
theorem tags_eq_signature_iff (writer : StubWriter) (element : Value) (text : String)
    (unbroken : IsUnbroken writer .function element)
    (returns : declareFunction? writer element = .ok (some text)) :
    ∃ name signature remarks, element.require "name" = .ok name ∧
      Signature.ofElement (writer.speller .lua) name element = .ok signature ∧
      remarkLines element = .ok remarks ∧
      (List.Forall₂ (fun line start => Text.beginsWith line start = true) (tags text)
          (tagStarts signature) ↔
        ∀ remark ∈ remarks, Text.beginsWith remark "@" = false) := by
  obtain ⟨layout, rfl⟩ := exists_functionLayout returns
  obtain ⟨remarks, areRemarks, made⟩ := layout.isMadeOf_annotations unbroken
  refine ⟨layout.name, layout.signature, remarks, layout.named, layout.isSignature, areRemarks, ?_⟩
  have noTag : isTag layout.code = false := by
    simp [isTag, FunctionLayout.code, functionLine, tagMarker, Text.beginsWith, List.isPrefixOf]
  have tagsOf : tags layout.text = (layout.annotations.flatMap Text.lines).filter isTag := by
    rw [tags, FunctionLayout.text, Text.lines_join_concat _ (layout.isUnbroken_code unbroken),
      List.filter_append, List.filter_singleton, noTag]
    exact List.append_nil _
  rw [tagsOf]
  exact made.tags_iff

/-- A function with a placeholder, two parameters, a return value and documentation of several lines
has four tags. -/
theorem tags_of_documented_function :
    let writer : StubWriter :=
      { settings := { Settings.default with
          lua := { Settings.default.lua with placeholders := [("vmath.dot", .text "vector3")] } }
        known := ⟨[.text "vector3", .text "number"]⟩ }
    let member (name type doc : String) : Value := .record [("name", .text name),
      ("types", .list [.text type]), ("doc", .text doc)]
    let element : Value := .record [("type", .text "FUNCTION"), ("name", .text "vmath.dot"),
      ("description", .text "Dot product\n\nof <b>two</b> vectors &#64;"),
      ("parameters", .list [member "a" "vector3" "first\nvector \n ", member "b" "vector3" ""]),
      ("returnvalues", .list [member "n" "number" "@ a number"])]
    IsUnbroken writer .function element ∧
      ∃ text, declareFunction? writer element = .ok (some text) ∧
        List.Forall₂ (fun line start => Text.beginsWith line start = true) (tags text)
          ["---@generic T: vector3", "---@param a T", "---@param b T", "---@return number"] := by
  intro writer member element
  have unbroken : IsUnbroken writer .function element := by decide +kernel
  obtain ⟨text, returns⟩ : ∃ text, declareFunction? writer element = .ok (some text) :=
    Outcome.exists_of_isSome (by decide +kernel)
  obtain ⟨name, signature, remarks, named, isSignature, areRemarks, tagsIff⟩ :=
    tags_eq_signature_iff writer element text unbroken returns
  obtain rfl : name = .text "vmath.dot" := (Except.ok.inj named).symm
  have starts : (Signature.ofElement (writer.speller .lua) (.text "vmath.dot") element).toOption.map
      tagStarts = some ["---@generic T: vector3", "---@param a T", "---@param b T",
        "---@return number"] := by
    decide +kernel
  have plain : (remarkLines element).toOption.all (fun remarks =>
      remarks.all fun remark => !Text.beginsWith remark "@") = true := by
    decide +kernel
  rw [isSignature] at starts
  rw [← Option.some.inj starts]
  refine ⟨unbroken, text, returns, tagsIff.2 fun remark among => ?_⟩
  simp only [areRemarks, Except.toOption, Option.all_some, List.all_eq_true,
    Bool.not_eq_true'] at plain
  exact plain remark among

/-- A line of a description that begins with an at sign is a tag of a function that has no
signature. -/
theorem tags_ne_signature_of_at_sign :
    let writer : StubWriter := { settings := .default, known := ⟨[]⟩ }
    let element : Value := .record [("type", .text "FUNCTION"), ("name", .text "msg.post"),
      ("description",
        .text "Sends a message to a receiver, for example to\n@render: or @system:")]
    IsUnbroken writer .function element ∧
      ∃ signature text,
        Signature.ofElement (writer.speller .lua) (.text "msg.post") element = .ok signature ∧
        declareFunction? writer element = .ok (some text) ∧
        tagStarts signature = [] ∧ tags text = ["---@render: or @system:"] ∧
        ¬List.Forall₂ (fun line start => Text.beginsWith line start = true) (tags text)
          (tagStarts signature) := by
  intro writer element
  have starts : (Signature.ofElement (writer.speller .lua) (.text "msg.post") element).toOption.map
      tagStarts = some [] := by
    decide +kernel
  have written : (declareFunction? writer element).toOption.join.map tags =
      some ["---@render: or @system:"] := by
    decide +kernel
  obtain ⟨signature, isSignature, noTags⟩ := Option.map_eq_some_iff.1 starts
  obtain ⟨text, isText, isTag⟩ := Option.map_eq_some_iff.1 written
  refine ⟨by decide +kernel, signature, text, Outcome.toOption_eq_some.1 isSignature,
    Outcome.toOption_join_eq_some.1 isText, noTags, isTag, ?_⟩
  rw [noTags, isTag]
  exact nofun

end Functions

end ApiStubs.Lua
