import ApiStubs.Proofs.Lua.Marked
import ApiStubs.Proofs.Signature
import ApiStubs.Settings.Default

/-!
# Comment lines and lines of code

The language server reads the comment lines of a stub, and Lua reads the others. A function and a
variable have one line of code, the last one, and documentation has no part in it, whatever it says.
A class has one line of code at most, the table of a global class, as long as no text of a field has
several lines.

- `lines_of_function_or_variable` is the result on functions and variables.
- `annotates_class_iff` says which texts of fields leave the lines of a class comment lines.
-/

namespace ApiStubs.Lua

open ApiStubs.Reference ApiStubs.Types

/-! ## Functions and variables -/

/-- Elements that differ in nothing but their descriptions and the docs of their parameters and
return values. -/
structure DifferInDocs (element other : Value) : Prop where
  agree : element.AgreeBut ["description", Side.argument.key, Side.result.key] other
  members : ∀ side, ∃ documented documentedOther,
    Signature.documented side element = .ok documented ∧
    Signature.documented side other = .ok documentedOther ∧
    List.Forall₂ (Value.AgreeBut ["doc"]) documented documentedOther

namespace DifferInDocs

variable {element other : Value}

/-- Docs have no part in slots. -/
theorem readSide_eq (differ : DifferInDocs element other) (speller : Speller) (side : Side)
    (owner : Value) : Signature.readSide speller side owner element =
      Signature.readSide speller side owner other := by
  obtain ⟨documented, documentedOther, read, readOther, agree⟩ := differ.members side
  rw [Signature.readSide, Signature.readSide, read, readOther, Outcome.ok_bind, Outcome.ok_bind]
  refine Outcome.mapM_eq_of_forall₂ (agree.imp fun member memberOther agree => ?_)
  simp only [Slot.ofDocumented, agree.require_eq (show "name" ∉ ["doc"] by decide),
    agree.get_eq (show "types" ∉ ["doc"] by decide)]

/-- Documentation has no part in signatures. -/
theorem ofElement_eq (differ : DifferInDocs element other) (speller : Speller) (owner : Value) :
    Signature.ofElement speller owner element = Signature.ofElement speller owner other := by
  simp only [Signature.ofElement, differ.readSide_eq]

/-- Documentation has no part in names. -/
theorem named_iff (differ : DifferInDocs element other) {name : Value} :
    element.require "name" = .ok name ↔ other.require "name" = .ok name := by
  rw [differ.agree.require_eq (by decide)]

/-- Functions that differ in documentation only have the same line of code. -/
theorem code_eq (differ : DifferInDocs element other) {writer : StubWriter}
    (layout : FunctionLayout writer element) (layoutOther : FunctionLayout writer other) :
    layoutOther.code = layout.code := by
  have sameName := layoutOther.name_eq (differ.named_iff.1 layout.named)
  have isSignature := differ.ofElement_eq (writer.speller .lua) layout.name ▸ layout.isSignature
  rw [← sameName] at isSignature
  have sameSignature : layoutOther.signature = layout.signature :=
    Except.ok.inj (layoutOther.isSignature.symm.trans isSignature)
  rw [FunctionLayout.code, FunctionLayout.code, sameName, sameSignature]

end DifferInDocs

/-- The line of code of a function with a name and with the identifiers of its parameters, or that
of a variable with a name. -/
def IsCodeLine (writer : StubWriter) (kind : Kind) (name : String) (element : Value)
    (code : String) : Prop :=
  match kind with
  | .function => ∃ labels,
      Naming.labels writer.settings.lua .argument (.text name) element = .ok labels ∧
      code = "function " ++ name ++ "(" ++ Text.join ", " (labels.map Prod.fst) ++ ") end"
  | .variable => code = name ++ " = nil"
  | _ => False

section Code

variable {writer : StubWriter} {element : Value} {name text : String}

/-- The line of code of a function names its parameters. -/
theorem FunctionLayout.isCodeLine (layout : FunctionLayout writer element)
    (named : element.require "name" = .ok (.text name)) :
    IsCodeLine writer .function name element layout.code := by
  have isName := layout.name_eq named
  have isSignature := layout.isSignature
  rw [isName] at isSignature
  refine ⟨_, Signature.labels_of_ofElement isSignature, ?_⟩
  rw [code, functionLine, isName, Value.display_text, List.map_map]
  rfl

/-- A declared function or variable is marked texts above its line of code, which no other
documentation changes. -/
theorem exists_code {kind : Kind} (isCode : kind = .function ∨ kind = .variable)
    (named : element.require "name" = .ok (.text name)) (unbroken : IsUnbroken writer kind element)
    (returns : declare? writer kind element = .ok (some text)) :
    ∃ annotations code, text = Text.join "\n" (annotations ++ [code]) ∧
      (∀ text ∈ annotations, Text.IsMarked text) ∧ Text.IsUnbroken code ∧
      IsCodeLine writer kind name element code ∧
      ∀ other otherText, DifferInDocs element other →
        declare? writer kind other = .ok (some otherText) →
        ∃ others, otherText = Text.join "\n" (others ++ [code]) := by
  rcases isCode with rfl | rfl
  · obtain ⟨layout, rfl⟩ := exists_functionLayout returns
    refine ⟨layout.annotations, layout.code, rfl, layout.isMarked_annotations unbroken,
      layout.isUnbroken_code unbroken, layout.isCodeLine named, ?_⟩
    intro other otherText differ declared
    obtain ⟨layoutOther, rfl⟩ := exists_functionLayout declared
    exact ⟨layoutOther.annotations, by rw [FunctionLayout.text, differ.code_eq layout]⟩
  · have unbrokenName : Text.IsUnbroken name := (unbroken (.text name) named).1
    have isVariable {element : Value} {text : String}
        (named : element.require "name" = .ok (.text name))
        (returns : declare? writer .variable element = .ok (some text)) :
        ∃ comment, Text.IsMarked comment ∧ text = Text.join "\n" [comment, name ++ " = nil"] := by
      obtain ⟨_, made, isText⟩ := Outcome.map_eq_ok.1 returns
      obtain ⟨own, comment, ownName, marked, rfl⟩ :=
        exists_of_declareVariable (Option.some.inj isText ▸ made)
      obtain rfl : own = name := Value.text.inj (Except.ok.inj (ownName.symm.trans named))
      exact ⟨comment, marked, rfl⟩
    obtain ⟨comment, marked, rfl⟩ := isVariable named returns
    refine ⟨[comment], name ++ " = nil", rfl, List.forall_mem_singleton.2 marked,
      Text.isUnbroken_append.2 ⟨unbrokenName, by decide⟩, rfl, ?_⟩
    intro other otherText differ declared
    obtain ⟨otherComment, _, rfl⟩ := isVariable (differ.named_iff.1 named) declared
    exact ⟨[otherComment], rfl⟩

/-- A line of code is no comment when the name in it does not begin with the marker. -/
theorem IsCodeLine.beginsWith_eq_false {kind : Kind} {code : String}
    (isLine : IsCodeLine writer kind name element code)
    (plain : Text.beginsWith name Text.declarationMarker = false) :
    Text.beginsWith code Text.declarationMarker = false := by
  cases kind with
  | function =>
      obtain ⟨labels, _, rfl⟩ := isLine
      simp [Text.beginsWith, Text.declarationMarker, List.isPrefixOf]
  | «variable» =>
      obtain rfl : code = name ++ " = nil" := isLine
      have absent : ∀ next ∈ " = nil".toList.head?, next ∉ Text.declarationMarker.toList := by
        simp [Text.declarationMarker]
      rwa [Text.beginsWith_append_eq absent]
  | _ => exact isLine.elim

/-- Documentation never becomes code. Of the lines of a function or a variable only the last one
does not begin with the marker of comments. That one holds the name, and for a function the
identifiers of its parameters, so that it is the last line of every element that differs in its
description and docs only. The names and types that its slots resolve to may hold no newline, and
the name of the element may not begin with the marker, which no identifier does; descriptions and
docs can be any texts. -/
theorem lines_of_function_or_variable (writer : StubWriter) (kind : Kind)
    (isCode : kind = .function ∨ kind = .variable) (element : Value) (name text : String)
    (named : element.require "name" = .ok (.text name))
    (plain : Text.beginsWith name Text.declarationMarker = false)
    (unbroken : IsUnbroken writer kind element)
    (returns : declare? writer kind element = .ok (some text)) :
    ∃ comments code, Text.lines text = comments ++ [code] ∧
      (∀ line ∈ comments, Text.beginsWith line Text.declarationMarker = true) ∧
      Text.beginsWith code Text.declarationMarker = false ∧
      IsCodeLine writer kind name element code ∧
      ∀ other otherText, DifferInDocs element other →
        declare? writer kind other = .ok (some otherText) →
        (Text.lines otherText).getLast? = some code := by
  obtain ⟨annotations, code, rfl, marked, unbrokenCode, isLine, same⟩ :=
    exists_code isCode named unbroken returns
  refine ⟨annotations.flatMap Text.lines, code, Text.lines_join_concat annotations unbrokenCode, ?_,
    isLine.beginsWith_eq_false plain, isLine, ?_⟩
  · intro line member
    obtain ⟨piece, among, inside⟩ := List.mem_flatMap.1 member
    exact marked piece among line inside
  · intro other otherText differ declared
    obtain ⟨others, rfl⟩ := same other otherText differ declared
    rw [Text.lines_join_concat others unbrokenCode, List.getLast?_concat]

/-- A function whose documentation holds code, tags and empty lines has the line of code that it has
without documentation. -/
theorem lines_of_documented_function :
    let writer : StubWriter := { settings := .default, known := ⟨[]⟩ }
    let element (description doc : String) : Value :=
      .record [("type", .text "FUNCTION"), ("name", .text "go.get"),
        ("description", .text description),
        ("parameters", .list [.record [("name", .text "id"), ("types", .list [.text "hash"]),
          ("doc", .text doc)]])]
    ∃ text otherText,
      declare? writer .function (element "<p>Get\n\nos.exit()</p>\n" "an id&#10;end\n  \n") =
        .ok (some text) ∧
      declare? writer .function (element "" "") = .ok (some otherText) ∧
      ∃ comments code, Text.lines text = comments ++ [code] ∧
        (∀ line ∈ comments, Text.beginsWith line Text.declarationMarker = true) ∧
        (Text.lines otherText).getLast? = some code := by
  intro writer element
  obtain ⟨text, returns⟩ : ∃ text, declare? writer .function
      (element "<p>Get\n\nos.exit()</p>\n" "an id&#10;end\n  \n") = .ok (some text) :=
    Outcome.exists_of_isSome (by decide +kernel)
  obtain ⟨otherText, returnsOther⟩ : ∃ text,
      declare? writer .function (element "" "") = .ok (some text) :=
    Outcome.exists_of_isSome (by decide +kernel)
  have unbroken : IsUnbroken writer .function
      (element "<p>Get\n\nos.exit()</p>\n" "an id&#10;end\n  \n") := by
    decide +kernel
  have differ (description doc : String) :
      DifferInDocs (element description doc) (element "" "") := by
    refine ⟨⟨_, _, rfl, rfl, fun key outside => ?_⟩, fun side => ?_⟩
    · simp only [List.mem_cons, Side.key, not_or] at outside
      simp only [Table.get?_cons, outside, if_false]
    · cases side with
      | argument =>
          refine ⟨_, _, rfl, rfl, .cons ⟨_, _, rfl, rfl, fun key outside => ?_⟩ .nil⟩
          simp only [Table.get?_cons, List.mem_singleton.not.1 outside, if_false]
      | result => exact ⟨[], [], rfl, rfl, .nil⟩
  obtain ⟨comments, code, areLines, marked, _, _, same⟩ :=
    lines_of_function_or_variable writer .function (.inl rfl) _ "go.get" text rfl (by decide)
      unbroken returns
  exact ⟨text, otherText, returns, returnsOther, comments, code, areLines, marked,
    same _ _ (differ _ _) returnsOther⟩

end Code

/-! ## Classes -/

/-- What a class puts into its lines besides the texts of its fields holds no newline: its name, the
names of its fields, and its operators. -/
def AreClassNamesUnbroken (element : Value) : Prop :=
  Outcome.Yields (element.require "name") (fun name => Text.IsUnbroken name.display) ∧
    Outcome.Yields (element.require "fields" >>= Value.sortedFields) (fun fields =>
      ∀ field ∈ fields, Text.IsUnbroken field.1) ∧
    Outcome.Yields (element.get "operators" >>= fun operators =>
      (operators.orElse (.record [])).sortedFields) fun operators =>
        ∀ operator ∈ operators, IsOperatorUnbroken operator

instance (element : Value) : Decidable (AreClassNamesUnbroken element) :=
  inferInstanceAs (Decidable (Outcome.Yields _ _ ∧ Outcome.Yields _ _ ∧ Outcome.Yields _ _))

/-- A text opens a class, makes its table known when that is a global one, and goes on with comment
lines only. -/
def AnnotatesOnly (name : String) (isGlobal : Bool) (text : String) : Prop :=
  ∃ annotations, Text.lines text = ["---@class " ++ name] ++
      (if isGlobal then [name ++ " = \x7b\x7d"] else []) ++ annotations ∧
    ∀ line ∈ annotations, Text.beginsWith line Text.declarationMarker = true

/-- The lines of a field are marked exactly when its text goes on with marked lines. -/
theorem isMarked_fieldLine_iff {field : String × Value} (unbroken : Text.IsUnbroken field.1) :
    Text.IsMarked (fieldLine field) ↔ ∀ line ∈ (Text.lines field.2.display).tail,
      Text.beginsWith line Text.declarationMarker = true := by
  have unbrokenStart : Text.IsUnbroken ("---@field " ++ field.1 ++ " ") := by
    simp only [Text.isUnbroken_append]
    exact ⟨⟨by decide, unbroken⟩, by decide⟩
  cases cut : Text.lines field.2.display with
  | nil => exact absurd cut (Text.lines_ne_nil _)
  | cons first others =>
      have begins : Text.beginsWith ("---@field " ++ field.1 ++ " " ++ first)
          Text.declarationMarker = true := by
        simp only [String.append_assoc]
        exact Text.beginsWith_append_right (by decide) _
      rw [Text.IsMarked, fieldLine, Text.lines_append unbrokenStart cut, List.forall_mem_cons,
        List.tail_cons]
      exact and_iff_right begins

/-- The lines of a class are the opening, its table if it is a global one, and those of its fields
and operators. -/
theorem ClassLayout.lines_text {element : Value} (layout : ClassLayout element)
    (unbroken : Text.IsUnbroken layout.name.display) :
    Text.lines layout.text =
      ["---@class " ++ layout.name.display] ++
        (if layout.isGlobal then [layout.name.display ++ " = \x7b\x7d"] else []) ++
        (layout.declared.map fieldLine ++ layout.operatorLines).flatMap Text.lines := by
  have opening : Text.lines layout.opening = ["---@class " ++ layout.name.display] :=
    Text.lines_of_not_mem (Text.isUnbroken_append.2 ⟨by decide, unbroken⟩)
  have table : layout.table.flatMap Text.lines =
      if layout.isGlobal then [layout.name.display ++ " = \x7b\x7d"] else [] := by
    rw [ClassLayout.table]
    split
    · rw [List.flatMap_singleton]
      exact Text.lines_of_not_mem (Text.isUnbroken_append.2 ⟨unbroken, by decide⟩)
    · rfl
  rw [text, List.append_assoc, Text.lines_join (by simp), List.flatMap_append, List.flatMap_append,
    List.flatMap_singleton, opening, table]

/-- A class consists of comment lines, apart from the table of a global class, exactly when the text
of each declared field goes on with comment lines. Nothing else of a class can bring another line
into it. -/
theorem annotates_class_iff (element : Value) (text : String)
    (unbroken : AreClassNamesUnbroken element) (returns : declareClass element = .ok text) :
    ∃ name isGlobal fields, element.require "name" = .ok name ∧
      isGlobalTable element = .ok isGlobal ∧
      (element.require "fields" >>= Value.sortedFields) = .ok fields ∧
      (AnnotatesOnly name.display isGlobal text ↔
        ∀ field ∈ fields, field.1 ≠ globalMark →
          ∀ line ∈ (Text.lines field.2.display).tail,
            Text.beginsWith line Text.declarationMarker = true) := by
  obtain ⟨layout, rfl⟩ := exists_classLayout returns
  obtain ⟨unbrokenName, unbrokenFields, unbrokenOperators⟩ := unbroken
  have areMarked : ∀ line ∈ layout.operatorLines, Text.IsMarked line := by
    intro line member
    obtain ⟨operator, among, isLine⟩ := (Outcome.mem_mapM_iff layout.areOperatorLines).1 member
    exact isMarked_operatorLine
      (unbrokenOperators layout.operators layout.areOperators operator among) isLine
  refine ⟨layout.name, layout.isGlobal, layout.fields, layout.named, layout.decides,
    layout.areFields, ?_⟩
  have cancels : AnnotatesOnly layout.name.display layout.isGlobal layout.text ↔
      ∀ line ∈ (layout.declared.map fieldLine ++ layout.operatorLines).flatMap Text.lines,
        Text.beginsWith line Text.declarationMarker = true := by
    rw [AnnotatesOnly, layout.lines_text (unbrokenName _ layout.named)]
    simp only [List.append_cancel_left_eq]
    exact exists_eq_left'
  rw [cancels, List.forall_mem_flatMap, List.forall_mem_append, List.forall_mem_map]
  refine (and_iff_left areMarked).trans ⟨?_, ?_⟩
  · intro marked field member isDeclared
    refine (isMarked_fieldLine_iff (unbrokenFields _ layout.areFields field member)).1 ?_
    exact marked field (List.mem_filter.2 ⟨member, by simpa using isDeclared⟩)
  · intro goesOn field member
    obtain ⟨among, isDeclared⟩ := List.mem_filter.1 member
    refine (isMarked_fieldLine_iff (unbrokenFields _ layout.areFields field among)).2 ?_
    exact goesOn field among (by simpa using isDeclared)

/-- A class with an operator and a field whose text has a second line that is marked consists of
comment lines. -/
theorem annotates_class_of_marked_text :
    let element : Value := .record [("type", .text "BASIC_CLASS"), ("name", .text "on_input.touch"),
      ("fields", .record [("x", .text "number The x touch location\n---in screen space")]),
      ("operators", .record [("unm", .record [("result", .text "on_input.touch")])])]
    AreClassNamesUnbroken element ∧ ∃ text, declareClass element = .ok text ∧
      AnnotatesOnly "on_input.touch" false text := by
  intro element
  have unbroken : AreClassNamesUnbroken element := by decide +kernel
  have isDeclared : (declareClass element).isOk = true := by decide +kernel
  obtain ⟨text, returns⟩ := Outcome.exists_of_isOk isDeclared
  obtain ⟨name, isGlobal, fields, named, decides, areFields, annotates⟩ :=
    annotates_class_iff element text unbroken returns
  obtain rfl : name = .text "on_input.touch" := (Except.ok.inj named).symm
  obtain rfl : isGlobal = false := (Except.ok.inj decides).symm
  have goesOn : (element.require "fields" >>= Value.sortedFields).toOption.all (fun fields =>
      fields.all fun field => (Text.lines field.2.display).tail.all fun line =>
        Text.beginsWith line Text.declarationMarker) = true := by
    decide +kernel
  refine ⟨unbroken, text, returns, annotates.2 fun field member _ line among => ?_⟩
  simp only [areFields, Except.toOption, Option.all_some, List.all_eq_true] at goesOn
  exact goesOn field member line among

/-- The second line of the text of a field becomes a line of its own that is no comment. -/
theorem not_annotatesOnly_of_field_text :
    let element : Value := .record [("type", .text "BASIC_CLASS"), ("name", .text "on_input.touch"),
      ("fields", .record [("x", .text "number The x touch location\nin screen space")])]
    AreClassNamesUnbroken element ∧ isGlobalTable element = .ok false ∧
      ∃ text, declareClass element = .ok text ∧ ¬AnnotatesOnly "on_input.touch" false text := by
  intro element
  have written : (declareClass element).toOption.map Text.lines = some ["---@class on_input.touch",
      "---@field x number The x touch location", "in screen space"] := by
    decide +kernel
  obtain ⟨text, returns, areLines⟩ := Option.map_eq_some_iff.1 written
  refine ⟨by decide +kernel, rfl, text, Outcome.toOption_eq_some.1 returns, ?_⟩
  rintro ⟨annotations, opened, marked⟩
  rw [areLines] at opened
  obtain rfl : annotations = ["---@field x number The x touch location", "in screen space"] := by
    simpa using opened.symm
  exact absurd (marked "in screen space" (by simp)) (by decide)

end ApiStubs.Lua
