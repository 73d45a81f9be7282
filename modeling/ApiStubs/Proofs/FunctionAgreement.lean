import ApiStubs.Lua.File
import ApiStubs.Proofs.Lua.Layout
import ApiStubs.Proofs.Signature
import ApiStubs.Proofs.Teal.Signature
import ApiStubs.Proofs.Teal.Traversal
import ApiStubs.Settings.Default

/-!
# The dialects agree on functions

Lua declares a function under its own name. Teal takes the name apart into keys and a last segment
and puts it together again on the way through the groups. With the same renamings and the same
functions left undeclared, both leave out the same functions and find the same identifiers for the
parameters of all others. This says nothing about types, which each dialect spells for itself.
-/

namespace ApiStubs

open ApiStubs.Reference ApiStubs.Types

namespace Teal

/-- A function is left out exactly when its full name is among those never declared. -/
theorem declareFunction?_eq_none_iff {writer : StubWriter} {element fullName : Value}
    {isOutermost : Bool} :
    declareFunction? writer element fullName isOutermost = .ok none ↔
      fullName.memberOf writer.settings.teal.undeclared = true := by
  constructor
  · intro returns
    rw [declareFunction?] at returns
    split at returns
    · assumption
    · simp only [Outcome.bind_eq_ok, Outcome.pure_eq_ok, reduceCtorEq, and_false,
        exists_false] at returns
  · intro isMember
    rw [declareFunction?, if_pos isMember]
    rfl

/-- A declared function ends with the line of its signature. -/
theorem signature_of_declareFunction? {writer : StubWriter} {element fullName : Value}
    {isOutermost : Bool} {parts : List Part} {name : String}
    (named : element.field? "name" = some (.text name))
    (returns : declareFunction? writer element fullName isOutermost = .ok (some parts)) :
    ∃ signature, Signature.ofElement (writer.speller .teal) fullName element = .ok signature ∧
      ∃ front line, parts = front ++ [.line line] ∧
        IsSignatureLine name isOutermost signature line := by
  obtain ⟨layout, rfl⟩ := exists_functionLayout returns
  have isLine := layout.isSignatureLine_code isOutermost
  rw [layout.name_eq (Value.require_eq_ok.2 named), Value.display_text] at isLine
  exact ⟨layout.signature, layout.isSignature, _, _, rfl, isLine⟩

end Teal

namespace Lua

/-- A declared function ends with the line of its signature. -/
theorem signature_of_declareFunction? {writer : StubWriter} {element : Value} {name text : String}
    (named : element.field? "name" = some (.text name))
    (returns : declareFunction? writer element = .ok (some text)) :
    ∃ signature,
      Signature.ofElement (writer.speller .lua) (.text name) element = .ok signature ∧
      ∃ front, text = front ++ "\n" ++ "function " ++ name ++ "(" ++
        Text.join ", " (signature.parameters.map Slot.name) ++ ") end" := by
  obtain ⟨layout, rfl⟩ := exists_functionLayout returns
  have isName := layout.name_eq (Value.require_eq_ok.2 named)
  refine ⟨layout.signature, isName ▸ layout.isSignature, Text.join "\n" layout.annotations, ?_⟩
  have isText : layout.text = Text.join "\n" layout.annotations ++ "\n" ++ layout.code :=
    Text.join_concat "\n" (by simp [FunctionLayout.annotations]) layout.code
  rw [isText, FunctionLayout.code, functionLine, isName, Value.display_text]
  simp only [String.append_assoc]

end Lua

namespace Reference.Group.IsShownAs

variable {path : List String} {element shown : Value}

/-- What an element appears as documents the same parameters and results. -/
theorem documented_eq (appears : IsShownAs path element shown) (side : Side) :
    Signature.documented side shown = Signature.documented side element := by
  obtain ⟨fields, shownFields, rfl, rfl, same⟩ := appears.get?_eq
  have isNoName : side.key ≠ "name" := by cases side <;> decide
  simp only [Signature.documented, Value.get, Value.getOr_record, same side.key isNoName]

/-- What an element appears as has the labels of the element. -/
theorem labels_eq (appears : IsShownAs path element shown) (dialect : Dialect) (side : Side)
    (owner : Value) :
    Naming.labels dialect side owner shown = Naming.labels dialect side owner element := by
  rw [Naming.labels, Naming.labels, appears.documented_eq]

end Reference.Group.IsShownAs

namespace Teal

/-- A declaration that was asked for a function of a module: for the element as it appears in its
group, and under the name that the element had before it was placed. -/
structure Call.IsFor (call : Call) (element : Value) : Prop where
  isFunction : Kind.of? element = .ok (some .function)
  kind : call.kind = .function
  shown : ∃ path, Group.IsShownAs path element call.element ∧ call.isOutermost = path.isEmpty
  fullName : element.field? "name" = some (.text call.fullName)

/-- What Teal makes of a declaration that was asked for and what Lua makes of its element: both
leave the function out, or both find the same identifiers and flags for its parameters. These are
what the parameters in the signature line of Teal show, and the identifiers are what stands between
the parentheses in the last line of Lua. -/
structure Call.AgreesWith (writer : StubWriter) (element : Value) (call : Call) : Prop where
  answered : ∃ parts?,
    declareFunction? writer call.element (.text call.fullName) call.isOutermost = .ok parts?
  leftOut :
    declareFunction? writer call.element (.text call.fullName) call.isOutermost = .ok none ↔
      Lua.declareFunction? writer element = .ok none
  labels : ∀ parts,
    declareFunction? writer call.element (.text call.fullName) call.isOutermost =
      .ok (some parts) →
    ∃ signature,
      Signature.ofElement (writer.speller .teal) (.text call.fullName) call.element =
        .ok signature ∧
      (∃ front line name, parts = front ++ [.line line] ∧
        call.element.field? "name" = some (.text name) ∧
        IsSignatureLine name call.isOutermost signature line) ∧
      Naming.labels writer.settings.lua .argument (.text call.fullName) element =
        .ok (signature.parameters.map Slot.label) ∧
      ∀ text, Lua.declareFunction? writer element = .ok (some text) →
        ∃ other,
          Signature.ofElement (writer.speller .lua) (.text call.fullName) element = .ok other ∧
          other.parameters.map Slot.label = signature.parameters.map Slot.label ∧
          ∃ front, text = front ++ "\n" ++ "function " ++ call.fullName ++ "(" ++
            Text.join ", " (other.parameters.map Slot.name) ++ ") end"

/-- A declaration asked for a function agrees with what Lua makes of it. -/
theorem Call.IsFor.agreesWith {writer : StubWriter} {element : Value} {call : Call}
    (isFor : call.IsFor element) (answered : call.IsAnswered (declareWith writer))
    (renamings : writer.settings.lua.renamings = writer.settings.teal.renamings)
    (localRenamings : writer.settings.lua.localRenamings = writer.settings.teal.localRenamings)
    (undeclared : writer.settings.lua.undeclared = writer.settings.teal.undeclared) :
    call.AgreesWith writer element := by
  obtain ⟨_, isFunction, ⟨path, appears, _⟩, named⟩ := isFor
  obtain ⟨last, shownName, _⟩ := appears.named
  refine ⟨?_, ?_, fun parts declared => ?_⟩
  · obtain ⟨declared?, answer⟩ := answered
    rw [isFunction] at answer
    obtain ⟨parts?, declared, _⟩ := Outcome.bind_eq_ok.1 answer
    exact ⟨parts?, declared⟩
  · rw [declareFunction?_eq_none_iff, Lua.declareFunction?_eq_none_iff named, undeclared]
  · obtain ⟨signature, read, front, line, split, isLine⟩ :=
      signature_of_declareFunction? shownName declared
    have inTeal := Signature.labels_of_ofElement read
    rw [appears.labels_eq] at inTeal
    have inLua : Naming.labels writer.settings.lua .argument (.text call.fullName) element =
        .ok (signature.parameters.map Slot.label) :=
      (Naming.labels_congr renamings localRenamings ..).trans inTeal
    refine ⟨signature, read, ⟨front, line, last, split, shownName, isLine⟩, inLua, ?_⟩
    intro text declaredInLua
    obtain ⟨other, readOther, text⟩ := Lua.signature_of_declareFunction? named declaredInLua
    refine ⟨other, readOther, ?_, text⟩
    exact Except.ok.inj ((Signature.labels_of_ofElement readOther).symm.trans inLua)

/-- A declaration asked for a function in groups that hold elements is for one of these. -/
theorem exists_isFor_of_isAskedFor {root : Group} {declared : List Value}
    (held : root.Holds declared) {call : Call} (asked : IsAskedFor [] root call)
    (isFunction : call.kind = .function) : ∃ element ∈ declared, call.IsFor element := by
  obtain ⟨element, member, concerns⟩ := exists_concerns held asked
  exact ⟨element, member, isFunction ▸ concerns.kind, isFunction, concerns.shown, concerns.fullName⟩

/-- In groups that hold elements a declaration is asked for every function of these. -/
theorem exists_isAskedFor_of_mem {root : Group} {declared : List Value}
    (held : root.Holds declared) {element : Value} (member : element ∈ declared)
    (isFunction : Kind.of? element = .ok (some .function)) :
    ∃ call, IsAskedFor [] root call ∧ call.IsFor element := by
  obtain ⟨call, asked, kind, concerns⟩ := exists_isAskedFor held member isFunction
  exact ⟨call, asked, isFunction, kind, concerns.shown, concerns.fullName⟩

/-- The dialects agree on functions. When the Teal file of several modules is rendered, a
declaration is asked for every selected function under its original name, and every function
declaration that is asked for is that of a selected one. With the same renamings and functions left
undeclared in both dialects, each of them agrees with what Lua makes of its element. -/
theorem dialects_agree_on_functions (writer : StubWriter) (version : String) (modules : List Value)
    (lines : List String)
    (renamings : writer.settings.lua.renamings = writer.settings.teal.renamings)
    (localRenamings : writer.settings.lua.localRenamings = writer.settings.teal.localRenamings)
    (undeclared : writer.settings.lua.undeclared = writer.settings.teal.undeclared)
    (renders : renderLines writer version modules = .ok lines) :
    ∃ selected declared root parts calls,
      writer.settings.teal.selection.selectAll modules = .ok selected ∧
      elementsOf selected = .ok declared ∧
      Group.ofModules writer.settings.teal.selection modules = .ok root ∧
      renderGroup writer [] root = .ok parts ∧
      (groupParts (watch (declareWith writer)) [] root).run [] = .ok (parts, calls) ∧
      (∀ element ∈ declared, Kind.of? element = .ok (some .function) →
        ∃ call ∈ calls, call.IsFor element ∧ call.AgreesWith writer element) ∧
      ∀ call ∈ calls, call.kind = .function →
        ∃ element ∈ declared, call.IsFor element ∧ call.AgreesWith writer element := by
  obtain ⟨root, grouped, parts, rendered, _⟩ := by
    simpa only [renderLines, Outcome.bind_eq_ok] using renders
  obtain ⟨selected, declared, selects, read, held⟩ := Group.holds_of_ofModules grouped
  obtain ⟨calls, run, answered, asked⟩ :=
    (declarations_asked_for (declareWith writer) held.tidy [] []).2 parts rendered
  refine ⟨selected, declared, root, parts, calls, selects, read, grouped, rendered, run, ?_, ?_⟩
  · intro element member isFunction
    obtain ⟨call, isAskedFor, isFor⟩ := exists_isAskedFor_of_mem held member isFunction
    have made := (asked call).2 isAskedFor
    exact ⟨call, made, isFor, isFor.agreesWith (answered call made) renamings localRenamings
      undeclared⟩
  · intro call made isFunction
    obtain ⟨element, member, isFor⟩ :=
      exists_isFor_of_isAskedFor held ((asked call).1 made) isFunction
    exact ⟨element, member, isFor, isFor.agreesWith (answered call made) renamings localRenamings
      undeclared⟩

/-- By default the dialects agree on a function inside a group, on its optional parameter with a
word of the language for a name, and on a callback, which both leave out. -/
theorem dialects_agree_by_default :
    let writer : StubWriter := { settings := .default, known := ⟨[]⟩ }
    let function (name : String) : Value := .record [("name", .text name),
      ("type", .text "FUNCTION"), ("parameters", .list [.record [("name", .text "[end]")]])]
    let modules : List Value := [.record [("namespace", .text "meta"),
      ("elements", .list [function "go.get", function "init"])]]
    ∃ lines selected declared root parts calls, renderLines writer "1" modules = .ok lines ∧
      writer.settings.teal.selection.selectAll modules = .ok selected ∧
      elementsOf selected = .ok declared ∧
      Group.ofModules writer.settings.teal.selection modules = .ok root ∧
      renderGroup writer [] root = .ok parts ∧
      (groupParts (watch (declareWith writer)) [] root).run [] = .ok (parts, calls) ∧
      (∀ element ∈ declared, Kind.of? element = .ok (some .function) →
        ∃ call ∈ calls, call.IsFor element ∧ call.AgreesWith writer element) ∧
      (∀ call ∈ calls, call.kind = .function →
        ∃ element ∈ declared, call.IsFor element ∧ call.AgreesWith writer element) ∧
      ["global record go", "\tget: function(finish?: any)", "end"] <:+ lines ∧
      Lua.declareFunction? writer (function "go.get") =
        .ok (some "---\n---@param finish nil\nfunction go.get(finish) end") ∧
      Lua.declareFunction? writer (function "init") = .ok none := by
  intro writer function modules
  have written : (renderLines writer "1" modules).toOption.map (List.drop 6) =
      some ["global record go", "\tget: function(finish?: any)", "end"] := by
    decide +kernel
  have writtenInLua : (Lua.declareFunction? writer (function "go.get")).toOption =
      some (some "---\n---@param finish nil\nfunction go.get(finish) end") := by
    decide +kernel
  obtain ⟨lines, areLines, ending⟩ := Option.map_eq_some_iff.1 written
  have returns := Outcome.toOption_eq_some.1 areLines
  obtain ⟨selected, declared, root, parts, calls, selects, read, grouped, rendered, run, agree,
    asked⟩ := dialects_agree_on_functions writer "1" modules lines rfl rfl rfl returns
  exact ⟨lines, selected, declared, root, parts, calls, returns, selects, read, grouped, rendered,
    run, agree, asked, ending ▸ List.drop_suffix 6 lines, Outcome.toOption_eq_some.1 writtenInLua,
    rfl⟩

end Teal

end ApiStubs
