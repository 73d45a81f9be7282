import ApiStubs.Proofs.Lua.KnownModule
import ApiStubs.Proofs.Lua.Solid
import ApiStubs.Proofs.Lua.Writing

/-!
# Reading a Lua file back

The declarations of a file can be read off its body. Aliases come last, on consecutive lines, and
all other declarations have empty lines around them; since no declaration holds an empty line
itself, cutting the body at its empty lines gives the declarations again, and the aliases as one
block.

- `pairwise_mergeSort` says in which order sorting leaves the kinds, although names need not be
  ordered at all.
- `joinDeclarations_eq_join` says how declarations with the aliases last are put together.
- `blocks_of_moduleText` is the main result.
-/

namespace ApiStubs

section Sorting

variable {α : Type} {le : α → α → Bool} (mayPrecede : α → α → Prop)

/-- Merging keeps an order that the comparison decides, whatever else the comparison looks at. -/
theorem pairwise_merge
    (trans : ∀ ⦃first second third⦄, mayPrecede first second → mayPrecede second third →
      mayPrecede first third)
    (decides : ∀ left right, if le left right then mayPrecede left right else mayPrecede right left)
    {lefts rights : List α} (orderedLeft : lefts.Pairwise mayPrecede)
    (orderedRight : rights.Pairwise mayPrecede) :
    (List.merge lefts rights le).Pairwise mayPrecede := by
  fun_induction List.merge lefts rights le with
  | case1 rights => exact orderedRight
  | case2 lefts => exact orderedLeft
  | case3 left lefts right rights isLe inductionHypothesis =>
      obtain ⟨aboveLeft, orderedLefts⟩ := List.pairwise_cons.1 orderedLeft
      obtain ⟨aboveRight, _⟩ := List.pairwise_cons.1 orderedRight
      have first : mayPrecede left right := by simpa [isLe] using decides left right
      refine List.pairwise_cons.2 ⟨?_, inductionHypothesis orderedLefts orderedRight⟩
      intro other member
      rcases List.mem_merge.1 member with among | among
      · exact aboveLeft other among
      · rcases List.mem_cons.1 among with rfl | later
        · exact first
        · exact trans first (aboveRight other later)
  | case4 left lefts right rights isGreater inductionHypothesis =>
      obtain ⟨aboveLeft, _⟩ := List.pairwise_cons.1 orderedLeft
      obtain ⟨aboveRight, orderedRights⟩ := List.pairwise_cons.1 orderedRight
      have first : mayPrecede right left := by simpa [isGreater] using decides left right
      refine List.pairwise_cons.2 ⟨?_, inductionHypothesis orderedLeft orderedRights⟩
      intro other member
      rcases List.mem_merge.1 member with among | among
      · rcases List.mem_cons.1 among with rfl | later
        · exact first
        · exact trans first (aboveLeft other later)
      · exact aboveRight other among

/-- Sorting leaves the members in an order that the comparison decides. The comparison itself need
not be transitive. -/
theorem pairwise_mergeSort
    (trans : ∀ ⦃first second third⦄, mayPrecede first second → mayPrecede second third →
      mayPrecede first third)
    (decides : ∀ left right, if le left right then mayPrecede left right else mayPrecede right left)
    (members : List α) : (members.mergeSort le).Pairwise mayPrecede := by
  fun_induction List.mergeSort members le with
  | case1 => exact .nil
  | case2 => exact List.pairwise_singleton ..
  | case3 first second rest le halves _ _ inductionLeft inductionRight =>
      exact pairwise_merge mayPrecede trans decides (inductionLeft decides) (inductionRight decides)

/-- When nothing without a property comes after something with it, the members with it are a
segment at the end. -/
theorem eq_filter_append_filter {holds : α → Bool} {members : List α}
    (ordered : members.Pairwise fun left right => holds left = true → holds right = true) :
    members = (members.filter fun member => !holds member) ++ members.filter holds := by
  induction members with
  | nil => rfl
  | cons first rest inductionHypothesis =>
      obtain ⟨above, orderedRest⟩ := List.pairwise_cons.1 ordered
      cases held : holds first with
      | true =>
          have all : rest.filter (fun member => !holds member) = [] :=
            List.filter_eq_nil_iff.2 fun member among => by simp [above member among held]
          have kept : rest.filter holds = rest :=
            List.filter_eq_self.2 fun member among => above member among held
          simp [held, all, kept]
      | false =>
          simpa [held] using inductionHypothesis orderedRest

end Sorting

namespace Lua

open ApiStubs.Reference

/-! ## The declarations of a module -/

/-- The declarations of a module in the order of its file. -/
def moduleDeclarations (writer : StubWriter) (module : Value) :
    Outcome (List (Kind × String)) := do
  let selected ← writer.settings.lua.selection.select module
  let elements ← membersOf selected
  let declarable ← elements.mapM Entry.of?
  declarations writer (← orderedEntries declarable.reduceOption)

/-- An element that the selection keeps and that can be declared as a kind. -/
def IsDeclarable (writer : StubWriter) (module : Value) (kind : Kind) (element : Value) : Prop :=
  ∃ selected elements, writer.settings.lua.selection.select module = .ok selected ∧
    membersOf selected = .ok elements ∧ element ∈ elements ∧ Kind.of? element = .ok (some kind)

/-- The name of the table that the declarations of a module are wrapped into, if they are. -/
def wrapper? (writer : StubWriter) (module : Value) : Outcome (Option String) := do
  let space ← module.require "namespace"
  let selected ← writer.settings.lua.selection.select module
  let isWrapped ← needsNamespace space (← membersOf selected)
  return if isWrapped then some space.display else none

/-- The header of the file of a module. -/
def moduleHeader (writer : StubWriter) (version : String) (module : Value) : Outcome String := do
  let selected ← writer.settings.lua.selection.select module
  header writer version (← selected.require "brief") (← selected.get "description")

/-- A text is a file around a body: a header, the lines that disable diagnostics, and the body, with
empty lines between them. When the module needs a namespace, the body stands between the lines that
open its table and the line that returns it, with an empty line on either side. -/
def IsFileAround (writer : StubWriter) (version : String) (module : Value) (text body : String) :
    Prop :=
  ∃ top wrapper, moduleHeader writer version module = .ok top ∧
    wrapper? writer module = .ok wrapper ∧
    text = top ++ "\n\n" ++ Text.join "\n" ("---@meta" :: writer.settings.diagnostics.map
        fun diagnostic => "---@diagnostic disable: " ++ diagnostic.display) ++ "\n\n" ++
      (wrapper.elim body fun space => Text.join "\n" ["---@class defold_api." ++ space,
        space ++ " = \x7b\x7d", "", body, "", "return " ++ space]) ++ "\n"

/-- Wrapped declarations stand between the lines of their namespace. -/
theorem wrapNamespace_eq_join (space body : String) :
    wrapNamespace space body = Text.join "\n" ["---@class defold_api." ++ space,
      space ++ " = \x7b\x7d", "", body, "", "return " ++ space] := by
  have gap : "\n\n" = "\n" ++ "\n" := rfl
  unfold wrapNamespace tableLine
  rw [gap]
  simp only [Text.join, toString, String.append_assoc, String.empty_append]

/-- A module without declarations has no text; the text of any other module is a file around its
declarations. -/
theorem exists_declared_of_moduleText {writer : StubWriter} {version : String} {module : Value}
    {text? : Option String} (returns : moduleText? writer version module = .ok text?) :
    ∃ declared, moduleDeclarations writer module = .ok declared ∧
      (declared = [] ∧ text? = none ∨ declared ≠ [] ∧ ∃ text, text? = some text ∧
        IsFileAround writer version module text (joinDeclarations declared)) := by
  simp only [moduleText?, Outcome.bind_eq_ok] at returns
  obtain ⟨space, named, selected, selects, value, found, elements, isRead, declarable, ofElements,
    isWrapped, decision, entries, ordered, declared, areDeclared, returns⟩ := returns
  have members : membersOf selected = .ok elements := Outcome.bind_eq_ok.2 ⟨value, found, isRead⟩
  refine ⟨declared, ?_, ?_⟩
  · simp only [moduleDeclarations, selects, members, ofElements, ordered, Outcome.ok_bind,
      areDeclared]
  · split at returns
    · next isEmpty =>
        exact .inl ⟨List.isEmpty_iff.1 isEmpty, (Outcome.pure_eq_ok.1 returns).symm⟩
    · next nonempty =>
        simp only [Outcome.bind_eq_ok, Outcome.pure_eq_ok] at returns
        obtain ⟨title, hasTitle, description, hasDescription, top, isTop, written⟩ := returns
        refine .inr ⟨by simpa using nonempty, _, written.symm, top,
          if isWrapped then some space.display else none, ?_, ?_, ?_⟩
        · simp only [moduleHeader, selects, hasTitle, hasDescription, Outcome.ok_bind, isTop]
        · simp only [wrapper?, named, selects, members, decision, Outcome.ok_bind]
          rfl
        · cases isWrapped with
          | false => rfl
          | true => exact congrArg (_ ++ · ++ "\n") (wrapNamespace_eq_join space.display _)

/-- The text of a module is a file around its declarations. -/
theorem isFileAround_of_moduleText {writer : StubWriter} {version : String} {module : Value}
    {text : String} (returns : moduleText? writer version module = .ok (some text)) :
    ∃ declared, moduleDeclarations writer module = .ok declared ∧ declared ≠ [] ∧
      IsFileAround writer version module text (joinDeclarations declared) := by
  obtain ⟨declared, areDeclared, ⟨_, none⟩ | ⟨nonempty, _, isText, isFile⟩⟩ :=
    exists_declared_of_moduleText returns
  · cases none
  · exact ⟨declared, areDeclared, nonempty, Option.some.inj isText ▸ isFile⟩

/-! ## The order of the declarations -/

/-- A declaration of an alias. -/
def isAlias (declaration : Kind × String) : Bool :=
  declaration.1 == .aliasType

/-- The declarations among several that are no aliases. -/
def others (declared : List (Kind × String)) : List (Kind × String) :=
  declared.filter fun declaration => !isAlias declaration

/-- The aliases among declarations. -/
def aliases (declared : List (Kind × String)) : List (Kind × String) :=
  declared.filter isAlias

/-- A declaration is that of an entry. -/
theorem exists_of_mem_declarations {writer : StubWriter} {entries : List Entry}
    {declared : List (Kind × String)} (returns : declarations writer entries = .ok declared)
    {declaration : Kind × String} (member : declaration ∈ declared) :
    ∃ entry ∈ entries, entry.kind = declaration.1 ∧
      declare? writer entry.kind entry.element = .ok (some declaration.2) := by
  induction entries generalizing declared with
  | nil =>
      obtain rfl := Except.ok.inj returns
      simp at member
  | cons first rest inductionHypothesis =>
      simp only [declarations, Outcome.bind_eq_ok, Outcome.pure_eq_ok] at returns
      obtain ⟨text?, made, others, later, rfl⟩ := returns
      rcases List.mem_append.1 member with isFirst | among
      · obtain ⟨text, isText, rfl⟩ := List.mem_map.1 isFirst
        rw [Option.mem_toList.1 isText] at made
        exact ⟨first, List.mem_cons_self .., rfl, made⟩
      · obtain ⟨entry, present, isEntry⟩ := inductionHypothesis later among
        exact ⟨entry, List.mem_cons_of_mem _ present, isEntry⟩

/-- Declarations stand in the order of their entries. -/
theorem pairwise_declarations {writer : StubWriter} (mayPrecede : Kind → Kind → Prop)
    {entries : List Entry}
    (ordered : entries.Pairwise fun left right => mayPrecede left.kind right.kind)
    {declared : List (Kind × String)} (returns : declarations writer entries = .ok declared) :
    declared.Pairwise fun left right => mayPrecede left.1 right.1 := by
  induction entries generalizing declared with
  | nil =>
      obtain rfl := Except.ok.inj returns
      exact .nil
  | cons first rest inductionHypothesis =>
      obtain ⟨above, orderedRest⟩ := List.pairwise_cons.1 ordered
      simp only [declarations, Outcome.bind_eq_ok, Outcome.pure_eq_ok] at returns
      obtain ⟨text?, _, others, later, rfl⟩ := returns
      cases text? with
      | none => exact inductionHypothesis orderedRest later
      | some text =>
          refine List.pairwise_cons.2 ⟨fun declaration member => ?_,
            inductionHypothesis orderedRest later⟩
          obtain ⟨entry, among, sameKind, _⟩ := exists_of_mem_declarations later member
          exact sameKind ▸ above entry among

/-- Entries are put in the order of their kinds. -/
theorem pairwise_orderedEntries {declarable : List (Kind × Value)} {entries : List Entry}
    (returns : orderedEntries declarable = .ok entries) :
    entries.Pairwise fun left right => kindRank left.kind ≤ kindRank right.kind := by
  obtain ⟨read, _, sorted⟩ := Outcome.bind_eq_ok.1 returns
  rw [Entry.sort] at sorted
  split at sorted
  · obtain rfl := Except.ok.inj sorted
    refine pairwise_mergeSort (fun left right => kindRank left.kind ≤ kindRank right.kind)
      (fun _ _ _ => Nat.le_trans) (fun left right => ?_) read
    -- Only equal kinds are told apart by names, so names never put a higher rank first.
    split
    · next isLe =>
        simp only [Entry.le, Bool.or_eq_true, decide_eq_true_eq, Bool.and_eq_true,
          beq_iff_eq] at isLe
        rcases isLe with lower | ⟨sameKind, _⟩
        · exact Nat.le_of_lt lower
        · rw [sameKind]
    · next isNotLe =>
        simp only [Entry.le, Bool.or_eq_true, decide_eq_true_eq, not_or] at isNotLe
        exact Nat.not_lt.1 isNotLe.1
  · cases sorted

/-- The aliases of a module come after all its other declarations. -/
theorem declarations_eq_append {writer : StubWriter} {module : Value}
    {declared : List (Kind × String)}
    (returns : moduleDeclarations writer module = .ok declared) :
    declared = others declared ++ aliases declared := by
  simp only [moduleDeclarations, Outcome.bind_eq_ok] at returns
  obtain ⟨_, _, _, _, _, _, entries, ordered, areDeclared⟩ := returns
  have byRank := pairwise_declarations (fun left right => kindRank left ≤ kindRank right)
    (pairwise_orderedEntries ordered) areDeclared
  refine eq_filter_append_filter (byRank.imp fun {left right} notAbove leftIsAlias => ?_)
  rw [isAlias, beq_iff_eq] at leftIsAlias ⊢
  rw [leftIsAlias] at notAbove
  generalize right.1 = kind at notAbove ⊢
  cases kind <;> simp [kindRank] at notAbove ⊢

/-! ## Joining and cutting -/

/-- Aliases are joined by newlines. -/
theorem joinDeclarations_aliases {aliases : List (Kind × String)}
    (areAliases : ∀ declaration ∈ aliases, isAlias declaration = true) :
    joinDeclarations aliases = Text.join "\n" (aliases.map Prod.snd) := by
  induction aliases with
  | nil => rfl
  | cons first rest inductionHypothesis =>
      obtain ⟨isFirst, areOthers⟩ := List.forall_mem_cons.1 areAliases
      cases rest with
      | nil => rfl
      | cons second more =>
          obtain ⟨kind, text⟩ := first
          obtain rfl : kind = .aliasType := by simpa [isAlias] using isFirst
          rw [joinDeclarations, inductionHypothesis areOthers, if_pos rfl]
          rfl

/-- The block of aliases, if there are any. -/
def aliasBlock (aliases : List String) : List String :=
  if aliases.isEmpty then [] else [Text.join "\n" aliases]

/-- Declarations with the aliases at the end are joined by empty lines, the aliases among them as
one block. -/
theorem joinDeclarations_eq_join {others aliases : List (Kind × String)}
    (areOthers : ∀ declaration ∈ others, isAlias declaration = false)
    (areAliases : ∀ declaration ∈ aliases, isAlias declaration = true) :
    joinDeclarations (others ++ aliases) =
      Text.join "\n\n" (others.map Prod.snd ++ aliasBlock (aliases.map Prod.snd)) := by
  induction others with
  | nil =>
      rw [List.nil_append, joinDeclarations_aliases areAliases]
      cases aliases <;> rfl
  | cons first rest inductionHypothesis =>
      obtain ⟨isOther, areRest⟩ := List.forall_mem_cons.1 areOthers
      have joined := inductionHypothesis areRest
      obtain ⟨kind, text⟩ := first
      have separator : (if kind = .aliasType then "\n" else "\n\n") = "\n\n" := by
        have differs : kind ≠ .aliasType := by simpa [isAlias] using isOther
        rw [if_neg differs]
      rw [List.cons_append, List.map_cons, List.cons_append]
      have sameLength : rest ++ aliases = [] ↔
          rest.map Prod.snd ++ aliasBlock (aliases.map Prod.snd) = [] := by
        cases aliases <;> simp [aliasBlock]
      generalize rest ++ aliases = later at joined sameLength
      generalize rest.map Prod.snd ++ aliasBlock (aliases.map Prod.snd) = laterTexts
        at joined sameLength
      cases later with
      | nil =>
          rw [sameLength.1 rfl]
          rfl
      | cons second more =>
          cases laterTexts with
          | nil => exact absurd (sameLength.2 rfl) (by simp)
          | cons secondText moreTexts =>
              rw [joinDeclarations, Text.join, separator, joined]

/-- An entry is that of a declarable element. -/
theorem mem_of_mem_orderedEntries {declarable : List (Kind × Value)} {entries : List Entry}
    (ordered : orderedEntries declarable = .ok entries) {entry : Entry} (member : entry ∈ entries) :
    (entry.kind, entry.element) ∈ declarable := by
  obtain ⟨read, returns, sorted⟩ := Outcome.bind_eq_ok.1 ordered
  rw [Entry.sort] at sorted
  split at sorted
  · obtain rfl := Except.ok.inj sorted
    obtain ⟨pair, among, made⟩ :=
      (Outcome.mem_mapM_iff returns).1 (List.mem_mergeSort.1 member)
    obtain ⟨name, _, isEntry⟩ := Outcome.bind_eq_ok.1 made
    obtain rfl := Outcome.pure_eq_ok.1 isEntry
    exact among
  · cases sorted

/-- The declarations of a module are those of its declarable elements. -/
theorem exists_of_mem_moduleDeclarations {writer : StubWriter} {module : Value}
    {declared : List (Kind × String)} (returns : moduleDeclarations writer module = .ok declared)
    {declaration : Kind × String} (member : declaration ∈ declared) :
    ∃ kind element, IsDeclarable writer module kind element ∧
      declare? writer kind element = .ok (some declaration.2) := by
  simp only [moduleDeclarations, Outcome.bind_eq_ok] at returns
  obtain ⟨selected, selects, elements, members, declarable, ofElements, entries, ordered,
    areDeclared⟩ := returns
  obtain ⟨entry, among, _, made⟩ := exists_of_mem_declarations areDeclared member
  have isPair := List.reduceOption_mem_iff.1 (mem_of_mem_orderedEntries ordered among)
  obtain ⟨element, present, isEntry⟩ := (Outcome.mem_mapM_iff ofElements).1 isPair
  obtain ⟨ofKind, rfl⟩ := Entry.of?_eq_some_iff.1 isEntry
  exact ⟨entry.kind, _, ⟨selected, elements, selects, members, present, ofKind⟩, made⟩

/-- The file of a module can be read back. Its declarations are the variables, functions and classes
first and the aliases after them, and it is a file around a body that, when it is cut at its empty
lines, gives those other declarations one by one and the aliases as one block of lines. Names,
types, fields, operators and the targets of aliases may hold no newline; descriptions and docs can
be any texts. -/
theorem blocks_of_moduleText (writer : StubWriter) (version : String) (module : Value)
    (text : String) (returns : moduleText? writer version module = .ok (some text))
    (unbroken : ∀ kind element, IsDeclarable writer module kind element →
      IsUnbroken writer kind element) :
    ∃ declared body, moduleDeclarations writer module = .ok declared ∧
      declared = others declared ++ aliases declared ∧
      IsFileAround writer version module text body ∧
      Text.blocks body =
        (others declared).map Prod.snd ++ aliasBlock ((aliases declared).map Prod.snd) := by
  obtain ⟨declared, areDeclared, nonempty, isFile⟩ := isFileAround_of_moduleText returns
  have inOrder := declarations_eq_append areDeclared
  have solid (declaration : Kind × String) (member : declaration ∈ declared) :
      Text.IsSolid declaration.2 := by
    obtain ⟨kind, element, isDeclarable, made⟩ :=
      exists_of_mem_moduleDeclarations areDeclared member
    exact isSolid_of_declare (unbroken kind element isDeclarable) made
  have areOthers : ∀ declaration ∈ others declared, isAlias declaration = false := by
    intro declaration member
    simpa using (List.mem_filter.1 member).2
  have areAliases : ∀ declaration ∈ aliases declared, isAlias declaration = true :=
    fun declaration member => (List.mem_filter.1 member).2
  refine ⟨declared, joinDeclarations declared, areDeclared, inOrder, isFile, ?_⟩
  rw [inOrder, joinDeclarations_eq_join areOthers areAliases, ← inOrder]
  refine Text.blocks_join ?_ (List.forall_mem_append.2 ⟨?_, ?_⟩)
  · intro isEmpty
    obtain ⟨noOthers, noBlock⟩ := List.append_eq_nil_iff.1 isEmpty
    have noAliases : aliases declared = [] := by simpa [aliasBlock] using noBlock
    rw [inOrder, List.map_eq_nil_iff.1 noOthers, noAliases] at nonempty
    exact nonempty rfl
  · exact List.forall_mem_map.2 fun declaration member =>
      solid declaration (List.mem_filter.1 member).1
  · rw [aliasBlock]
    split
    · exact nofun
    · next nonempty =>
        refine List.forall_mem_singleton.2 (Text.isSolid_join (by simpa using nonempty) ?_)
        exact List.forall_mem_map.2 fun declaration member =>
          solid declaration (List.mem_filter.1 member).1

/-- A module with tags, empty lines and blanks in its documentation has a file that can be read
back. -/
theorem blocks_of_documented_module :
    let writer : StubWriter := { settings := .default, known := ⟨[]⟩ }
    let declarable : List (Kind × Value) := [
      (.aliasType, .record [("type", .text "BASIC_ALIAS"), ("name", .text "angle"),
        ("alias", .text "number")]),
      (.function, .record [("type", .text "FUNCTION"), ("name", .text "go.get"),
        ("description", .text "<p>Get a property.\n\n</p>\n"),
        ("parameters", .list [.record [("name", .text "id"), ("types", .list [.text "string"]),
          ("doc", .text "the name\n  \n")]])]),
      (.classType, .record [("type", .text "BASIC_CLASS"), ("name", .text "go.point"),
        ("fields", .record [("x", .text "number")])]),
      (.variable, .record [("type", .text "VARIABLE"), ("name", .text "go.EASING")]),
      (.aliasType, .record [("type", .text "BASIC_ALIAS"), ("name", .text "length"),
        ("alias", .text "number")])]
    let module : Value := .record [("namespace", .text "go"), ("brief", .text "Game object"),
      ("elements", .list (declarable.map Prod.snd))]
    (∀ kind element, IsDeclarable writer module kind element → IsUnbroken writer kind element) ∧
      ∃ text, moduleText? writer "1.9.0" module = .ok (some text) ∧
        ∃ declared body, moduleDeclarations writer module = .ok declared ∧
          declared = others declared ++ aliases declared ∧
          IsFileAround writer "1.9.0" module text body ∧
          Text.blocks body =
            (others declared).map Prod.snd ++ aliasBlock ((aliases declared).map Prod.snd) := by
  intro writer declarable module
  have isPlain : IsPlainModule module (declarable.map Prod.snd) :=
    ⟨⟨_, rfl, _, rfl⟩, ⟨_, rfl, _, rfl⟩, rfl, rfl⟩
  have named : ∀ pair ∈ declarable,
      ((pair.2.field? "name").bind Value.text?).isSome = true := by
    decide +kernel
  have ofKind : ∀ pair ∈ declarable, (Kind.of? pair.2).toOption = some (some pair.1) := by
    decide +kernel
  have haveText : ∀ pair ∈ declarable,
      (declare? writer pair.1 pair.2).toOption.join.isSome = true := by
    decide +kernel
  have areUnbroken : ∀ pair ∈ declarable, IsUnbroken writer pair.1 pair.2 := by
    decide +kernel
  have declared : ∀ element ∈ declarable.map Prod.snd,
      ∃ kind text, IsDeclaredAs writer element kind text := by
    refine List.forall_mem_map.2 fun pair member => ?_
    obtain ⟨text, isText⟩ := Option.isSome_iff_exists.1 (haveText pair member)
    obtain ⟨name, isName⟩ := Option.isSome_iff_exists.1 (named pair member)
    obtain ⟨value, found, holds⟩ := Option.bind_eq_some_iff.1 isName
    exact ⟨pair.1, text, ⟨value, found, name, Value.text?_eq_some.1 holds⟩,
      Outcome.toOption_eq_some.1 (ofKind pair member),
      Outcome.toOption_eq_some.1 (Option.join_eq_some_iff.1 isText)⟩
  have unbroken : ∀ kind element, IsDeclarable writer module kind element →
      IsUnbroken writer kind element := by
    rintro kind element ⟨selected, elements, selects, members, member, isKind⟩
    obtain rfl := Except.ok.inj ((select_everything rfl).symm.trans selects)
    obtain rfl := Except.ok.inj members
    obtain ⟨pair, among, rfl⟩ := List.mem_map.1 member
    have sameKind := Outcome.toOption_eq_some.1 (ofKind pair among)
    obtain rfl : kind = pair.1 := by simpa using isKind.symm.trans sameKind
    exact areUnbroken pair among
  have selectsAll : writer.settings.lua.selection = {} := rfl
  obtain ⟨text, returns, _⟩ :=
    exists_moduleText selectsAll "1.9.0" isPlain (by simp [declarable]) declared
  exact ⟨unbroken, text, returns, blocks_of_moduleText writer "1.9.0" module text returns unbroken⟩

end Lua

end ApiStubs
