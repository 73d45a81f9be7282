import ApiStubs.Proofs.Teal.Nesting
import ApiStubs.Proofs.Teal.Signature

/-!
# Declarations are nested

What each maker of declarations puts together is a comment and one line, and for a class a record
around such. This follows the grammar of nested parts, whatever the descriptions and types are, as
long as no name holds a space or a tab. A class stays nested when the parts of a group are put into
it.
-/

namespace ApiStubs

namespace Teal

open ApiStubs.Reference

/-! ## Single lines -/

/-- A line with one of the words of declarations in front opens nothing. -/
theorem isSingle_keyword (word rest : String)
    (isKeyword : word ∈ ["--", "function", "type", "metamethod"]) :
    IsSingle (word ++ " " ++ rest) := by
  have known : Text.IsUnspaced word ∧ word ≠ "" ∧ word ≠ "record" ∧ word ≠ "global" := by
    revert word
    decide
  exact .words rest known.1 known.2.1 known.2.2.1 known.2.2.2

/-- The line of a member, a name with a type behind it, opens nothing. -/
theorem isSingle_member {name : String} (rest : String) (unspaced : Text.IsUnspaced name) :
    IsSingle (name ++ ": " ++ rest) := by
  have colon : ':' ∈ (name ++ ":").toList := by simp
  have unspacedWord : Text.IsUnspaced (name ++ ":") := by
    intro char member
    rw [String.toList_append, List.mem_append] at member
    rcases member with inName | isColon
    · exact unspaced char inName
    · rw [show char = ':' by simpa using isColon]
      decide
  have differs (word : String) (without : ':' ∉ word.toList) : name ++ ":" ≠ word := by
    rintro rfl
    exact without colon
  have line : IsSingle (name ++ ":" ++ " " ++ rest) :=
    .words rest unspacedWord (differs _ (by decide)) (differs _ (by decide)) (differs _ (by decide))
  have same : name ++ ":" ++ " " = name ++ ": " := by
    rw [String.append_assoc]
    rfl
  rwa [same] at line

/-! ## What declarations are made of -/

/-- The lines of a comment. -/
def remarks (texts : List String) : List Part :=
  (texts.map ("-- " ++ ·)).map .line

/-- The lines of a description are lines of a comment. -/
theorem exists_remarks_of_commentParts {description : Value} {parts : List Part}
    (returns : commentParts description = .ok parts) : ∃ texts, parts = remarks texts := by
  simp only [commentParts, Text.lineComments, Outcome.bind_eq_ok, Outcome.map_eq_ok,
    Outcome.pure_eq_ok] at returns
  obtain ⟨_, ⟨plainText, _, rfl⟩, rfl⟩ := returns
  split
  · exact ⟨[], rfl⟩
  · exact ⟨Text.lines plainText, rfl⟩

section Makers

variable {writer : StubWriter} {element fullName : Value} {name : String} {parts : List Part}

/-- A variable is a comment and the line of a member. -/
theorem parts_of_declareVariable (named : element.field? "name" = some (.text name))
    (returns : declareVariable writer element = .ok parts) :
    ∃ texts type, parts = remarks texts ++ [.line (name ++ ": " ++ type)] := by
  simp only [declareVariable, Outcome.bind_eq_ok, Outcome.pure_eq_ok, Value.require_eq_ok, named,
    Option.some.injEq] at returns
  obtain ⟨_, _, comment, commented, _, rfl, rfl⟩ := returns
  obtain ⟨texts, rfl⟩ := exists_remarks_of_commentParts commented
  exact ⟨texts, _, rfl⟩

/-- The line of a function, whose shape begins with a bracket. -/
def functionLine (isOutermost : Bool) (name : String) (bracket : Char) (shape : String) : String :=
  if isOutermost then "function " ++ name ++ String.singleton bracket ++ shape
  else name ++ ": " ++ ("function" ++ String.singleton bracket ++ shape)

/-- A function is a comment and the line of a function. -/
theorem parts_of_declareFunction? {isOutermost : Bool}
    (named : element.field? "name" = some (.text name))
    (returns : declareFunction? writer element fullName isOutermost = .ok (some parts)) :
    ∃ texts, ∃ bracket ∈ ['(', '<'], ∃ shape,
      parts = remarks texts ++ [.line (functionLine isOutermost name bracket shape)] := by
  obtain ⟨layout, rfl⟩ := exists_functionLayout returns
  obtain ⟨texts, isComment⟩ := exists_remarks_of_commentParts layout.isComment
  have isName := layout.name_eq (Value.require_eq_ok.2 named)
  simp only [FunctionLayout.parts, FunctionLayout.placeholder, FunctionLayout.code, isComment,
    isName, Value.display_text]
  generalize Text.join ", " (layout.signature.parameters.map argumentText) = arguments
  generalize layout.signature.generalized? = generalized?
  cases generalized? with
  | none =>
      refine ⟨texts, '(', by decide, arguments ++ ")" ++ layout.results, ?_⟩
      cases isOutermost <;> simp [functionLine, ← String.toList_inj]
  | some type =>
      refine ⟨texts ++ ["T: " ++ type.display], '<', by decide,
        "T>(" ++ arguments ++ ")" ++ layout.results, ?_⟩
      cases isOutermost <;> simp [functionLine, remarks, ← String.toList_inj]

/-- An alias is one line: a record on its own or a type. -/
theorem parts_of_declareAlias (named : element.field? "name" = some (.text name))
    (returns : declareAlias writer element fullName = .ok parts) :
    parts = [.line ("record " ++ name ++ " is userdata end")] ∨
      ∃ target, parts = [.line ("type " ++ name ++ " = " ++ target)] := by
  simp only [declareAlias, Outcome.bind_eq_ok, Value.require_eq_ok, named,
    Option.some.injEq] at returns
  obtain ⟨_, rfl, target, _, returns⟩ := returns
  split at returns
  · obtain rfl := Outcome.pure_eq_ok.1 returns
    exact .inl rfl
  · obtain ⟨type, _, returns⟩ := Outcome.bind_eq_ok.1 returns
    obtain rfl := Outcome.pure_eq_ok.1 returns
    exact .inr ⟨type.display, rfl⟩

/-- A field with a text is a comment and the line of a member; any other field is nothing. -/
theorem parts_of_fieldParts {raw : Value}
    (returns : fieldParts writer fullName name raw = .ok parts) :
    match raw with
    | .text _ => ∃ texts type, parts = remarks texts ++ [.line (name ++ ": " ++ type)]
    | _ => parts = [] := by
  cases raw with
  | text content =>
      simp only [fieldParts, Outcome.bind_eq_ok, Outcome.pure_eq_ok] at returns
      obtain ⟨comment, commented, type, _, rfl⟩ := returns
      obtain ⟨texts, rfl⟩ := exists_remarks_of_commentParts commented
      exact ⟨texts, type.display, rfl⟩
  | _ => exact (Outcome.pure_eq_ok.1 returns).symm

/-- An operator is the line of a metamethod. -/
theorem parts_of_operatorParts {className operator : Value}
    (returns : operatorParts writer className fullName name operator = .ok parts) :
    ∃ rest, parts = [.line ("metamethod " ++ rest)] := by
  have line (arguments : String) (result : Value) :
      ∃ rest, [Part.line s!"metamethod __{name}: function({arguments}): {result.display}"] =
        [.line ("metamethod " ++ rest)] := by
    refine ⟨"__" ++ name ++ ": function(" ++ arguments ++ "): " ++ result.display, ?_⟩
    simp [toString, ← String.toList_inj]
  obtain ⟨param, _, returns⟩ := Outcome.bind_eq_ok.1 returns
  split at returns
  · simp only [Outcome.bind_eq_ok, Outcome.pure_eq_ok] at returns
    obtain ⟨_, _, _, _, _, _, result, _, texts, _, rfl⟩ := returns
    exact line _ result
  · simp only [Outcome.bind_eq_ok, Outcome.pure_eq_ok] at returns
    obtain ⟨_, _, _, _, result, _, texts, _, rfl⟩ := returns
    exact line _ result

/-- A class is a record around the lines of its fields and of its operators. -/
theorem exists_of_declareClass (named : element.field? "name" = some (.text name))
    {declaration : Declaration} (returns : declareClass writer element fullName = .ok declaration) :
    ∃ fields entries fieldLines, ∃ operators : Table Value, ∃ operatorLines,
      element.field? "fields" = some fields ∧ fields.sortedFields = .ok entries ∧
      (entries.mapM fun field => fieldParts writer fullName field.1 field.2) = .ok fieldLines ∧
      (operators.mapM fun operator =>
        operatorParts writer (.text name) fullName operator.1 operator.2) = .ok operatorLines ∧
      declaration = {
        opening := [.line "", .line ("record " ++ name ++ " is userdata"),
          .block fieldLines.flatten, .block operatorLines.flatten]
        closing := [.line closing] } := by
  simp only [declareClass, Outcome.bind_eq_ok, Value.require_eq_ok, named, Option.some.injEq]
    at returns
  obtain ⟨_, rfl, hasFields, _, returns⟩ := returns
  split at returns
  · simp [Outcome.bind_eq_ok] at returns
  · simp only [Outcome.bind_eq_ok, Outcome.pure_eq_ok] at returns
    obtain ⟨fields, found, entries, read, fieldLines, declaredFields, _, _, operators, _,
      operatorLines, declaredOperators, rfl⟩ := returns
    exact ⟨fields, entries, fieldLines, operators, operatorLines, Value.require_eq_ok.1 found, read,
      declaredFields, declaredOperators, rfl⟩

end Makers

/-! ## Nested declarations -/

/-- Comment lines are nested. -/
theorem isNested_remarks (texts : List String) : IsNested (remarks texts) := by
  refine .of_singles fun line member => ?_
  obtain ⟨text, _, rfl⟩ := List.mem_map.1 member
  exact isSingle_keyword "--" text (by decide)

/-- A comment and a single line are nested. -/
theorem isNested_remarks_concat (texts : List String) {line : String} (isSingle : IsSingle line) :
    IsNested (remarks texts ++ [.line line]) :=
  (isNested_remarks texts).append (.single isSingle .nil)

/-- The line of a function opens nothing. -/
theorem isSingle_functionLine (isOutermost : Bool) {name : String} (unspaced : Text.IsUnspaced name)
    (bracket : Char) (shape : String) :
    IsSingle (functionLine isOutermost name bracket shape) := by
  cases isOutermost with
  | true =>
      change IsSingle ("function " ++ name ++ String.singleton bracket ++ shape)
      rw [String.append_assoc, String.append_assoc]
      exact isSingle_keyword "function" _ (by decide)
  | false => exact isSingle_member _ unspaced

/-- An alias is declared by nested parts. -/
theorem isNested_declareAlias {writer : StubWriter} {element fullName : Value} {name : String}
    (named : element.field? "name" = some (.text name)) {parts : List Part}
    (returns : declareAlias writer element fullName = .ok parts) : IsNested parts := by
  rcases parts_of_declareAlias named returns with rfl | ⟨target, rfl⟩
  · exact .single (.userdata name) .nil
  · rw [String.append_assoc, String.append_assoc]
    exact .single (isSingle_keyword "type" _ (by decide)) .nil

/-- A field is declared by nested parts. -/
theorem isNested_fieldParts {writer : StubWriter} {fullName raw : Value} {name : String}
    (unspaced : Text.IsUnspaced name) {parts : List Part}
    (returns : fieldParts writer fullName name raw = .ok parts) : IsNested parts := by
  have shape := parts_of_fieldParts returns
  split at shape
  · obtain ⟨texts, type, rfl⟩ := shape
    exact isNested_remarks_concat texts (isSingle_member type unspaced)
  · exact shape ▸ .nil

/-- A declaration whose parts are nested, by themselves and, for a class, around nested parts. -/
structure Declaration.Nests (declaration : Declaration) (kind : Kind) : Prop where
  parts : IsNested declaration.parts
  around : kind = .classType → ∀ inside, IsNested inside →
    IsNested (declaration.around [.block inside])

/-- An element whose name and whose fields' names hold no spaces and tabs. -/
structure HasUnspacedNames (element : Value) : Prop where
  name : ∀ name, element.field? "name" = some (.text name) → Text.IsUnspaced name
  fields : ∀ fields entries, element.field? "fields" = some fields →
    fields.sortedFields = .ok entries → ∀ name ∈ entries.keys, Text.IsUnspaced name

/-- A class is declared by nested parts, with or without parts put into it. -/
theorem nests_declareClass {writer : StubWriter} {element fullName : Value} {name : String}
    (named : element.field? "name" = some (.text name)) (unspaced : HasUnspacedNames element)
    {declaration : Declaration} (returns : declareClass writer element fullName = .ok declaration)
    (kind : Kind) : declaration.Nests kind := by
  obtain ⟨fields, entries, fieldLines, operators, operatorLines, found, read, declaredFields,
    declaredOperators, rfl⟩ := exists_of_declareClass named returns
  have fieldsNested : IsNested fieldLines.flatten := by
    refine .flatten fun parts member => ?_
    obtain ⟨field, among, declared⟩ := (Outcome.mem_mapM_iff declaredFields).1 member
    exact isNested_fieldParts (unspaced.fields fields entries found read _
      (List.mem_map_of_mem among)) declared
  have operatorsNested : IsNested operatorLines.flatten := by
    refine .flatten fun parts member => ?_
    obtain ⟨operator, _, declared⟩ := (Outcome.mem_mapM_iff declaredOperators).1 member
    obtain ⟨rest, rfl⟩ := parts_of_operatorParts declared
    exact .single (isSingle_keyword "metamethod" rest (by decide)) .nil
  have around (inside : List (List Part)) (nested : ∀ block ∈ inside, IsNested block) :
      IsNested ([.line "", .line ("record " ++ name ++ " is userdata")] ++
        (fieldLines.flatten :: operatorLines.flatten :: inside).map .block ++ [.line closing]) :=
    .single .blank (.record (.classType name)
      (List.forall_mem_cons.2 ⟨fieldsNested, List.forall_mem_cons.2 ⟨operatorsNested, nested⟩⟩)
      .nil)
  exact ⟨around [] (by simp), fun _ inside nested => around [inside] (by simpa using nested)⟩

/-- Whatever is declared is declared by nested parts. -/
theorem nests_of_declare? {writer : StubWriter} {kind : Kind} {element : Value} {name : String}
    (named : element.field? "name" = some (.text name)) (unspaced : HasUnspacedNames element)
    {fullName : Value} {isOutermost : Bool} {declaration : Declaration}
    (returns : declare? writer kind element fullName isOutermost = .ok (some declaration)) :
    declaration.Nests kind := by
  have unspacedName := unspaced.name name named
  have alone {opening : List Part} (nested : IsNested opening) (isNoClass : kind ≠ .classType) :
      ({ opening } : Declaration).Nests kind := by
    refine ⟨?_, fun isClass => absurd isClass isNoClass⟩
    simpa [Declaration.parts, Declaration.around] using nested
  cases kind with
  | function =>
      simp only [declare?, Outcome.bind_eq_ok, Outcome.pure_eq_ok,
        Option.map_eq_some_iff] at returns
      obtain ⟨parts?, declared, parts, rfl, rfl⟩ := returns
      obtain ⟨texts, bracket, _, shape, rfl⟩ := parts_of_declareFunction? named declared
      exact alone (isNested_remarks_concat texts
        (isSingle_functionLine isOutermost unspacedName bracket shape)) (by simp)
  | «variable» =>
      simp only [declare?, Outcome.bind_eq_ok, Outcome.pure_eq_ok, Option.some.injEq] at returns
      obtain ⟨parts, declared, rfl⟩ := returns
      obtain ⟨texts, type, rfl⟩ := parts_of_declareVariable named declared
      exact alone (isNested_remarks_concat texts (isSingle_member type unspacedName)) (by simp)
  | classType =>
      simp only [declare?, Outcome.bind_eq_ok, Outcome.pure_eq_ok, Option.some.injEq] at returns
      obtain ⟨_, declared, rfl⟩ := returns
      exact nests_declareClass named unspaced declared _
  | aliasType =>
      simp only [declare?, Outcome.bind_eq_ok, Outcome.pure_eq_ok, Option.some.injEq] at returns
      obtain ⟨parts, declared, rfl⟩ := returns
      exact alone (isNested_declareAlias named declared) (by simp)

end Teal

end ApiStubs
