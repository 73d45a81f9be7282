import ApiStubs.Proofs.Lua.Marked
import ApiStubs.Proofs.Text.Blocks

/-!
# Declarations without empty lines

A declaration of a Lua stub holds no empty line, whatever its descriptions are. A comment line
begins with a marker, also where a description is blank or ends with newlines, and the other lines
hold a name. `isSolid_of_declare` is the result.
-/

namespace ApiStubs.Lua

open ApiStubs.Reference

variable {writer : StubWriter} {element : Value} {text : String}

/-- The declaration of a variable is solid. -/
theorem isSolid_declareVariable (unbroken : IsUnbroken writer .variable element)
    (returns : declareVariable element = .ok text) : Text.IsSolid text := by
  obtain ⟨name, comment, named, marked, rfl⟩ := exists_of_declareVariable returns
  have line : Text.IsSolid (name ++ " = nil") :=
    Text.isSolid_of_isUnbroken (Text.isUnbroken_append.2 ⟨(unbroken _ named).1, by decide⟩)
      (by simp)
  refine Text.isSolid_join (by simp) ?_
  simp only [List.forall_mem_cons, List.not_mem_nil, false_implies, implies_true, and_true]
  exact ⟨marked.isSolid, line⟩

/-- The declaration of an alias is solid. -/
theorem isSolid_declareAlias (unbroken : IsUnbroken writer .aliasType element)
    (returns : declareAlias element = .ok text) : Text.IsSolid text := by
  simp only [declareAlias, Outcome.bind_eq_ok, Outcome.pure_eq_ok] at returns
  obtain ⟨name, named, target, aliased, rfl⟩ := returns
  obtain ⟨unbrokenName, unbrokenTarget⟩ := unbroken name named
  have whole : Text.IsSolid ("---@alias " ++ name.display ++ " " ++ target.display) := by
    refine Text.isSolid_of_isUnbroken ?_ (by simp)
    simp only [Text.isUnbroken_append]
    exact ⟨⟨⟨by decide, unbrokenName⟩, by decide⟩, unbrokenTarget target aliased⟩
  exact whole

/-- The declaration of a class is solid. -/
theorem isSolid_declareClass (unbroken : IsUnbroken writer .classType element)
    (returns : declareClass element = .ok text) : Text.IsSolid text := by
  obtain ⟨layout, rfl⟩ := exists_classLayout returns
  obtain ⟨unbrokenName, unbrokenFields, unbrokenOperators⟩ := unbroken layout.name layout.named
  refine Text.isSolid_join (by simp) ?_
  simp only [List.forall_mem_append, List.forall_mem_singleton]
  refine ⟨⟨⟨?opening, ?table⟩, ?fields⟩, ?operators⟩
  case opening =>
    refine (isMarked_tag (by decide) ?_).isSolid
    exact Text.isUnbroken_append.2 ⟨by decide, unbrokenName⟩
  case table =>
    rw [ClassLayout.table]
    split
    · refine List.forall_mem_singleton.2 (Text.isSolid_of_isUnbroken ?_ (by simp [tableLine]))
      exact Text.isUnbroken_append.2 ⟨unbrokenName, by decide⟩
    · exact nofun
  case fields =>
    refine List.forall_mem_map.2 fun field member => ?_
    obtain ⟨isKey, isType⟩ :=
      unbrokenFields layout.fields layout.areFields field (List.mem_filter.1 member).1
    refine Text.isSolid_of_isUnbroken ?_ (by simp [fieldLine])
    simp only [fieldLine, Text.isUnbroken_append]
    exact ⟨⟨⟨by decide, isKey⟩, by decide⟩, isType⟩
  case operators =>
    intro line member
    obtain ⟨operator, among, isLine⟩ := (Outcome.mem_mapM_iff layout.areOperatorLines).1 member
    exact (isMarked_operatorLine
      (unbrokenOperators layout.operators layout.areOperators operator among) isLine).isSolid

/-- The declaration of a function is solid. -/
theorem isSolid_declareFunction (unbroken : IsUnbroken writer .function element)
    (returns : declareFunction? writer element = .ok (some text)) : Text.IsSolid text := by
  obtain ⟨layout, rfl⟩ := exists_functionLayout returns
  refine Text.isSolid_join (by simp) ?_
  rw [List.forall_mem_append, List.forall_mem_singleton]
  refine ⟨fun text member => (layout.isMarked_annotations unbroken text member).isSolid, ?_⟩
  exact Text.isSolid_of_isUnbroken (layout.isUnbroken_code unbroken)
    (by simp [FunctionLayout.code, functionLine])

/-- Every declaration is solid. -/
theorem isSolid_of_declare {kind : Kind} (unbroken : IsUnbroken writer kind element)
    (returns : declare? writer kind element = .ok (some text)) : Text.IsSolid text := by
  cases kind with
  | function => exact isSolid_declareFunction unbroken returns
  | «variable» =>
      obtain ⟨_, made, isText⟩ := Outcome.map_eq_ok.1 returns
      exact isSolid_declareVariable unbroken (Option.some.inj isText ▸ made)
  | classType =>
      obtain ⟨_, made, isText⟩ := Outcome.map_eq_ok.1 returns
      exact isSolid_declareClass unbroken (Option.some.inj isText ▸ made)
  | aliasType =>
      obtain ⟨_, made, isText⟩ := Outcome.map_eq_ok.1 returns
      exact isSolid_declareAlias unbroken (Option.some.inj isText ▸ made)

end ApiStubs.Lua
