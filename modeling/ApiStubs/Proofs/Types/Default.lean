import ApiStubs.Proofs.Lua.KnownTypes
import ApiStubs.Proofs.Types.Bases
import ApiStubs.Proofs.Types.Override

/-!
# The default spellers

The writer that a run without corrections spells types with. Its tables name a type in place of
another one or override it for one value that a function returns (`overrideOf_eq_null_or`); every
other type is spelled by itself.
-/

namespace ApiStubs.Settings

open ApiStubs.Types ApiStubs.Value

/-- The names of the types that are known by default. -/
def defaultNames : List String :=
  defaultPlainTypes ++ defaultClasses.keys ++ defaultAliases.map Prod.fst

/-- The writer of the default settings. -/
def defaultWriter : StubWriter where
  settings := .default
  known := ⟨defaultNames.map .text⟩

/-- The default settings have a writer. -/
theorem ofSettings_default : StubWriter.ofSettings .default = .ok defaultWriter := rfl

/-- What types are spelled with in Lua by default. -/
theorem speller_lua : defaultWriter.speller .lua = ⟨defaultLua, defaultWriter.known⟩ := rfl

/-- A type is known by default when it has one of the names or is the type of a function with a
signature. -/
theorem contains_defaultWriter {type : String} : defaultWriter.known.contains type = true ↔
    type ∈ defaultNames ∨ Text.beginsWith type Known.functionStart = true := by
  rw [Known.contains_iff, defaultWriter, List.mem_map_of_injective fun _ _ => Value.text.inj]

/-- The default tables of Lua are strict. -/
theorem isStrict_defaultWriter : (defaultWriter.speller .lua).IsStrict :=
  Lua.isStrict_speller rfl (Extends.refl .default) isShaped_default rfl

/-- The key of the default override is the one of a returned text. -/
theorem eq_of_overrideKey_eq {raw : String} {site : Site}
    (same : Dialect.overrideKey (.text raw) site = "return_string_data") : raw = "string" := by
  let written : Occurrence := { side := .result, type := "string", name := "data" }
  have isKey : written.key = "return_string_data" := by decide
  have shared : (Occurrence.of raw site).key = written.key := same.trans isKey.symm
  rcases Occurrence.key_eq_iff.1 shared with isWritten | borrows | lends
  · exact congrArg Occurrence.type isWritten
  · exact absurd borrows.underscores.2 (by decide)
  · exact absurd lends.underscores.1 (by decide)

/-- The default tables override one type of one value that a function returns. -/
theorem overrideOf_eq_null_or (dialect : Dialect) (overrides : dialect.overrides = defaultOverrides)
    (raw : String) {site : Site} (owned : site.owner.IsText) :
    dialect.overrideOf (.text raw) site = .ok .null ∨
      raw = "string" ∧ dialect.overrideOf (.text raw) site = .ok (.text "string|nil") := by
  obtain ⟨owner, isOwner⟩ := owned
  rw [Dialect.overrideOf, overrides, isOwner, Value.lookupIn, Outcome.ok_bind]
  by_cases isOnly : owner = "sys.load_resource"
  · have found : Table.get? defaultOverrides owner =
        some (textTable [("return_string_data", "string|nil")]) := by
      rw [isOnly]
      rfl
    rw [found]
    by_cases isKey : Dialect.overrideKey (.text raw) site = "return_string_data"
    · refine .inr ⟨eq_of_overrideKey_eq isKey, ?_⟩
      simp only [isKey]
      rfl
    · left
      have absent : Table.get? (textTable [("return_string_data", "string|nil")])
          (Dialect.overrideKey (.text raw) site) = none := by
        rw [textTable, List.map_singleton, Table.get?_cons, if_neg isKey, Table.get?_nil]
      simp only [absent, Option.getD_none]
      rfl
  · left
    have absent : Table.get? defaultOverrides owner = none := by
      rw [defaultOverrides, Table.get?_cons, if_neg isOnly, Table.get?_nil]
    rw [absent]
    rfl

/-- What the default override stands for is spelled in both dialects as it is. -/
theorem spellAlternative_of_overridden {tongue : Tongue} {raw : String} {site : Site}
    (overridden : (defaultWriter.speller tongue).dialect.overrideOf (.text raw) site =
      .ok (.text "string|nil")) :
    (defaultWriter.speller tongue).spellAlternative (.text raw) site =
      .ok [.text "string", .text "nil"] := by
  have opened : (defaultWriter.speller tongue).spellAlternative (.text raw) site =
      (trimPieces (textPieces "string|nil")).mapM fun type =>
        (default.dialect tongue).spellKept (splitBrackets type).1 (splitBrackets type).2 := by
    rw [Speller.spellAlternative, overridden]
    rfl
  have types : trimPieces (textPieces "string|nil") = ["string", "nil"] := by decide
  have stays : ∀ type ∈ ["string", "nil"], splitBrackets type = (type, 0) ∧
      (default.dialect tongue).spellFunction type = type := by
    cases tongue <;> decide
  have each : ∀ type ∈ ["string", "nil"], (default.dialect tongue).spellKept
      (splitBrackets type).1 (splitBrackets type).2 = .ok (.text type) := by
    intro type member
    obtain ⟨unbracketed, unchanged⟩ := stays type member
    rw [unbracketed, Dialect.spellKept, unchanged]
    rfl
  rw [opened, types]
  exact Outcome.mapM_eq_map each

/-- The base that Lua writes for a name by default: an unknown one gives way to the fallback. -/
def luaBase (name : String) : String :=
  if defaultWriter.known.contains name then defaultLua.spellFunction name else "any"

/-- What Lua writes for a name by default: the fallback for an unknown one, `function` for a
function without parameters, the type of a function with the first word of Lua, or the name
itself. -/
inductive IsLuaBaseOf (name : String) : String → Prop
  | fallback (unknown : defaultWriter.known.contains name = false) : IsLuaBaseOf name "any"
  | bare (isBare : name = "function()") : IsLuaBaseOf name "function"
  | callable {parameters : String} (isSigned : name = "function" ++ ("(" ++ parameters))
      (other : name ≠ "function()") : IsLuaBaseOf name ("fun" ++ ("(" ++ parameters))
  | itself (isName : name ∈ defaultNames) : IsLuaBaseOf name name

/-- The base for a name is one of these four. -/
theorem isLuaBaseOf (name : String) : IsLuaBaseOf name (luaBase name) := by
  rw [luaBase]
  by_cases isKnown : defaultWriter.known.contains name = true
  · rw [if_pos isKnown, Dialect.spellFunction]
    by_cases isBare : name = "function()"
    · subst isBare
      exact .bare rfl
    · simp only [if_neg isBare]
      split
      · next begins =>
          obtain ⟨parameters, rfl⟩ := Known.exists_signature begins
          rw [Text.dropFirst_append]
          exact .callable rfl isBare
      · next other => exact .itself ((contains_defaultWriter.1 isKnown).resolve_right other)
  · rw [if_neg isKnown]
    exact .fallback (Bool.eq_false_iff.2 isKnown)

/-- Lua writes one piece for one piece by default. -/
theorem textPieces_luaBase {name : String} (whole : textPieces name = [name]) :
    textPieces (luaBase name) = [luaBase name] := by
  generalize isBase : luaBase name = base
  cases isBase ▸ isLuaBaseOf name with
  | fallback _ => decide
  | bare _ => decide
  | @callable parameters isSigned _ =>
      rw [isSigned, ← String.append_empty (s := "function" ++ _),
        textPieces_around (by decide) isPlain_empty] at whole
      rw [← String.append_empty (s := "fun" ++ _), textPieces_around (by decide) isPlain_empty]
      exact whole
  | itself _ => exact whole

/-- Lua writes an alternative of a substitution by default as the base for its name, in arrays. -/
theorem spellSubstitute_defaultLua (outerDepth : Nat) (type : String) :
    (defaultWriter.speller .lua).spellSubstitute outerDepth type =
      .ok (.text (luaBase (splitBrackets type).1 ++
        brackets (outerDepth + (splitBrackets type).2))) := by
  have insists : defaultLua.insistsOnKnown = true := rfl
  have arrays : defaultLua.arrayPattern = bracketPattern := rfl
  have isFallback : defaultLua.fallbackType = .text "any" := rfl
  rw [speller_lua, Speller.spellSubstitute, luaBase]
  simp only [insists, arrays, isFallback, Dialect.spellKept, arrayOf_bracketPattern, Bool.true_and]
  by_cases isKnown : defaultWriter.known.contains (splitBrackets type).1 = true
  · simp [isKnown]
  · simp [isKnown]

/-! ## Types that stay -/

/-- A known name that is not substituted is read by default as it is. -/
theorem reads_of_mem_defaultNames : ∀ name ∈ defaultNames,
    trimPieces (textPieces name) = [name] ∧ openBehind name = 0 ∧
      splitBrackets name = (name, 0) ∧ defaultLua.spellFunction name = name := by
  decide +kernel

/-- A known name that Lua does not substitute stays in Lua. -/
theorem stays_of_mem_defaultNames {name : String} (isName : name ∈ defaultNames)
    (free : defaultLua.substitutions.get? name = none) :
    (defaultWriter.speller .lua).Stays name := by
  obtain ⟨reads, closed, unbracketed, unchanged⟩ := reads_of_mem_defaultNames name isName
  have isBase : luaBase name = name := by
    rw [luaBase, if_pos (contains_defaultWriter.2 (.inl isName)), unchanged]
  refine { reads, closed, unbracketed, free, spelled := ?_ }
  simp [spellSubstitute_defaultLua, unbracketed, isBase, brackets]

/-- What Lua substitutes by default is a known name that is not substituted, and not overridden. -/
theorem mem_defaultNames_of_mem_luaSubstitutions : ∀ entry ∈ luaSubstitutions,
    entry.2 ∈ defaultNames ∧ defaultLua.substitutions.get? entry.2 = none ∧
      entry.2 ≠ "string" := by
  decide

/-- What Lua substitutes by default stays. -/
theorem stays_of_get?_luaSubstitutions {name : String} {substitute : Value}
    (found : defaultLua.substitutions.get? name = some substitute) :
    ∃ content, substitute = .text content ∧ content ∈ defaultNames ∧
      (defaultWriter.speller .lua).Stays content ∧ content ≠ "string" := by
  obtain ⟨entry, among, same⟩ := List.mem_map.1 (Table.mem_of_get? found)
  obtain ⟨_, rfl⟩ := Prod.mk.inj same
  obtain ⟨isName, free, other⟩ := mem_defaultNames_of_mem_luaSubstitutions entry among
  exact ⟨entry.2, rfl, isName, stays_of_mem_defaultNames isName free, other⟩

end ApiStubs.Settings
