import ApiStubs.Proofs.Pattern
import ApiStubs.Proofs.Settings.Amendment
import ApiStubs.Proofs.Types.Spelling

/-!
# Permissive spelling

A speller that insists on nothing writes a type as it is when no substitution stands in its place.
A type is looked up without its brackets, and what stands in its place is read as a union once
more. So, for a documented text whose alternatives have names that read as themselves, every type
that is joined is a table of a number of dimensions around

- `any`, where opaque types are fused,
- a substitution, or `function` for a function type without parameters, or
- the documented alternative itself, without its brackets, when no substitution stands in its place.
-/

namespace ApiStubs.Types

open ApiStubs.Value

/-! ## Arrays as tables -/

/-- A type inside tables of a number of dimensions. -/
def insideTables (base : String) : Nat → String
  | 0 => base
  | depth + 1 => insideTables ("\x7b" ++ base ++ "\x7d") depth

/-- The last table stands around the others. -/
theorem insideTables_succ (base : String) (depth : Nat) :
    insideTables base (depth + 1) = "\x7b" ++ insideTables base depth ++ "\x7d" := by
  induction depth generalizing base with
  | zero => rfl
  | succ depth inductionHypothesis => exact inductionHypothesis _

/-- The pattern of tables. -/
def tablePattern : String := "\x7b%s\x7d"

/-- The pattern of tables is one plain place between braces. -/
theorem pieces_tablePattern : Pattern.pieces tablePattern =
    ['\x7b'].map .char ++ .place .plain :: ['\x7d'].map .char := by
  decide

/-- Arrays of the pattern of tables have the type of their members inside tables. -/
theorem arrayOf_tablePattern (base : String) (depth : Nat) :
    arrayOf tablePattern (.text base) depth = .ok (.text (insideTables base depth)) := by
  induction depth generalizing base with
  | zero => rfl
  | succ depth inductionHypothesis =>
      rw [arrayOf, Pattern.fill_of_pieces pieces_tablePattern, Outcome.ok_bind]
      exact inductionHypothesis _

/-! ## Types that are read once more -/

/-- Nothing is left to take off characters whose bracket pairs have been taken off. -/
theorem takeBrackets_takeBrackets (chars : List Char) :
    takeBrackets (takeBrackets chars).1 = ((takeBrackets chars).1, 0) := by
  fun_induction takeBrackets chars with
  | case1 rest inductionHypothesis => exact inductionHypothesis
  | case2 chars unbracketed => exact takeBrackets.eq_2 chars unbracketed

/-- A type without its bracket pairs has no brackets to split off. -/
theorem splitBrackets_base (type : String) :
    splitBrackets (splitBrackets type).1 = ((splitBrackets type).1, 0) := by
  simp [splitBrackets, takeBrackets_takeBrackets]

/-- A text that reads as one type: no bar cuts it, no blank surrounds it, and it is not empty. -/
def ReadsAsOne (text : String) : Prop :=
  trimPieces (textPieces text) = [text]

/-- A text that reads as no type but itself: as one type, or as none. -/
def ReadsAsItself (text : String) : Prop :=
  ∀ type ∈ trimPieces (textPieces text), type = text

/-- What reads as one type reads as itself. -/
theorem ReadsAsOne.readsAsItself {text : String} (reads : ReadsAsOne text) :
    ReadsAsItself text := by
  intro type member
  rw [reads] at member
  exact List.mem_singleton.1 member

end ApiStubs.Types

namespace ApiStubs

open ApiStubs.Types ApiStubs.Value

/-- A dialect whose word for functions is the documented one leaves every type as it is, apart from
the type of a function without parameters. -/
theorem Dialect.spellFunction_of_word {dialect : Dialect}
    (word : dialect.callableWord = "function") (type : String) :
    dialect.spellFunction type = if type = "function()" then "function" else type := by
  by_cases isBare : type = "function()"
  · have unsigned : Text.beginsWith "function" Known.functionStart = false := by decide
    simp [spellFunction, isBare, unsigned]
  · simp only [spellFunction, if_neg isBare]
    split
    · next begins =>
        obtain ⟨parameters, rfl⟩ := Known.exists_signature begins
        rw [word, Text.dropFirst_append]
    · rfl

/-- What stands in place of a type and is written as it is: one type for which the speller has no
other spelling. -/
def Dialect.IsSettled (dialect : Dialect) (replacement : Value) : Prop :=
  ∃ content, replacement = .text content ∧ ∀ type ∈ trimPieces (textPieces content),
    dialect.spellFunction (splitBrackets type).1 = content

/-- A dialect that insists on nothing, writes arrays as tables, widens nothing, overrides no type of
a parameter, and writes what stands in place of types as it is. -/
structure Dialect.IsPermissive (dialect : Dialect) : Prop where
  admits : dialect.insistsOnKnown = false
  word : dialect.callableWord = "function"
  arrays : dialect.arrayPattern = tablePattern
  widensNothing : dialect.nilAlternative = none
  fallbackType : dialect.fallbackType = .text "any"
  substitutions : dialect.substitutions.All dialect.IsSettled
  overrides : dialect.overrides.All (Table.All IsText)
  overridesNothing : ∀ raw owner name, dialect.overrideOf raw
    { owner := .text owner, name := .text name } = .ok .null

namespace Types.Speller

/-- What a permissive speller writes, apart from tables around it, for a documented alternative. -/
inductive IsBaseOf (speller : Speller) (raw : String) : String → Prop
  | substitute {content : String}
      (stands : speller.dialect.substitutions.get? (splitBrackets raw).1 = some (.text content)) :
      IsBaseOf speller raw content
  | callable : IsBaseOf speller raw "function"
  | itself (free : speller.dialect.substitutions.get? (splitBrackets raw).1 = none) :
      IsBaseOf speller raw (splitBrackets raw).1

section Permissive

variable {speller : Speller} (permissive : speller.dialect.IsPermissive)

include permissive

/-- A permissive speller can spell whatever is documented. -/
theorem canSpell_of_isPermissive : speller.dialect.CanSpell where
  fallbackType := ⟨_, permissive.fallbackType⟩
  substitutions := permissive.substitutions.mono fun _ ⟨content, isText, _⟩ => ⟨content, isText⟩
  overrides := permissive.overrides
  arrays := fun content => by
    rw [permissive.arrays]
    exact ⟨_, Pattern.fill_of_pieces pieces_tablePattern content⟩

/-- The spelling of an alternative of a substitution is its spelling inside tables. -/
theorem spellSubstitute_of_isPermissive (outerDepth : Nat) (type : String) :
    speller.spellSubstitute outerDepth type =
      .ok (.text (insideTables (speller.dialect.spellFunction (splitBrackets type).1)
        (outerDepth + (splitBrackets type).2))) := by
  simp only [spellSubstitute, permissive.admits, Bool.false_and, Bool.false_eq_true, if_false,
    Dialect.spellKept, permissive.arrays, arrayOf_tablePattern]

/-- A spelling of a documented alternative whose name reads as itself is one of its bases inside
tables. -/
theorem exists_base_of_isSpellingOf {raw owner name spelling : String}
    (reads : ReadsAsItself (splitBrackets raw).1)
    (isSpelling : speller.IsSpellingOf raw { owner := .text owner, name := .text name } spelling) :
    ∃ base depth, spelling = insideTables base depth ∧ speller.IsBaseOf raw base := by
  cases isSpelling with
  | override overrides _ _ =>
      rw [permissive.overridesNothing] at overrides
      cases overrides
  | @substitute content type _ _ stands names spells =>
      rw [spellSubstitute_of_isPermissive permissive] at spells
      obtain rfl := Value.text.inj (Except.ok.inj spells)
      refine ⟨_, _, rfl, ?_⟩
      cases found : speller.dialect.substitutions.get? (splitBrackets raw).1 with
      | some replacement =>
          obtain ⟨settled, rfl, written⟩ := permissive.substitutions.of_get? found
          rw [found] at stands
          obtain rfl := Value.text.inj stands
          rw [written type names]
          exact .substitute found
      | none =>
          rw [found] at stands
          obtain rfl := Value.text.inj stands
          obtain rfl := reads type names
          rw [splitBrackets_base, Dialect.spellFunction_of_word permissive.word]
          split
          · exact .callable
          · exact .itself found

/-- For a documented text whose alternatives have names that read as themselves, types are joined;
each is `any` or a base of an alternative, inside tables. -/
theorem exists_joined_of_isPermissive {documented : String}
    (reads : ∀ raw ∈ trimPieces (textPieces documented), ReadsAsItself (splitBrackets raw).1)
    (owner name : String) :
    ∃ types, speller.joined (.text documented) { owner := .text owner, name := .text name } =
      .ok types ∧ ∀ type ∈ types, ∃ base depth, type = insideTables base depth ∧
        (base = "any" ∨ ∃ raw ∈ trimPieces (textPieces documented), speller.IsBaseOf raw base) := by
  have owned : ({ owner := .text owner, name := .text name } : Site).owner.IsText :=
    isText_text owner
  obtain ⟨pieces, types, read, joins, each⟩ :=
    exists_joined (canSpell_of_isPermissive permissive) (.inl (isText_text documented)) owned
  obtain rfl := Except.ok.inj read
  refine ⟨types, joins, fun type member => ?_⟩
  rcases each type member with ⟨raw, among, isSpelling⟩ | ⟨rfl, _⟩ | isAbsent
  · obtain ⟨base, depth, rfl, isBase⟩ :=
      exists_base_of_isSpellingOf permissive (reads raw among) isSpelling
    exact ⟨base, depth, rfl, .inr ⟨raw, among, isBase⟩⟩
  · exact ⟨"any", 0, rfl, .inl rfl⟩
  · rw [permissive.widensNothing] at isAbsent
    cases isAbsent

end Permissive

end Types.Speller

/-! ## Teal -/

namespace Settings

/-- No default override is about a parameter. -/
theorem overrideOf_defaultOverrides {dialect : Dialect}
    (overrides : dialect.overrides = defaultOverrides) (raw : Value) (owner name : String) :
    dialect.overrideOf raw { owner := .text owner, name := .text name } = .ok .null := by
  have differs : Dialect.overrideKey raw { owner := .text owner, name := .text name } ≠
      "return_string_data" := by
    intro same
    have first := congrArg (fun key => key.toList.head?) same
    simp [Dialect.overrideKey, Side.word, toString] at first
  rw [Dialect.overrideOf, overrides, Value.lookupIn, Outcome.ok_bind]
  by_cases isOwner : owner = "sys.load_resource"
  · subst isOwner
    have found : Table.get? defaultOverrides "sys.load_resource" =
        some (textTable [("return_string_data", "string|nil")]) := rfl
    have absent : Table.get? (textTable [("return_string_data", "string|nil")])
        (Dialect.overrideKey raw { owner := .text "sys.load_resource", name := .text name }) =
          none := by
      rw [textTable, List.map_singleton, Table.get?_cons, if_neg differs, Table.get?_nil]
    rw [found]
    simp only [absent, Option.getD_none]
    rfl
  · have absent : Table.get? defaultOverrides owner = none := by
      rw [defaultOverrides, Table.get?_cons, if_neg isOwner, Table.get?_nil]
    rw [absent]
    rfl

/-- What stands in place of types in Teal by default is written as it is. -/
theorem isSettled_tealSubstitutions : ∀ entry ∈ tealSubstitutions,
    ∀ type ∈ trimPieces (textPieces entry.2),
      defaultTeal.spellFunction (splitBrackets type).1 = entry.2 := by
  decide +kernel

/-- The default tables of Teal are permissive. -/
theorem isPermissive_defaultTeal : defaultTeal.IsPermissive where
  admits := rfl
  word := rfl
  arrays := rfl
  widensNothing := rfl
  fallbackType := rfl
  substitutions := List.forall_mem_map.2 fun entry member =>
    ⟨entry.2, rfl, isSettled_tealSubstitutions entry member⟩
  overrides := isShaped_defaultTeal.overrides
  overridesNothing := overrideOf_defaultOverrides rfl

end Settings

end ApiStubs
