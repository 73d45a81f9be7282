import ApiStubs.Proofs.Pattern
import ApiStubs.Proofs.Types.Spelling

/-!
# Strict spelling

A speller that insists on known types writes nothing else: whatever a reference documents, each
type that it joins is a known type, its fallback, the type of a function with a signature, or the
alternative of an optional type, inside any number of arrays. Substitutions do not escape this,
since what stands in place of a type is looked up as well. An override is not looked up, so the
types of the overrides have to be known beforehand.
-/

namespace ApiStubs.Types

open ApiStubs.Value

/-! ## Arrays with brackets -/

/-- Pairs of brackets, one for each dimension of an array. -/
def brackets : Nat → String
  | 0 => ""
  | depth + 1 => "[]" ++ brackets depth

/-- The pattern of bracketed arrays. -/
def bracketPattern : String := "%s[]"

/-- The pattern of bracketed arrays puts a pair of brackets behind a type. -/
theorem fill_bracketPattern (content : String) :
    Pattern.fill bracketPattern (.text content) = .ok (content ++ "[]") := by
  have read : Pattern.pieces bracketPattern =
      [].map .char ++ .place .plain :: ['[', ']'].map .char := by
    decide
  rw [Pattern.fill_of_pieces read]
  apply congrArg Except.ok
  apply String.toList_injective
  simp

/-- Arrays of the pattern of bracketed arrays have their brackets behind the type of the members. -/
theorem arrayOf_bracketPattern (base : String) (depth : Nat) :
    arrayOf bracketPattern (.text base) depth = .ok (.text (base ++ brackets depth)) := by
  induction depth generalizing base with
  | zero => simp [arrayOf, brackets]
  | succ depth inductionHypothesis =>
      rw [arrayOf, fill_bracketPattern, Outcome.ok_bind, inductionHypothesis, brackets,
        String.append_assoc]

/-! ## Known types -/

/-- A type is known when the set holds it or it is the type of a function with a signature. -/
theorem Known.contains_iff {known : Known} {type : String} :
    known.contains type = true ↔
      .text type ∈ known.members ∨ Text.beginsWith type functionStart = true := by
  rw [contains, Bool.or_eq_true, memberOf_text_iff]

/-- What the first word of a function type is changed to stands in front of the parentheses. -/
theorem beginsWith_callable (word : String) {type : String}
    (begins : Text.beginsWith type Known.functionStart = true) :
    Text.beginsWith (word ++ Text.dropFirst "function".length type) (word ++ "(") = true := by
  obtain ⟨parameters, rfl⟩ := Known.exists_signature begins
  rw [Text.dropFirst_append, ← String.append_assoc]
  exact Text.beginsWith_append ..

/-- A text that names known types only, or arrays of them. -/
def Known.Covers (known : Known) (types : Value) : Prop :=
  ∃ content, types = .text content ∧
    ∀ type ∈ trimPieces (textPieces content), known.contains (splitBrackets type).1 = true

namespace Speller

/-- The base of a type that a strict speller writes. -/
inductive Writes (speller : Speller) : String → Prop
  | fallback {type : String} (isFallback : speller.dialect.fallbackType = .text type) :
      Writes speller type
  | callable {type : String}
      (begins : Text.beginsWith type (speller.dialect.callableWord ++ "(") = true) :
      Writes speller type
  | known {type : String} (isKnown : .text type ∈ speller.known.members) : Writes speller type

/-- A spelling: a base that a strict speller writes, inside any number of arrays. -/
def Spells (speller : Speller) (spelling : String) : Prop :=
  ∃ type depth, spelling = type ++ brackets depth ∧ speller.Writes type

/-- A speller that insists on known types, writes arrays with brackets and fuses nothing. What it
writes in place of other types are texts, and its overrides name known types only. -/
structure IsStrict (speller : Speller) : Prop where
  insists : speller.dialect.insistsOnKnown = true
  arrays : speller.dialect.arrayPattern = bracketPattern
  fusesNothing : speller.dialect.opaqueTypes = []
  fallbackType : speller.dialect.fallbackType.IsText
  substitutions : speller.dialect.substitutions.All IsText
  functions : .text "function" ∈ speller.known.members
  overrides : speller.dialect.overrides.All (Table.All speller.known.Covers)

namespace IsStrict

variable {speller : Speller} (strict : speller.IsStrict)

include strict

/-- A type that is known can be written once its function types have the word of the dialect. -/
theorem writes_spellFunction {type : String} (isKnown : speller.known.contains type = true) :
    speller.Writes (speller.dialect.spellFunction type) := by
  rw [Dialect.spellFunction]
  by_cases isBare : type = "function()"
  · subst isBare
    exact .known strict.functions
  · simp only [if_neg isBare]
    split
    · next begins => exact .callable (beginsWith_callable _ begins)
    · next other => exact .known ((Known.contains_iff.1 isKnown).resolve_right other)

/-- Arrays of a type that is known are spelled. -/
theorem exists_spellKept {base : String} (isKnown : speller.known.contains base = true)
    (depth : Nat) :
    ∃ spelling, speller.dialect.spellKept base depth = .ok (.text spelling) ∧
      speller.Spells spelling := by
  refine ⟨_, ?_, _, depth, rfl, strict.writes_spellFunction isKnown⟩
  rw [Dialect.spellKept, strict.arrays, arrayOf_bracketPattern]

/-- An alternative of a substitution is spelled. -/
theorem exists_spellSubstitute (outerDepth : Nat) (alternative : String) :
    ∃ spelling, speller.spellSubstitute outerDepth alternative = .ok (.text spelling) ∧
      speller.Spells spelling := by
  rw [spellSubstitute, strict.insists]
  by_cases isKnown : speller.known.contains (splitBrackets alternative).1 = true
  · obtain ⟨spelling, spelled, spells⟩ :=
      strict.exists_spellKept isKnown (outerDepth + (splitBrackets alternative).2)
    exact ⟨spelling, by simpa [isKnown] using spelled, spells⟩
  · obtain ⟨fallback, isFallback⟩ := strict.fallbackType
    refine ⟨_, ?_, fallback, outerDepth + (splitBrackets alternative).2, rfl, .fallback isFallback⟩
    simp [isKnown, strict.arrays, isFallback, arrayOf_bracketPattern]

/-- A strict speller can spell whatever is documented. -/
theorem canSpell : speller.dialect.CanSpell where
  fallbackType := strict.fallbackType
  substitutions := strict.substitutions
  overrides := strict.overrides.mono fun _ table =>
    table.mono fun _ ⟨content, isText, _⟩ => ⟨content, isText⟩
  arrays := fun content => ⟨_, by rw [strict.arrays]; exact fill_bracketPattern content⟩

/-- What overrides a documented type names known types only. -/
theorem covers_of_overrideOf {raw : Value} {site : Site} {override : Value}
    (overrides : speller.dialect.overrideOf raw site = .ok override) :
    override.IsNullOr speller.known.Covers := by
  obtain ⟨table?, found, returns⟩ := Outcome.bind_eq_ok.1 overrides
  cases table? with
  | none => exact .inl (Outcome.pure_eq_ok.1 returns).symm
  | some table =>
      obtain rfl := Outcome.pure_eq_ok.1 returns
      have covered : Table.All (IsNullOr speller.known.Covers) table := by
        cases isOwner : site.owner with
        | text owner =>
            rw [isOwner, Value.lookupIn, Except.ok.injEq] at found
            exact (strict.overrides.of_get? found).mono fun override covers => .inr covers
        | _ => simp [isOwner, Value.lookupIn] at found
      exact covered.getD (.inl rfl) _

/-- The spellings of a documented alternative are bases that are written, inside arrays. -/
theorem spells_of_isSpellingOf {raw spelling : String} {site : Site}
    (isSpelling : speller.IsSpellingOf raw site spelling) : speller.Spells spelling := by
  cases isSpelling with
  | override overrides names spells =>
      rcases strict.covers_of_overrideOf overrides with isNull | ⟨content, isText, known⟩
      · cases isNull
      · obtain rfl := Value.text.inj isText
        obtain ⟨_, spelled, written⟩ := strict.exists_spellKept (known _ names) _
        obtain rfl := Value.text.inj (Except.ok.inj (spelled.symm.trans spells))
        exact written
  | substitute _ _ _ spells =>
      obtain ⟨_, spelled, written⟩ := strict.exists_spellSubstitute _ _
      obtain rfl := Value.text.inj (Except.ok.inj (spelled.symm.trans spells))
      exact written

/-- Whatever is documented, the types that are joined are spelled, or they are the alternative of an
optional type. -/
theorem exists_joined {documentedTypes : Value}
    (shaped : documentedTypes.IsText ∨ documentedTypes.IsListOf IsText) {site : Site}
    (owned : site.owner.IsText) :
    ∃ types, speller.joined documentedTypes site = .ok types ∧
      ∀ type ∈ types, speller.Spells type ∨ speller.dialect.nilAlternative = some type := by
  obtain ⟨_, types, _, joins, each⟩ := Speller.exists_joined strict.canSpell shaped owned
  refine ⟨types, joins, fun type member => ?_⟩
  rcases each type member with ⟨raw, _, isSpelling⟩ | ⟨_, fuses⟩ | isAbsent
  · exact .inl (strict.spells_of_isSpellingOf isSpelling)
  · exact absurd strict.fusesNothing fuses
  · exact .inr isAbsent

end IsStrict

end Speller

end ApiStubs.Types
