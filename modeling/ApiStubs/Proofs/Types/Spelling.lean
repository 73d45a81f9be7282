import ApiStubs.Proofs.Outcome
import ApiStubs.Proofs.Value.Shape
import ApiStubs.Types.Spelling

/-!
# Whatever is documented has a spelling

A dialect whose tables hold texts, and whose pattern of arrays every text can fill, spells any
documented type. What it joins is made of three things alone:

- a spelling of one documented alternative (`Speller.IsSpellingOf`), which comes from an override or
  from what stands in place of the alternative,
- `any`, where opaque types are fused, and
- the alternative of an optional type.
-/

namespace ApiStubs

open ApiStubs.Value ApiStubs.Types

/-- A dialect that can spell whatever is documented: it writes texts in place of types, and every
text fills its pattern of arrays. -/
structure Dialect.CanSpell (dialect : Dialect) : Prop where
  fallbackType : dialect.fallbackType.IsText
  substitutions : dialect.substitutions.All IsText
  overrides : dialect.overrides.All (Table.All IsText)
  arrays : ∀ content, ∃ filled, Pattern.fill dialect.arrayPattern (.text content) = .ok filled

namespace Dialect

section Sets

variable {types : List String} {type : String} {dialect : Dialect}

/-- Fusing takes all opaque types away and puts `any` in their place where there are several of
them, and changes nothing otherwise. -/
theorem mem_fuseOpaque_iff :
    type ∈ dialect.fuseOpaque types ↔
      if 1 < (dialect.opaqueTypes.filter types.contains).length then
        type ∈ types ∧ type ∉ dialect.opaqueTypes ∨ type = "any"
      else type ∈ types := by
  simp only [fuseOpaque]
  split
  · have kept (type : String) : type ∈ types.filter (fun type =>
        !(dialect.opaqueTypes.filter types.contains).contains type) ↔
          type ∈ types ∧ type ∉ dialect.opaqueTypes := by
      simp only [List.mem_filter, Bool.not_eq_true', List.contains_eq_mem, decide_eq_false_iff_not]
      grind
    split
    · next hasAny =>
        rw [kept]
        refine ⟨.inl, ?_⟩
        rintro (stays | rfl)
        · exact stays
        · exact (kept "any").1 (List.contains_iff_mem.1 hasAny)
    · rw [List.mem_append, kept, List.mem_singleton]
  · rfl

/-- Fusing opaque types adds `any` at most. -/
theorem mem_of_mem_fuseOpaque (member : type ∈ dialect.fuseOpaque types) :
    type ∈ types ∨ type = "any" ∧ dialect.opaqueTypes ≠ [] := by
  rw [mem_fuseOpaque_iff] at member
  split at member
  · next several =>
      have hasOpaque : dialect.opaqueTypes ≠ [] := by
        intro none
        simp [none] at several
      exact member.imp And.left fun isAny => ⟨isAny, hasOpaque⟩
  · exact .inl member

/-- Widening adds the alternative of an optional type. -/
theorem mem_widen_iff {isOptional : Bool} :
    type ∈ dialect.widen isOptional types ↔
      type ∈ types ∨ isOptional = true ∧ dialect.nilAlternative = some type := by
  cases absent : dialect.nilAlternative with
  | none => simp [widen, absent]
  | some added =>
      simp only [widen, absent, Option.some.injEq]
      cases isOptional with
      | false => simp
      | true =>
          by_cases present : added ∈ types
          · simp only [present, List.contains_eq_mem, decide_true, Bool.not_true, Bool.and_false,
              Bool.false_eq_true, if_false, true_and]
            exact ⟨.inl, fun either => either.elim id fun same => same ▸ present⟩
          · simp [present, eq_comm]

end Sets

namespace CanSpell

variable {dialect : Dialect} (able : dialect.CanSpell)

include able

/-- Arrays of every type have a spelling. -/
theorem exists_arrayOf (base : String) (depth : Nat) :
    ∃ spelling, arrayOf dialect.arrayPattern (.text base) depth = .ok (.text spelling) := by
  induction depth generalizing base with
  | zero => exact ⟨base, rfl⟩
  | succ depth inductionHypothesis =>
      obtain ⟨filled, fills⟩ := able.arrays base
      rw [arrayOf, fills]
      exact inductionHypothesis filled

/-- What overrides a documented type is a text, if anything does. -/
theorem exists_overrideOf (raw : Value) {site : Site} (owned : site.owner.IsText) :
    ∃ override, dialect.overrideOf raw site = .ok override ∧ override.IsNullOr IsText := by
  obtain ⟨owner, isOwner⟩ := owned
  rw [overrideOf, isOwner, Value.lookupIn, Outcome.ok_bind]
  cases found : Table.get? dialect.overrides owner with
  | none => exact ⟨_, rfl, .inl rfl⟩
  | some table =>
      have texts := (able.overrides.of_get? found).mono fun override isText =>
        (.inr isText : override.IsNullOr IsText)
      exact ⟨_, rfl, texts.getD (.inl rfl) _⟩

end CanSpell

end Dialect

namespace Types

/-- The type of a function with a signature is its first word with the signature behind it. -/
theorem Known.exists_signature {type : String}
    (begins : Text.beginsWith type functionStart = true) :
    ∃ parameters, type = "function" ++ ("(" ++ parameters) := by
  obtain ⟨parameters, rfl⟩ := Text.exists_eq_append_of_beginsWith begins
  exact ⟨parameters, String.toList_injective (by simp [functionStart])⟩

/-- The alternatives of a text or of a list of texts can be read. -/
theorem exists_alternatives {documentedTypes : Value}
    (shaped : documentedTypes.IsText ∨ documentedTypes.IsListOf IsText) :
    ∃ types, alternatives documentedTypes = .ok types := by
  rcases shaped with ⟨content, rfl⟩ | ⟨members, rfl, texts⟩
  · exact ⟨_, rfl⟩
  · obtain ⟨pieces, read, _⟩ : ∃ pieces, members.mapM memberPieces = .ok pieces ∧
        ∀ piece ∈ pieces, True := Outcome.exists_mapM fun member among => by
      obtain ⟨content, rfl⟩ := texts member among
      exact ⟨_, rfl, trivial⟩
    refine ⟨_, Outcome.bind_eq_ok.2 ⟨members, rfl, Outcome.bind_eq_ok.2 ⟨pieces, read, rfl⟩⟩⟩

/-- The distinct members of a list are its members. -/
theorem mem_distinct {types : List String} {type : String} :
    type ∈ distinct types ↔ type ∈ types := by
  induction types with
  | nil => rfl
  | cons first rest inductionHypothesis =>
      rw [distinct, List.mem_cons, List.mem_cons, List.mem_filter, inductionHypothesis]
      by_cases isFirst : type = first <;> simp [isFirst]

namespace Speller

/-- A spelling of one documented alternative: of an alternative of its override, or else of one of
what stands in its place. -/
inductive IsSpellingOf (speller : Speller) (raw : String) (site : Site) : String → Prop
  | override {content type spelling : String}
      (overrides : speller.dialect.overrideOf (.text raw) site = .ok (.text content))
      (names : type ∈ trimPieces (textPieces content))
      (spells : speller.dialect.spellKept (splitBrackets type).1 (splitBrackets type).2 =
        .ok (.text spelling)) : IsSpellingOf speller raw site spelling
  | substitute {content type spelling : String}
      (kept : speller.dialect.overrideOf (.text raw) site = .ok .null)
      (stands : (speller.dialect.substitutions.get? (splitBrackets raw).1).getD
        (.text (splitBrackets raw).1) = .text content)
      (names : type ∈ trimPieces (textPieces content))
      (spells : speller.spellSubstitute (splitBrackets raw).2 type = .ok (.text spelling)) :
      IsSpellingOf speller raw site spelling

section Able

variable {speller : Speller} (able : speller.dialect.CanSpell)

include able

/-- An alternative of what stands in place of a type has a spelling. -/
theorem exists_spellSubstitute (outerDepth : Nat) (alternative : String) :
    ∃ spelling, speller.spellSubstitute outerDepth alternative = .ok (.text spelling) := by
  simp only [spellSubstitute]
  split
  · obtain ⟨fallback, isFallback⟩ := able.fallbackType
    rw [isFallback]
    exact able.exists_arrayOf ..
  · exact able.exists_arrayOf ..

/-- A documented alternative has spellings. -/
theorem exists_spellAlternative (raw : String) {site : Site} (owned : site.owner.IsText) :
    ∃ spellings, speller.spellAlternative (.text raw) site = .ok spellings ∧
      ∀ spelling ∈ spellings,
        ∃ content, spelling = .text content ∧ speller.IsSpellingOf raw site content := by
  obtain ⟨override, overridden, rfl | ⟨content, rfl⟩⟩ := able.exists_overrideOf (.text raw) owned
  · obtain ⟨content, stands⟩ :=
      able.substitutions.getD (isText_text (splitBrackets raw).1) (splitBrackets raw).1
    rw [spellAlternative, overridden]
    simp only [Outcome.ok_bind, Value.asText, stands, alternatives]
    refine Outcome.exists_mapM fun type member => ?_
    obtain ⟨spelling, spelled⟩ := exists_spellSubstitute able (splitBrackets raw).2 type
    exact ⟨_, spelled, spelling, rfl, .substitute overridden stands member spelled⟩
  · rw [spellAlternative, overridden]
    simp only [Outcome.ok_bind, alternatives]
    refine Outcome.exists_mapM fun type member => ?_
    obtain ⟨spelling, spelled⟩ := able.exists_arrayOf
      (speller.dialect.spellFunction (splitBrackets type).1) (splitBrackets type).2
    exact ⟨_, spelled, spelling, rfl, .override overridden member spelled⟩

/-- Whatever is documented has spellings, each of one of its alternatives. -/
theorem exists_spellings {documentedTypes : Value}
    (shaped : documentedTypes.IsText ∨ documentedTypes.IsListOf IsText) {site : Site}
    (owned : site.owner.IsText) :
    ∃ pieces spellings, alternatives documentedTypes = .ok pieces ∧
      speller.spellings documentedTypes site = .ok spellings ∧
      ∀ spelling ∈ spellings, ∃ raw ∈ pieces, speller.IsSpellingOf raw site spelling := by
  obtain ⟨pieces, read⟩ := exists_alternatives shaped
  have eachRaw : ∀ raw ∈ pieces, ∃ spellings,
      speller.spellAlternative (.text raw) site = .ok spellings ∧ ∀ spelling ∈ spellings,
        ∃ content, spelling = .text content ∧
          ∃ raw ∈ pieces, speller.IsSpellingOf raw site content := by
    intro raw member
    obtain ⟨spellings, spelled, each⟩ := exists_spellAlternative able raw owned
    refine ⟨spellings, spelled, fun spelling among => ?_⟩
    obtain ⟨content, isText, isSpelling⟩ := each spelling among
    exact ⟨content, isText, raw, member, isSpelling⟩
  obtain ⟨spelled, spells, each⟩ := Outcome.exists_mapM eachRaw
  obtain ⟨texts, areTexts, eachText⟩ :
      ∃ texts, spelled.flatten.mapM Value.asText = .ok texts ∧
        ∀ text ∈ texts, ∃ raw ∈ pieces, speller.IsSpellingOf raw site text := by
    refine Outcome.exists_mapM fun spelling member => ?_
    obtain ⟨spellings, among, inside⟩ := List.mem_flatten.1 member
    obtain ⟨content, rfl, isSpelling⟩ := each spellings among spelling inside
    exact ⟨content, rfl, isSpelling⟩
  refine ⟨pieces, distinct texts, read, ?_, fun spelling member =>
    eachText _ (mem_distinct.1 member)⟩
  rw [spellings, read, Outcome.ok_bind, spells, Outcome.ok_bind, areTexts]
  rfl

/-- Whatever is documented, types are joined for it: spellings of its alternatives, `any` where
opaque types are fused, and the alternative of an optional type. -/
theorem exists_joined {documentedTypes : Value}
    (shaped : documentedTypes.IsText ∨ documentedTypes.IsListOf IsText) {site : Site}
    (owned : site.owner.IsText) :
    ∃ pieces types, alternatives documentedTypes = .ok pieces ∧
      speller.joined documentedTypes site = .ok types ∧
      ∀ type ∈ types, (∃ raw ∈ pieces, speller.IsSpellingOf raw site type) ∨
        (type = "any" ∧ speller.dialect.opaqueTypes ≠ []) ∨
        speller.dialect.nilAlternative = some type := by
  obtain ⟨pieces, spellings, read, spelled, each⟩ := exists_spellings able shaped owned
  refine ⟨pieces, ascending (speller.dialect.widen site.isOptional
    (speller.dialect.fuseOpaque spellings)), read, ?_, fun type member => ?_⟩
  · rw [joined, spelled, Outcome.ok_bind]
    rfl
  · rcases Dialect.mem_widen_iff.1 (List.mem_mergeSort.1 member) with fused | ⟨_, isAbsent⟩
    · rcases Dialect.mem_of_mem_fuseOpaque fused with isSpelling | isAny
      · exact .inl (each type isSpelling)
      · exact .inr (.inl isAny)
    · exact .inr (.inr isAbsent)

/-- Whatever is documented, one type is written for it, and it is a text. -/
theorem exists_spell {documentedTypes : Value}
    (shaped : documentedTypes.IsText ∨ documentedTypes.IsListOf IsText) {site : Site}
    (owned : site.owner.IsText) :
    ∃ type, speller.spell documentedTypes site = .ok type ∧ type.IsText := by
  obtain ⟨_, types, _, joined, _⟩ := exists_joined able shaped owned
  refine ⟨_, Outcome.bind_eq_ok.2 ⟨types, joined, rfl⟩, ?_⟩
  split
  · exact able.fallbackType
  · exact isText_text _

end Able

end Speller

end Types

end ApiStubs
