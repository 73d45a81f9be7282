import ApiStubs.Proofs.Types.Regrouping
import Mathlib.Data.Finset.Card
import Mathlib.Data.Set.Subsingleton

/-!
# At most one opaque type

What is joined for a documented type is the set of the results of its alternatives, whatever they
come from: a raw name, a substitution or an override. Where that set has several opaque types, all
of them give way to `any`, and widening adds none. So what is joined is determined by the set of
results (`mem_joined_iff`), and it has at most one opaque type.
-/

namespace ApiStubs

open ApiStubs.Types ApiStubs.Value

/-! ## Fusing and widening sets -/

namespace Dialect

variable {dialect : Dialect} {types : List String}

/-- The alternative that a type gains. -/
def Gains (dialect : Dialect) (isOptional : Bool) (type : String) : Prop :=
  isOptional = true ∧ dialect.nilAlternative = some type

/-- Several members of a list without repetitions are in another list when two different ones
are. -/
theorem one_lt_length_filter_iff (distinct : dialect.opaqueTypes.Nodup) :
    1 < (dialect.opaqueTypes.filter types.contains).length ↔
      {type | type ∈ types ∧ type ∈ dialect.opaqueTypes}.Nontrivial := by
  rw [← List.toFinset_card_of_nodup (distinct.filter _), Finset.one_lt_card]
  simp only [List.mem_toFinset, List.mem_filter, List.contains_iff_mem, Set.Nontrivial,
    Set.mem_ofPred_eq, and_comm]

/-- A set with at most one opaque type is not changed by fusing. -/
theorem mem_fuseOpaque_of_subsingleton (distinct : dialect.opaqueTypes.Nodup)
    (single : {type | type ∈ types ∧ type ∈ dialect.opaqueTypes}.Subsingleton) {type : String} :
    type ∈ dialect.fuseOpaque types ↔ type ∈ types := by
  have few := mt (one_lt_length_filter_iff distinct).1 (Set.not_nontrivial_iff.2 single)
  rw [mem_fuseOpaque_iff, if_neg few]

/-- In a set with several opaque types, fusing puts `any` in their place. -/
theorem mem_fuseOpaque_of_nontrivial (distinct : dialect.opaqueTypes.Nodup)
    (several : {type | type ∈ types ∧ type ∈ dialect.opaqueTypes}.Nontrivial) {type : String} :
    type ∈ dialect.fuseOpaque types ↔
      type ∈ types ∧ type ∉ dialect.opaqueTypes ∨ type = "any" := by
  rw [mem_fuseOpaque_iff, if_pos ((one_lt_length_filter_iff distinct).2 several)]

/-- Fusing leaves at most one opaque type. -/
theorem subsingleton_fuseOpaque (distinct : dialect.opaqueTypes.Nodup) (types : List String) :
    {type | type ∈ dialect.fuseOpaque types ∧ type ∈ dialect.opaqueTypes}.Subsingleton := by
  rcases Set.subsingleton_or_nontrivial {type | type ∈ types ∧ type ∈ dialect.opaqueTypes} with
    single | several
  · simpa only [mem_fuseOpaque_of_subsingleton distinct single] using single
  · simp only [mem_fuseOpaque_of_nontrivial distinct several]
    rintro first ⟨⟨_, isNone⟩ | rfl, isOpaque⟩ second ⟨⟨_, isNoneEither⟩ | rfl, isOpaqueToo⟩
    · exact absurd isOpaque isNone
    · exact absurd isOpaque isNone
    · exact absurd isOpaqueToo isNoneEither
    · rfl

end Dialect

/-! ## What is joined -/

/-- A join is empty when there is nothing to join, or one empty text alone. -/
theorem Text.join_bar_eq_empty {texts : List String} :
    Text.join "|" texts = "" ↔ texts = [] ∨ texts = [""] := by
  constructor
  · intro isEmpty
    match texts with
    | [] => exact .inl rfl
    | [only] => exact .inr (congrArg (fun text => [text]) isEmpty)
    | first :: second :: others =>
        have chars := congrArg String.toList isEmpty
        simp [Text.join] at chars
  · rintro (rfl | rfl) <;> rfl

namespace Types.Speller

variable {speller : Speller} {documented : Value} {site : Site} {types : List String}

/-- A type that an alternative of a documented type is spelled as. -/
def IsResult (speller : Speller) (documented : Value) (site : Site) (type : String) : Prop :=
  ∃ pieces, alternatives documented = .ok pieces ∧ ∃ raw ∈ pieces, ∃ spelled,
    speller.spellAlternative (.text raw) site = .ok spelled ∧ .text type ∈ spelled

/-- The opaque types among the results of a documented type. -/
def opaqueResults (speller : Speller) (documented : Value) (site : Site) : Set String :=
  {type | speller.IsResult documented site type ∧ type ∈ speller.dialect.opaqueTypes}

/-- The type that is written for joined types: their join, or the fallback when nothing is left of
it. -/
def written (speller : Speller) (types : List String) : Value :=
  if Text.join "|" types = "" then speller.dialect.fallbackType else .text (Text.join "|" types)

/-- The type that is spelled for a documented one is written for the types that are joined. -/
theorem spell_eq_ok {type : Value} : speller.spell documented site = .ok type ↔
    ∃ types, speller.joined documented site = .ok types ∧ speller.written types = type := by
  rw [spell, Outcome.bind_eq_ok]
  simp only [Outcome.pure_eq_ok, written]

/-- The spellings of a documented type are the results of its alternatives. -/
theorem mem_spellings_iff (returns : speller.spellings documented site = .ok types)
    {type : String} : type ∈ types ↔ speller.IsResult documented site type := by
  simp only [spellings, Outcome.bind_eq_ok, Outcome.pure_eq_ok] at returns
  obtain ⟨pieces, read, spelled, spells, texts, areTexts, rfl⟩ := returns
  simp only [mem_distinct, Outcome.mem_mapM_iff areTexts, Value.asText_eq_ok, exists_eq_right,
    List.mem_flatten, Outcome.mem_mapM_iff spells]
  constructor
  · rintro ⟨results, ⟨raw, among, spellsRaw⟩, member⟩
    exact ⟨pieces, read, raw, among, results, spellsRaw, member⟩
  · rintro ⟨others, readOther, raw, among, results, spellsRaw, member⟩
    obtain rfl := Except.ok.inj (read.symm.trans readOther)
    exact ⟨results, ⟨raw, among, spellsRaw⟩, member⟩

/-- What is joined for a documented type are its spellings, fused and widened, in ascending order
and without repetitions. -/
theorem exists_spellings_of_joined (joins : speller.joined documented site = .ok types) :
    ∃ spellings, speller.spellings documented site = .ok spellings ∧
      types.Nodup ∧ types.Pairwise (· ≤ ·) ∧ ∀ type, type ∈ types ↔
        type ∈ speller.dialect.fuseOpaque spellings ∨
          speller.dialect.Gains site.isOptional type := by
  obtain ⟨spellings, spells, isJoined⟩ := Outcome.bind_eq_ok.1 joins
  obtain rfl := Outcome.pure_eq_ok.1 isJoined
  have once : spellings.Nodup := by
    simp only [Speller.spellings, Outcome.bind_eq_ok, Outcome.pure_eq_ok] at spells
    obtain ⟨_, _, _, _, texts, _, rfl⟩ := spells
    exact nodup_distinct texts
  refine ⟨spellings, spells, ?_, pairwise_mergeSort_text id _, fun type => ?_⟩
  · exact (List.mergeSort_perm ..).nodup_iff.2
      (Dialect.nodup_widen (Dialect.nodup_fuseOpaque once))
  · rw [ascending, List.mem_mergeSort, Dialect.mem_widen_iff]
    rfl

/-- A type that is joined is a result, `any`, or the alternative that the type gains. -/
theorem isResult_of_mem_joined (joins : speller.joined documented site = .ok types)
    {type : String} (member : type ∈ types) : speller.IsResult documented site type ∨
      type = "any" ∨ speller.dialect.Gains site.isOptional type := by
  obtain ⟨spellings, spells, _, _, members⟩ := exists_spellings_of_joined joins
  rcases (members type).1 member with fused | gains
  · rcases Dialect.mem_of_mem_fuseOpaque fused with isSpelling | ⟨isAny, _⟩
    · exact .inl ((mem_spellings_iff spells).1 isSpelling)
    · exact .inr (.inl isAny)
  · exact .inr (.inr gains)

/-- A result that is not opaque is joined. -/
theorem mem_joined_of_isResult (joins : speller.joined documented site = .ok types)
    {type : String} (result : speller.IsResult documented site type)
    (notOpaque : type ∉ speller.dialect.opaqueTypes) : type ∈ types := by
  obtain ⟨spellings, spells, _, _, members⟩ := exists_spellings_of_joined joins
  have isSpelling := (mem_spellings_iff spells).2 result
  refine (members type).2 (.inl (Dialect.mem_fuseOpaque_iff.2 ?_))
  split
  · exact .inl ⟨isSpelling, notOpaque⟩
  · exact isSpelling

/-- What is joined is determined by the set of results: the results themselves where at most one of
them is opaque, and otherwise those that are not, with `any`; in both cases with the alternative
that the type gains. -/
theorem mem_joined_iff (distinct : speller.dialect.opaqueTypes.Nodup)
    (joins : speller.joined documented site = .ok types) :
    ((speller.opaqueResults documented site).Subsingleton → ∀ type, type ∈ types ↔
      speller.IsResult documented site type ∨ speller.dialect.Gains site.isOptional type) ∧
    ((speller.opaqueResults documented site).Nontrivial → ∀ type, type ∈ types ↔
      (speller.IsResult documented site type ∧ type ∉ speller.dialect.opaqueTypes ∨
        type = "any") ∨ speller.dialect.Gains site.isOptional type) := by
  obtain ⟨spellings, spells, _, _, members⟩ := exists_spellings_of_joined joins
  simp only [members, opaqueResults, ← mem_spellings_iff spells]
  constructor
  · intro single type
    rw [Dialect.mem_fuseOpaque_of_subsingleton distinct single]
  · intro several type
    rw [Dialect.mem_fuseOpaque_of_nontrivial distinct several]

/-- At most one of the types that are joined is opaque, when the alternative that an optional type
gains is not. -/
theorem subsingleton_opaque_of_joined (distinct : speller.dialect.opaqueTypes.Nodup)
    (plain : ∀ absent ∈ speller.dialect.nilAlternative, absent ∉ speller.dialect.opaqueTypes)
    (joins : speller.joined documented site = .ok types) :
    {type | type ∈ types ∧ type ∈ speller.dialect.opaqueTypes}.Subsingleton := by
  obtain ⟨spellings, _, _, _, members⟩ := exists_spellings_of_joined joins
  refine (speller.dialect.subsingleton_fuseOpaque distinct spellings).anti ?_
  rintro type ⟨among, isOpaque⟩
  rcases (members type).1 among with fused | ⟨_, isAbsent⟩
  · exact ⟨fused, isOpaque⟩
  · exact absurd isOpaque (plain type isAbsent)

/-- The type that is written joins what is left of the results of the documented alternatives when
opaque types have been fused. With at most one opaque type among them these are all results, and
with several ones those that are not opaque, and `any`; an optional type gains its alternative. So
no two opaque types are ever joined. A dialect that can spell what is documented writes a type. -/
theorem written_type_has_one_opaque_type {speller : Speller}
    (distinct : speller.dialect.opaqueTypes.Nodup)
    (plain : ∀ absent ∈ speller.dialect.nilAlternative, absent ∉ speller.dialect.opaqueTypes)
    (documented : Value) (site : Site) :
    (∀ type, speller.spell documented site = .ok type → ∃ types,
      speller.joined documented site = .ok types ∧ speller.written types = type ∧
      types.Nodup ∧ types.Pairwise (· ≤ ·) ∧
      ((speller.opaqueResults documented site).Subsingleton → ∀ type, type ∈ types ↔
        speller.IsResult documented site type ∨ speller.dialect.Gains site.isOptional type) ∧
      ((speller.opaqueResults documented site).Nontrivial → ∀ type, type ∈ types ↔
        (speller.IsResult documented site type ∧ type ∉ speller.dialect.opaqueTypes ∨
          type = "any") ∨ speller.dialect.Gains site.isOptional type) ∧
      {type | type ∈ types ∧ type ∈ speller.dialect.opaqueTypes}.Subsingleton) ∧
    (speller.dialect.CanSpell → site.owner.IsText →
      documented.IsText ∨ documented.IsListOf IsText →
        ∃ type, speller.spell documented site = .ok type) := by
  constructor
  · intro type returns
    obtain ⟨types, joins, isWritten⟩ := spell_eq_ok.1 returns
    obtain ⟨_, _, once, sorted, _⟩ := exists_spellings_of_joined joins
    obtain ⟨ofFew, ofSeveral⟩ := mem_joined_iff distinct joins
    exact ⟨types, joins, isWritten, once, sorted, ofFew, ofSeveral,
      subsingleton_opaque_of_joined distinct plain joins⟩
  · intro able owned shaped
    obtain ⟨type, returns, _⟩ := exists_spell able shaped owned
    exact ⟨type, returns⟩

/-- A raw name, a substitution and an override bring three opaque types together, which give way to
`any`. The array of vectors is none of them. -/
theorem written_type_of_opaque_sources :
    let speller : Speller :=
      ⟨{ Settings.defaultTeal with
        overrides := [("go.get", Settings.textTable [("param_id_path", "quaternion")])] }, ⟨[]⟩⟩
    let site : Site := { owner := .text "go.get", name := .text "path" }
    let documented : Value := .list [.text "id|vmath.vector3[]|resource", .text "url|string"]
    speller.dialect.opaqueTypes.Nodup ∧
      (∀ absent ∈ speller.dialect.nilAlternative, absent ∉ speller.dialect.opaqueTypes) ∧
      speller.dialect.CanSpell ∧ (speller.opaqueResults documented site).Nontrivial ∧
      ∃ types, speller.joined documented site = .ok types ∧
        speller.spell documented site = .ok (speller.written types) ∧
        ∀ type, type ∈ types ↔ type = "\x7bvector3\x7d" ∨ type = "string" ∨ type = "any" := by
  intro speller site documented
  have spells : speller.spellings documented site =
      .ok ["quaternion", "\x7bvector3\x7d", "hash", "url", "string"] :=
    Outcome.toOption_eq_some.1 (by decide +kernel)
  have isResult (type : String) : speller.IsResult documented site type ↔
      type ∈ ["quaternion", "\x7bvector3\x7d", "hash", "url", "string"] :=
    (mem_spellings_iff spells).symm
  have distinct : speller.dialect.opaqueTypes.Nodup := by decide
  have plain : ∀ absent ∈ speller.dialect.nilAlternative,
      absent ∉ speller.dialect.opaqueTypes := nofun
  have able : speller.dialect.CanSpell := {
    fallbackType := isText_text "any"
    substitutions := Settings.all_isText_textTable _
    overrides := List.forall_mem_singleton.2 (Settings.all_isText_textTable _)
    arrays := fun content => ⟨_, Pattern.fill_of_pieces pieces_tablePattern content⟩ }
  have several : (speller.opaqueResults documented site).Nontrivial :=
    ⟨"quaternion", ⟨(isResult _).2 (by decide), by decide⟩, "url",
      ⟨(isResult _).2 (by decide), by decide⟩, by decide⟩
  obtain ⟨ofWritten, returns⟩ := written_type_has_one_opaque_type distinct plain documented site
  obtain ⟨_, spelled⟩ := returns able (isText_text _) (.inr ⟨_, rfl, by simp⟩)
  obtain ⟨types, joins, rfl, _, _, _, ofSeveral, _⟩ := ofWritten _ spelled
  refine ⟨distinct, plain, able, several, types, joins, spelled, fun type => ?_⟩
  have kept : ["quaternion", "\x7bvector3\x7d", "hash", "url", "string"].filter
      (fun type => !speller.dialect.opaqueTypes.contains type) = ["\x7bvector3\x7d", "string"] := by
    decide
  have isKept : type ∈ ["quaternion", "\x7bvector3\x7d", "hash", "url", "string"] ∧
      type ∉ speller.dialect.opaqueTypes ↔ type ∈ ["\x7bvector3\x7d", "string"] := by
    rw [← kept, List.mem_filter, Bool.not_eq_true', List.contains_eq_mem, decide_eq_false_iff_not]
  have gainsNothing : ¬speller.dialect.Gains site.isOptional type := nofun
  rw [ofSeveral several, isResult, isKept, or_iff_left gainsNothing, List.mem_pair, or_assoc]

end Types.Speller

end ApiStubs
