import ApiStubs.Proofs.Rearrangement
import ApiStubs.Proofs.Types.Cutting
import ApiStubs.Proofs.Types.Permissive
import Mathlib.Data.List.Nodup

/-!
# One type for one set of alternatives

What a dialect writes for a documented type depends on the set of its alternatives alone. Every
alternative is spelled on its own, the spellings are a set as well, and fusing, widening and sorting
look at nothing but the members of a set (`spell_eq_ok_of_same`).

So it does not matter how the alternatives are spread over texts. Texts that leave no parenthesis
open can be joined with bars, in any groups, in any order and any number of times.
-/

namespace ApiStubs

open ApiStubs.Value

/-! ## Sets of types -/

namespace Dialect

variable {dialect : Dialect} {types first second : List String}

/-- Fusing looks at the members alone. -/
theorem mem_fuseOpaque_congr (same : ∀ type, type ∈ first ↔ type ∈ second) (type : String) :
    type ∈ dialect.fuseOpaque first ↔ type ∈ dialect.fuseOpaque second := by
  have present : dialect.opaqueTypes.filter first.contains =
      dialect.opaqueTypes.filter second.contains :=
    List.filter_congr fun type _ => by simp [same type]
  rw [mem_fuseOpaque_iff, mem_fuseOpaque_iff, present, same type]

/-- Fusing repeats no member. -/
theorem nodup_fuseOpaque (distinct : types.Nodup) : (dialect.fuseOpaque types).Nodup := by
  simp only [fuseOpaque]
  split
  · split
    · exact distinct.filter _
    · next noAny =>
        rw [← List.concat_eq_append]
        exact List.Nodup.concat (fun isMember => noAny (List.contains_iff_mem.2 isMember))
          (distinct.filter _)
  · exact distinct

/-- Widening looks at the members alone. -/
theorem mem_widen_congr {isOptional : Bool} (same : ∀ type, type ∈ first ↔ type ∈ second)
    (type : String) :
    type ∈ dialect.widen isOptional first ↔ type ∈ dialect.widen isOptional second := by
  rw [mem_widen_iff, mem_widen_iff, same type]

/-- Widening repeats no member. -/
theorem nodup_widen {isOptional : Bool} (distinct : types.Nodup) :
    (dialect.widen isOptional types).Nodup := by
  rw [widen]
  split
  · next added _ =>
      split
      · next isAdded =>
          have absent : added ∉ types := by
            rw [Bool.and_eq_true, Bool.not_eq_true', List.contains_eq_mem,
              decide_eq_false_iff_not] at isAdded
            exact isAdded.2
          rw [← List.concat_eq_append]
          exact List.Nodup.concat absent distinct
      · exact distinct
  · exact distinct

end Dialect

namespace Types

/-- No member of the distinct ones is repeated. -/
theorem nodup_distinct (types : List String) : (distinct types).Nodup := by
  induction types with
  | nil => exact List.nodup_nil
  | cons first rest inductionHypothesis =>
      rw [distinct, List.nodup_cons]
      exact ⟨by simp, inductionHypothesis.filter _⟩

/-- Lists without repetitions that have the same members are the same in ascending order. -/
theorem ascending_eq {first second : List String} (distinctFirst : first.Nodup)
    (distinctSecond : second.Nodup) (same : ∀ type, type ∈ first ↔ type ∈ second) :
    ascending first = ascending second := by
  have perm : first.Perm second := (List.perm_ext_iff_of_nodup distinctFirst distinctSecond).2 same
  refine List.Perm.eq_of_pairwise (fun _ _ _ _ => String.le_antisymm)
    (pairwise_mergeSort_text id first) (pairwise_mergeSort_text id second) ?_
  exact (List.mergeSort_perm ..).trans (perm.trans (List.mergeSort_perm ..).symm)

namespace Speller

/-! ## What is written -/

/-- Spellings that come to some types when they are fused and widened are written as these in
ascending order. -/
theorem spell_of_spellings {speller : Speller} {documented : Value} {site : Site}
    {spellings types : List String} (spelled : speller.spellings documented site = .ok spellings)
    (widened : (speller.dialect.widen site.isOptional
      (speller.dialect.fuseOpaque spellings)).Perm types)
    (ordered : types.Pairwise (· ≤ ·)) (someType : Text.join "|" types ≠ "") :
    speller.spell documented site = .ok (.text (Text.join "|" types)) := by
  have sorted : ascending (speller.dialect.widen site.isOptional
      (speller.dialect.fuseOpaque spellings)) = types :=
    List.Perm.eq_of_pairwise (fun _ _ _ _ => String.le_antisymm) (pairwise_mergeSort_text id _)
      ordered ((List.mergeSort_perm ..).trans widened)
  rw [spell, joined, spelled, Outcome.ok_bind]
  simp only [sorted]
  exact congrArg Except.ok (if_neg someType)

section Same

variable {speller : Speller} {site : Site} {first second : Value} {types others : List String}
  (read : alternatives first = .ok types) (readOther : alternatives second = .ok others)
  (same : ∀ type, type ∈ types ↔ type ∈ others)

include read readOther same

/-- Types with the same alternatives have the same spellings. -/
theorem exists_spellings_of_same {spellings : List String}
    (returns : speller.spellings first site = .ok spellings) :
    ∃ otherSpellings, speller.spellings second site = .ok otherSpellings ∧
      ∀ spelling, spelling ∈ spellings ↔ spelling ∈ otherSpellings := by
  simp only [Speller.spellings, read, Outcome.ok_bind, Outcome.bind_eq_ok,
    Outcome.pure_eq_ok] at returns
  obtain ⟨spelled, spells, texts, areTexts, rfl⟩ := returns
  obtain ⟨otherSpelled, otherSpells, sameSpelled⟩ := Outcome.exists_mapM_of_mem_iff spells same
  have sameValues (value : Value) : value ∈ spelled.flatten ↔ value ∈ otherSpelled.flatten := by
    simp only [List.mem_flatten, sameSpelled]
  obtain ⟨otherTexts, areOtherTexts, sameTexts⟩ :=
    Outcome.exists_mapM_of_mem_iff areTexts sameValues
  refine ⟨distinct otherTexts, ?_, fun spelling => ?_⟩
  · rw [Speller.spellings, readOther, Outcome.ok_bind, otherSpells, Outcome.ok_bind,
      areOtherTexts]
    rfl
  · rw [mem_distinct, mem_distinct, sameTexts]

/-- What is written for a type is written for every type with the same alternatives. -/
theorem spell_eq_ok_of_same {type : Value} (returns : speller.spell first site = .ok type) :
    speller.spell second site = .ok type := by
  obtain ⟨joinedTypes, joins, written⟩ := Outcome.bind_eq_ok.1 returns
  obtain ⟨spellings, spells, isJoined⟩ := Outcome.bind_eq_ok.1 joins
  obtain ⟨otherSpellings, otherSpells, sameSpellings⟩ :=
    exists_spellings_of_same read readOther same spells
  have once {documented : Value} {spellings : List String}
      (spells : speller.spellings documented site = .ok spellings) : spellings.Nodup := by
    simp only [Speller.spellings, Outcome.bind_eq_ok, Outcome.pure_eq_ok] at spells
    obtain ⟨_, _, _, _, texts, _, rfl⟩ := spells
    exact nodup_distinct texts
  have sameJoined :
      ascending (speller.dialect.widen site.isOptional (speller.dialect.fuseOpaque spellings)) =
        ascending (speller.dialect.widen site.isOptional
          (speller.dialect.fuseOpaque otherSpellings)) :=
    ascending_eq (Dialect.nodup_widen (Dialect.nodup_fuseOpaque (once spells)))
      (Dialect.nodup_widen (Dialect.nodup_fuseOpaque (once otherSpells)))
      (Dialect.mem_widen_congr (Dialect.mem_fuseOpaque_congr sameSpellings))
  refine Outcome.bind_eq_ok.2 ⟨joinedTypes, ?_, written⟩
  refine Outcome.bind_eq_ok.2 ⟨otherSpellings, otherSpells, ?_⟩
  rw [Outcome.pure_eq_ok] at isJoined ⊢
  exact sameJoined.symm.trans isJoined

end Same

/-- Types with the same list of alternatives are written in the same way, or meet the same fault. -/
theorem spell_congr {first second : Value} (same : alternatives first = alternatives second)
    (speller : Speller) (site : Site) : speller.spell first site = speller.spell second site := by
  rw [spell, joined, spellings, same]
  rfl

end Speller

/-! ## Joined texts -/

/-- Texts that leave nothing open have the same alternatives when they are joined with bars. -/
theorem trimPieces_textPieces_join {texts : List String}
    (closed : ∀ text ∈ texts, openBehind text = 0) :
    trimPieces (textPieces (Text.join "|" texts)) =
      texts.flatMap fun text => trimPieces (textPieces text) := by
  induction texts with
  | nil => decide
  | cons first rest inductionHypothesis =>
      obtain ⟨closedFirst, closedRest⟩ := List.forall_mem_cons.1 closed
      rw [List.flatMap_cons, ← inductionHypothesis closedRest]
      cases rest with
      | nil =>
          have nothing : trimPieces (textPieces (Text.join "|" [])) = [] := by decide
          rw [nothing, List.append_nil]
          rfl
      | cons second others =>
          rw [Text.join, textPieces_append_bar closedFirst]
          simp [trimPieces]

/-- Groups of texts, each joined with bars, have the alternatives of all of their texts. -/
theorem alternatives_ofTexts_join {groups : List (List String)}
    (closed : ∀ text ∈ groups.flatten, openBehind text = 0) :
    alternatives (.ofTexts (groups.map (Text.join "|"))) =
      alternatives (.ofTexts groups.flatten) := by
  rw [alternatives_ofTexts, alternatives_ofTexts, List.flatMap_map, List.flatten_eq_flatMap,
    List.flatMap_assoc]
  apply congrArg Except.ok
  refine List.flatMap_congr fun group member => ?_
  exact trimPieces_textPieces_join fun text among =>
    closed text (List.mem_flatten_of_mem member among)

/-- Lists that hold the same texts have the same alternatives, in some order. -/
theorem mem_alternatives_ofTexts {texts others : List String}
    (same : ∀ text, text ∈ texts ↔ text ∈ others) (type : String) :
    type ∈ texts.flatMap (fun text => trimPieces (textPieces text)) ↔
      type ∈ others.flatMap fun text => trimPieces (textPieces text) := by
  simp only [List.mem_flatMap, same]

namespace Speller

/-! ## The set of alternatives decides -/

/-- What is written for a documented type depends on the set of its alternatives alone. Texts that
leave no parenthesis open have the same alternatives when they are joined with bars, so what is
written for them joined is written for them as a list, and for every regrouping of them: joined in
any groups, in any order and any number of times. A dialect that can spell what is documented writes
a type for each of these. -/
theorem spell_depends_on_set_of_alternatives (speller : Speller) (site : Site) :
    (∀ (first second : Value) (types others : List String),
      alternatives first = .ok types → alternatives second = .ok others →
        (∀ type, type ∈ types ↔ type ∈ others) →
          ∀ type, speller.spell first site = .ok type ↔ speller.spell second site = .ok type) ∧
    (∀ texts : List String, (∀ text ∈ texts, openBehind text = 0) →
      alternatives (.text (Text.join "|" texts)) = alternatives (.ofTexts texts) ∧
      speller.spell (.text (Text.join "|" texts)) site = speller.spell (.ofTexts texts) site ∧
      ∀ groups : List (List String), (∀ text, text ∈ groups.flatten ↔ text ∈ texts) →
        ∀ type, speller.spell (.text (Text.join "|" texts)) site = .ok type ↔
          speller.spell (.ofTexts (groups.map (Text.join "|"))) site = .ok type) ∧
    (speller.dialect.CanSpell → site.owner.IsText → ∀ documented : Value,
      documented.IsText ∨ documented.IsListOf IsText →
        ∃ type, speller.spell documented site = .ok type) := by
  refine ⟨?_, fun texts closed => ?_, ?_⟩
  · intro first second types others read readOther same type
    exact ⟨spell_eq_ok_of_same read readOther same,
      spell_eq_ok_of_same readOther read fun type => (same type).symm⟩
  · have joined : alternatives (.text (Text.join "|" texts)) = alternatives (.ofTexts texts) := by
      rw [alternatives_ofTexts, ← trimPieces_textPieces_join closed]
      rfl
    refine ⟨joined, spell_congr joined speller site, fun groups same type => ?_⟩
    have regrouped : alternatives (.ofTexts (groups.map (Text.join "|"))) =
        alternatives (.ofTexts groups.flatten) :=
      alternatives_ofTexts_join fun text among => closed text ((same text).1 among)
    rw [spell_congr joined, spell_congr regrouped]
    have members := mem_alternatives_ofTexts same
    exact ⟨spell_eq_ok_of_same (alternatives_ofTexts _) (alternatives_ofTexts _)
        fun type => (members type).symm,
      spell_eq_ok_of_same (alternatives_ofTexts _) (alternatives_ofTexts _) members⟩
  · intro able owned documented shaped
    obtain ⟨type, written, _⟩ := exists_spell able shaped owned
    exact ⟨type, written⟩

/-- Three documented types of a Teal parameter, and the same ones in two other groups, one of them
twice. The bar inside the signature does not count. -/
theorem spell_of_regrouped_teal_types :
    let speller : Speller := ⟨Settings.defaultTeal, ⟨[.text "hash", .text "number"]⟩⟩
    let site : Site := { owner := .text "go.get", name := .text "id" }
    let texts := ["hash", "function(a|b)", "number[]"]
    let groups := [["number[]"], ["function(a|b)", "hash", "number[]"]]
    (∀ text ∈ texts, openBehind text = 0) ∧ (∀ text, text ∈ groups.flatten ↔ text ∈ texts) ∧
      groups.map (Text.join "|") = ["number[]", "function(a|b)|hash|number[]"] ∧
      (∃ type, speller.spell (.text "hash|function(a|b)|number[]") site = .ok type ∧
        speller.spell (.ofTexts texts) site = .ok type ∧
        speller.spell (.ofTexts ["number[]", "function(a|b)|hash|number[]"]) site = .ok type) ∧
      ∀ type, speller.spell (.ofTexts ["number|hash", "hash"]) site = .ok type ↔
        speller.spell (.text "hash|number") site = .ok type := by
  intro speller site texts groups
  have closed : ∀ text ∈ texts, openBehind text = 0 := by decide
  have same (text : String) : text ∈ groups.flatten ↔ text ∈ texts := by
    simp only [texts, groups, List.flatten_cons, List.flatten_nil, List.cons_append,
      List.nil_append, List.mem_cons, List.not_mem_nil, or_false]
    grind
  have joined : groups.map (Text.join "|") = ["number[]", "function(a|b)|hash|number[]"] := by
    decide
  have whole : Text.join "|" texts = "hash|function(a|b)|number[]" := by decide
  obtain ⟨byMembers, byTexts, returns⟩ := spell_depends_on_set_of_alternatives speller site
  obtain ⟨_, asList, asGroups⟩ := byTexts texts closed
  obtain ⟨type, written⟩ := returns (canSpell_of_isPermissive Settings.isPermissive_defaultTeal)
    (isText_text "go.get") (.text (Text.join "|" texts)) (.inl (isText_text _))
  have regrouped := (asGroups groups same type).1 written
  rw [joined] at regrouped
  rw [whole] at written asList
  refine ⟨closed, same, joined, ⟨type, written, asList ▸ written, regrouped⟩, ?_⟩
  refine byMembers _ _ ["number", "hash", "hash"] ["hash", "number"] ?_ ?_ ?_
  · exact (alternatives_ofTexts _).trans (congrArg Except.ok (by decide))
  · exact congrArg Except.ok (by decide : trimPieces (textPieces "hash|number") = _)
  · simp only [List.mem_cons, List.not_mem_nil, or_false]
    grind

end Speller

end Types

end ApiStubs
