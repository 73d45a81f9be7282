import ApiStubs.Proofs.Types.Default
import ApiStubs.Proofs.Types.Fusion

/-!
# What is written is in normal form

A type that has been written can be documented once more, and it is written in the same way. The
join reads as the types that were joined when none of them leaves a parenthesis open
(`Speller.IsNormal`). These are sorted, fused and widened already, so nothing changes as long as
each of them is spelled as itself, and brings along nothing but what is joined beside it.

By default a base is settled after one spelling: what stands in place of a name has no substitution
itself, and an array of a settled base is spelled as that array in both dialects
(`Speller.Settles`).
-/

namespace ApiStubs

open ApiStubs.Value

namespace Types.Speller

variable {speller : Speller} {site : Site} {types : List String}

/-! ## Normal forms -/

/-- Types that are joined again as they are: a set in ascending order, fused and widened, whose
members read as one type each and are spelled as themselves, beside other members. -/
structure IsNormal (speller : Speller) (site : Site) (types : List String) : Prop where
  distinct : types.Nodup
  sorted : types.Pairwise (· ≤ ·)
  fused : {type | type ∈ types ∧ type ∈ speller.dialect.opaqueTypes}.Subsingleton
  widened : ∀ type, speller.dialect.Gains site.isOptional type → type ∈ types
  reads : ∀ type ∈ types, ReadsAsOne type
  closed : ∀ type ∈ types, openBehind type = 0
  spelled : ∀ type ∈ types, ∃ spelled, speller.spellAlternative (.text type) site = .ok spelled ∧
    .text type ∈ spelled ∧ ∀ value ∈ spelled, ∃ other ∈ types, value = .text other

namespace IsNormal

variable (normal : speller.IsNormal site types)

include normal

/-- Their join has them as alternatives. -/
theorem alternatives_join : alternatives (.text (Text.join "|" types)) = .ok types := by
  have read : trimPieces (textPieces (Text.join "|" types)) = types := by
    rw [trimPieces_textPieces_join normal.closed]
    exact (List.flatMap_congr normal.reads).trans (List.flatMap_singleton' types)
  exact congrArg Except.ok read

/-- The spellings of their join are these types. -/
theorem isResult_join_iff {type : String} :
    speller.IsResult (.text (Text.join "|" types)) site type ↔ type ∈ types := by
  constructor
  · rintro ⟨pieces, read, raw, among, spelled, spells, inside⟩
    obtain rfl := Except.ok.inj (normal.alternatives_join.symm.trans read)
    obtain ⟨_, spellsToo, _, others⟩ := normal.spelled raw among
    obtain rfl := Except.ok.inj (spells.symm.trans spellsToo)
    obtain ⟨other, member, same⟩ := others _ inside
    exact Value.text.inj same ▸ member
  · intro member
    obtain ⟨spelled, spells, inside, _⟩ := normal.spelled type member
    exact ⟨types, normal.alternatives_join, type, member, spelled, spells, inside⟩

/-- What is joined for their join are these types. -/
theorem joined_eq (able : speller.dialect.CanSpell) (once : speller.dialect.opaqueTypes.Nodup)
    (owned : site.owner.IsText) :
    speller.joined (.text (Text.join "|" types)) site = .ok types := by
  obtain ⟨_, again, _, joins, _⟩ := exists_joined able (.inl (isText_text _)) owned
  obtain ⟨_, _, distinct, sorted, _⟩ := exists_spellings_of_joined joins
  have few : (speller.opaqueResults (.text (Text.join "|" types)) site).Subsingleton := by
    simpa only [opaqueResults, normal.isResult_join_iff] using normal.fused
  have same (type : String) : type ∈ again ↔ type ∈ types := by
    rw [(mem_joined_iff once joins).1 few, normal.isResult_join_iff]
    exact or_iff_left_of_imp (normal.widened type)
  have perm : again.Perm types := (List.perm_ext_iff_of_nodup distinct normal.distinct).2 same
  rw [joins, perm.eq_of_pairwise (fun _ _ _ _ => String.le_antisymm) sorted normal.sorted]

/-- What is written for such types is written once more as it is, when the fallback is in normal
form as well. -/
theorem spell_written (able : speller.dialect.CanSpell)
    (once : speller.dialect.opaqueTypes.Nodup) (owned : site.owner.IsText) {fallback : String}
    (isFallback : speller.dialect.fallbackType = .text fallback)
    (normalFallback : types = [] → speller.IsNormal site [fallback]) :
    speller.spell (speller.written types) site = .ok (speller.written types) := by
  by_cases isEmpty : Text.join "|" types = ""
  · have none : types = [] := by
      refine (Text.join_bar_eq_empty.1 isEmpty).resolve_right fun single => ?_
      have blank := normal.reads "" (single ▸ List.mem_singleton_self "")
      exact (readsAsOne_iff.1 blank).2.2 rfl
    have fallbackNormal := normalFallback none
    have joins := fallbackNormal.joined_eq able once owned
    have nonempty : fallback ≠ "" :=
      (readsAsOne_iff.1 (fallbackNormal.reads fallback (List.mem_singleton_self _))).2.2
    have isWritten : speller.written types = .text fallback := by
      rw [written, if_pos isEmpty, isFallback]
    rw [isWritten]
    refine spell_eq_ok.2 ⟨[fallback], joins, ?_⟩
    rw [written]
    exact if_neg nonempty
  · have isWritten : speller.written types = .text (Text.join "|" types) := by
      rw [written, if_neg isEmpty]
    exact spell_eq_ok.2 ⟨types, isWritten ▸ normal.joined_eq able once owned, rfl⟩

end IsNormal

/-! ## Settled alternatives -/

/-- A type that is spelled as itself wherever nothing overrides it. -/
structure IsFixed (speller : Speller) (type : String) : Prop where
  reads : ReadsAsOne type
  closed : openBehind type = 0
  spelled : ∀ site, speller.dialect.overrideOf (.text type) site = .ok .null →
    speller.spellAlternative (.text type) site = .ok [.text type]

/-- A type that stays is spelled as itself. -/
theorem Stays.isFixed {type : String} (stays : speller.Stays type) : speller.IsFixed type where
  reads := stays.reads
  closed := stays.closed
  spelled := fun site kept => by
    have stands : speller.standIn (splitBrackets type).1 = .text type := by
      rw [stays.unbracketed, stays.standIn_eq]
    rw [stays.spellAlternative_of_standIn kept stands, stays.unbracketed]
    rfl

/-- Where brackets make arrays, they can stand behind a type that stays. -/
theorem Stays.isFixed_append_brackets {type : String} (stays : speller.Stays type)
    (arrays : speller.dialect.arrayPattern = bracketPattern) (depth : Nat) :
    speller.IsFixed (type ++ brackets depth) where
  reads := stays.reads.append_brackets depth
  closed := by
    rw [← String.empty_append (s := type), openBehind_around isPlain_empty (isPlain_brackets depth)]
    exact stays.closed
  spelled := fun site kept => by
    have parts : splitBrackets (type ++ brackets depth) = (type, depth) := by
      rw [splitBrackets_append, stays.unbracketed, Nat.zero_add]
    have stands : speller.standIn (splitBrackets (type ++ brackets depth)).1 = .text type := by
      rw [parts, stays.standIn_eq]
    rw [stays.spellAlternative_of_standIn kept stands, parts, arrays, arrayOf_bracketPattern]
    rfl

/-- A speller that one spelling settles: what stands in place of a name stays, and so does what is
written for a base that it admits; arrays of what stays are spelled as themselves. The word, for
which there is an override, comes from nothing but itself. -/
structure Settles (speller : Speller) (admits : String → Prop) (word : String) : Prop where
  substitutes : ∀ name substitute, speller.dialect.substitutions.get? name = some substitute →
    ∃ content, substitute = .text content ∧ speller.Stays content ∧ content ≠ word
  bases : ∀ base, ReadsAsOne base → openBehind base = 0 → splitBrackets base = (base, 0) →
    speller.dialect.substitutions.get? base = none → admits base →
      ∃ settled, speller.spellSubstitute 0 base = .ok (.text settled) ∧ speller.Stays settled ∧
        (settled = word → base = word)
  arrays : ∀ base depth, speller.Stays base →
    ∃ array, arrayOf speller.dialect.arrayPattern (.text base) depth = .ok (.text array) ∧
      speller.IsFixed array ∧ (array = word → base = word ∧ depth = 0)

namespace Settles

variable {admits : String → Prop} {word raw : String} (settles : speller.Settles admits word)

include settles

/-- An alternative without blanks in front of its brackets is spelled as types that are spelled as
themselves. -/
theorem exists_spellAlternative (reads : ReadsAsOne raw) (closed : openBehind raw = 0)
    (unspaced : ¬IsSpaced raw) (admitted : admits (splitBrackets raw).1)
    (kept : speller.dialect.overrideOf (.text raw) site = .ok .null) :
    ∃ spelled, speller.spellAlternative (.text raw) site = .ok spelled ∧ ∀ value ∈ spelled,
      ∃ type, value = .text type ∧ speller.IsFixed type ∧ (type = word → raw = word) := by
  obtain ⟨whole, trimmed, _⟩ := readsAsOne_iff.1 reads
  have solid : Text.trim (splitBrackets raw).1 = (splitBrackets raw).1 :=
    not_not.1 fun loses => unspaced ((isSpaced_iff trimmed).2 loses)
  cases found : speller.dialect.substitutions.get? (splitBrackets raw).1 with
  | some substitute =>
      obtain ⟨content, rfl, stays, other⟩ := settles.substitutes _ _ found
      obtain ⟨array, isArray, fixed, ofWord⟩ := settles.arrays content (splitBrackets raw).2 stays
      have stands : speller.standIn (splitBrackets raw).1 = .text content := by
        rw [standIn, found]
        rfl
      have spelled := stays.spellAlternative_of_standIn kept stands
      rw [isArray] at spelled
      refine ⟨_, spelled, List.forall_mem_singleton.2 ⟨array, rfl, fixed, fun isWord => ?_⟩⟩
      exact absurd (ofWord isWord).1 other
  | none =>
      have stands : speller.standIn (splitBrackets raw).1 = .text (splitBrackets raw).1 := by
        rw [standIn, found]
        rfl
      have spelled := spellAlternative_of_kept kept
      rw [stands] at spelled
      by_cases isEmpty : (splitBrackets raw).1 = ""
      · rw [isEmpty] at spelled
        exact ⟨[], spelled, List.forall_mem_nil _⟩
      · have readsBase : ReadsAsOne (splitBrackets raw).1 :=
          readsAsOne_iff.2 ⟨textPieces_base whole, solid, isEmpty⟩
        obtain ⟨settled, spells, stays, fromWord⟩ := settles.bases _ readsBase
          ((openBehind_base raw).trans closed) (splitBrackets_base raw) found admitted
        obtain ⟨array, isArray, fixed, ofWord⟩ :=
          settles.arrays settled (splitBrackets raw).2 stays
        have read : alternatives (.text (splitBrackets raw).1) = .ok [(splitBrackets raw).1] :=
          congrArg Except.ok readsBase
        have spellsArray : speller.spellSubstitute (splitBrackets raw).2 (splitBrackets raw).1 =
            .ok (.text array) := by
          rw [← Nat.zero_add (splitBrackets raw).2, spellSubstitute_add, spells, Outcome.ok_bind,
            isArray]
        rw [read, Outcome.ok_bind, List.mapM_cons, spellsArray] at spelled
        refine ⟨_, spelled, List.forall_mem_singleton.2 ⟨array, rfl, fixed, fun isWord => ?_⟩⟩
        obtain ⟨isSettled, flat⟩ := ofWord isWord
        rw [← base_append_brackets raw, flat, fromWord isSettled]
        exact String.append_empty

end Settles

end Types.Speller

namespace Settings

open ApiStubs.Types

/-! ## Lua -/

/-- The bases that Lua writes again as they are: a function has no signature, since the first word
of one is not known. -/
def LuaAdmits (base : String) : Prop :=
  Text.beginsWith base Known.functionStart = true → base = "function()"

/-- The default spelling of Lua settles what it admits. -/
theorem settles_defaultLua : (defaultWriter.speller .lua).Settles LuaAdmits "string" where
  substitutes := fun name substitute found => by
    obtain ⟨content, rfl, _, stays, other⟩ := stays_of_get?_luaSubstitutions found
    exact ⟨content, rfl, stays, other⟩
  bases := fun base _ _ unbracketed free admitted => by
    have spelled : (defaultWriter.speller .lua).spellSubstitute 0 base =
        .ok (.text (luaBase base)) := by
      rw [spellSubstitute_defaultLua, unbracketed, Nat.add_zero, brackets, String.append_empty]
    refine ⟨luaBase base, spelled, ?_⟩
    generalize isBase : luaBase base = settled
    cases isBase ▸ isLuaBaseOf base with
    | fallback _ =>
        exact ⟨stays_of_mem_defaultNames (by decide) (by decide),
          fun isWord => absurd isWord (by decide)⟩
    | bare _ =>
        exact ⟨stays_of_mem_defaultNames (by decide) (by decide),
          fun isWord => absurd isWord (by decide)⟩
    | @callable parameters isSigned other =>
        refine absurd (admitted ?_) other
        rw [isSigned, Known.functionStart, ← String.append_assoc]
        exact Text.beginsWith_append ..
    | itself isName => exact ⟨stays_of_mem_defaultNames isName free, id⟩
  arrays := fun base depth stays => by
    refine ⟨base ++ brackets depth, arrayOf_bracketPattern base depth,
      stays.isFixed_append_brackets rfl depth, fun isWord => ?_⟩
    have parts := congrArg splitBrackets isWord
    have plain : splitBrackets "string" = ("string", 0) := by decide
    rw [splitBrackets_append, stays.unbracketed, plain, Nat.zero_add] at parts
    exact Prod.mk.inj parts

/-! ## Teal -/

/-- The default tables of Teal are permissive. -/
theorem isPermissive_speller : (defaultWriter.speller .teal).dialect.IsPermissive :=
  isPermissive_defaultTeal

/-- A type that Teal does not substitute stays by default, apart from functions without
parameters. -/
theorem stays_of_tealFree {type : String} (reads : ReadsAsOne type) (closed : openBehind type = 0)
    (unbracketed : splitBrackets type = (type, 0))
    (free : defaultTeal.substitutions.get? type = none) (other : type ≠ "function()") :
    (defaultWriter.speller .teal).Stays type := by
  refine { reads, closed, unbracketed, free, spelled := ?_ }
  rw [Speller.spellSubstitute_of_isPermissive isPermissive_speller, unbracketed,
    Dialect.spellFunction_of_word isPermissive_speller.word, if_neg other]
  rfl

/-- What Teal substitutes by default is read as it is, is not substituted itself, and is neither a
function without parameters nor overridden. -/
theorem reads_of_mem_tealSubstitutions : ∀ entry ∈ tealSubstitutions,
    trimPieces (textPieces entry.2) = [entry.2] ∧ openBehind entry.2 = 0 ∧
      splitBrackets entry.2 = (entry.2, 0) ∧ defaultTeal.substitutions.get? entry.2 = none ∧
      entry.2 ≠ "function()" ∧ entry.2 ≠ "string" := by
  decide

/-- No name that Teal substitutes by default begins with a brace. -/
theorem head?_of_isKey_teal : ∀ key ∈ defaultTeal.substitutions.keys,
    key.toList.head? ≠ some '\x7b' := by
  decide

/-- A table of a type that stays in Teal stays. -/
theorem stays_braces {type : String} (stays : (defaultWriter.speller .teal).Stays type) :
    (defaultWriter.speller .teal).Stays ("\x7b" ++ type ++ "\x7d") := by
  have first : ("\x7b" ++ type ++ "\x7d").toList.head? = some '\x7b' := by simp
  have last : ("\x7b" ++ type ++ "\x7d").toList.getLast? = some '\x7d' := by
    simp [List.getLast?_cons]
  refine stays_of_tealFree stays.reads.braces ?_ ?_ ?_ ?_
  · rw [openBehind_around (by decide) (by decide), stays.closed]
  · exact splitBrackets_of_getLast? (last ▸ by decide)
  · exact Table.get?_eq_none_iff.2 fun isKey => head?_of_isKey_teal _ isKey first
  · intro same
    rw [same] at first
    exact absurd first (by decide)

/-- Tables of a type that stays in Teal stay. -/
theorem stays_insideTables {type : String} (stays : (defaultWriter.speller .teal).Stays type)
    (depth : Nat) : (defaultWriter.speller .teal).Stays (insideTables type depth) := by
  induction depth generalizing type with
  | zero => exact stays
  | succ depth inductionHypothesis => exact inductionHypothesis (stays_braces stays)

/-- The default spelling of Teal settles everything. -/
theorem settles_defaultTeal :
    (defaultWriter.speller .teal).Settles (fun _ => True) "string" where
  substitutes := fun name substitute found => by
    obtain ⟨entry, among, same⟩ := List.mem_map.1 (Table.mem_of_get? found)
    obtain ⟨_, rfl⟩ := Prod.mk.inj same
    obtain ⟨reads, closed, unbracketed, free, named, other⟩ :=
      reads_of_mem_tealSubstitutions entry among
    exact ⟨entry.2, rfl, stays_of_tealFree reads closed unbracketed free named, other⟩
  bases := fun base reads closed unbracketed free _ => by
    have spelled : (defaultWriter.speller .teal).spellSubstitute 0 base =
        .ok (.text (if base = "function()" then "function" else base)) := by
      rw [Speller.spellSubstitute_of_isPermissive isPermissive_speller, unbracketed,
        Dialect.spellFunction_of_word isPermissive_speller.word]
      rfl
    refine ⟨_, spelled, ?_⟩
    by_cases isBare : base = "function()"
    · rw [if_pos isBare]
      exact ⟨stays_of_tealFree (by decide) (by decide) (by decide) (by decide) (by decide),
        fun isWord => absurd isWord (by decide)⟩
    · rw [if_neg isBare]
      exact ⟨stays_of_tealFree reads closed unbracketed free isBare, id⟩
  arrays := fun base depth stays => by
    refine ⟨insideTables base depth, arrayOf_tablePattern base depth,
      (stays_insideTables stays depth).isFixed, fun isWord => ?_⟩
    cases depth with
    | zero => exact ⟨isWord, rfl⟩
    | succ depth =>
        have first := congrArg (fun type => type.toList.head?) isWord
        simp [insideTables_succ] at first

/-! ## Both dialects -/

/-- What a dialect admits: Teal has no condition. -/
def AdmitsBase : Tongue → String → Prop
  | .lua => LuaAdmits
  | .teal => fun _ => True

section Tongue

variable (tongue : Tongue)

/-- The default spelling settles what a dialect admits. -/
theorem settles_default : (defaultWriter.speller tongue).Settles (AdmitsBase tongue) "string" :=
  match tongue with
  | .lua => settles_defaultLua
  | .teal => settles_defaultTeal

/-- By default, whatever is documented can be spelled. -/
theorem canSpell_default : (defaultWriter.speller tongue).dialect.CanSpell :=
  match tongue with
  | .lua => isStrict_defaultWriter.canSpell
  | .teal => Speller.canSpell_of_isPermissive isPermissive_speller

/-- The default opaque types are distinct, and the words that can come beside others are not among
them. -/
theorem opaqueTypes_default : (defaultWriter.speller tongue).dialect.opaqueTypes.Nodup ∧
    ∀ type ∈ ["any", "nil", "string"],
      type ∉ (defaultWriter.speller tongue).dialect.opaqueTypes := by
  cases tongue <;> decide

/-- An optional type gains nothing but `nil` by default. -/
theorem eq_nil_of_gains {isOptional : Bool} {type : String}
    (gains : (defaultWriter.speller tongue).dialect.Gains isOptional type) : type = "nil" := by
  obtain ⟨_, isAbsent⟩ := gains
  cases tongue with
  | lua => exact (Option.some.inj isAbsent).symm
  | teal => cases isAbsent

/-- The words that can come beside others are spelled as themselves. -/
theorem isFixed_of_mem_words {type : String} (member : type ∈ ["any", "nil", "string"]) :
    (defaultWriter.speller tongue).IsFixed type := by
  refine Speller.Stays.isFixed ?_
  cases tongue with
  | lua =>
      have known : ∀ type ∈ ["any", "nil", "string"], type ∈ defaultNames ∧
          defaultLua.substitutions.get? type = none := by decide
      exact stays_of_mem_defaultNames (known type member).1 (known type member).2
  | teal =>
      have free : ∀ type ∈ ["any", "nil", "string"], ReadsAsOne type ∧ openBehind type = 0 ∧
          splitBrackets type = (type, 0) ∧ defaultTeal.substitutions.get? type = none ∧
          type ≠ "function()" := by decide
      obtain ⟨reads, closed, unbracketed, free, other⟩ := free type member
      exact stays_of_tealFree reads closed unbracketed free other

/-- By default, one type of one value that a function returns is overridden. -/
theorem overrideOf_default (raw : String) {site : Site} (owned : site.owner.IsText) :
    (defaultWriter.speller tongue).dialect.overrideOf (.text raw) site = .ok .null ∨
      raw = "string" ∧ (defaultWriter.speller tongue).dialect.overrideOf (.text raw) site =
        .ok (.text "string|nil") :=
  match tongue with
  | .lua => overrideOf_eq_null_or defaultLua rfl raw owned
  | .teal => overrideOf_eq_null_or defaultTeal rfl raw owned

/-- By default, an alternative without blanks in front of its brackets is spelled as types that are
spelled as themselves, and as the overridden type when it is that type. -/
theorem exists_spellAlternative_default {raw : String} (reads : ReadsAsOne raw)
    (closed : openBehind raw = 0) (unspaced : ¬IsSpaced raw)
    (admitted : AdmitsBase tongue (splitBrackets raw).1) {site : Site} (owned : site.owner.IsText) :
    ∃ spelled, (defaultWriter.speller tongue).spellAlternative (.text raw) site = .ok spelled ∧
      ∀ value ∈ spelled, ∃ type, value = .text type ∧
        (defaultWriter.speller tongue).IsFixed type ∧ (type = "string" → raw = "string") := by
  rcases overrideOf_default tongue raw owned with kept | ⟨rfl, overridden⟩
  · exact (settles_default tongue).exists_spellAlternative reads closed unspaced admitted kept
  · refine ⟨_, spellAlternative_of_overridden overridden, fun value among => ?_⟩
    rcases List.mem_pair.1 among with rfl | rfl
    · exact ⟨"string", rfl, isFixed_of_mem_words tongue (by decide), fun _ => rfl⟩
    · exact ⟨"nil", rfl, isFixed_of_mem_words tongue (by decide), fun _ => rfl⟩

section Joined

variable {tongue} {documented : Value} {site : Site} {pieces types : List String}
  (shaped : documented.IsText ∨ documented.IsListOf IsText) (owned : site.owner.IsText)
  (read : alternatives documented = .ok pieces)
  (balanced : ∀ text, IsWrittenWith text documented → isBalanced text = true)
  (unspaced : ∀ raw ∈ pieces, ¬IsSpaced raw)
  (admitted : ∀ raw ∈ pieces, AdmitsBase tongue (splitBrackets raw).1)

include shaped owned read balanced unspaced admitted

/-- By default, a result is spelled as itself, and it is the overridden type only when that type is
documented. -/
theorem isFixed_of_isResult {type : String}
    (result : (defaultWriter.speller tongue).IsResult documented site type) :
    (defaultWriter.speller tongue).IsFixed type ∧ (type = "string" → "string" ∈ pieces) := by
  obtain ⟨others, readOther, raw, among, spelled, spells, inside⟩ := result
  obtain rfl := Except.ok.inj (read.symm.trans readOther)
  obtain ⟨reads, closed⟩ := readsAsOne_of_mem_alternatives shaped read among
  obtain ⟨_, spellsToo, each⟩ := exists_spellAlternative_default tongue reads (closed balanced)
    (unspaced raw among) (admitted raw among) owned
  obtain rfl := Except.ok.inj (spells.symm.trans spellsToo)
  obtain ⟨_, same, fixed, ofString⟩ := each _ inside
  obtain rfl := Value.text.inj same
  exact ⟨fixed, fun isString => ofString isString ▸ among⟩

/-- By default, what is joined is in normal form. -/
theorem isNormal_of_joined
    (joins : (defaultWriter.speller tongue).joined documented site = .ok types) :
    (defaultWriter.speller tongue).IsNormal site types := by
  obtain ⟨once, plain⟩ := opaqueTypes_default tongue
  obtain ⟨_, _, distinct, sorted, members⟩ := Speller.exists_spellings_of_joined joins
  have fixed : ∀ type ∈ types, (defaultWriter.speller tongue).IsFixed type := by
    intro type member
    rcases Speller.isResult_of_mem_joined joins member with result | rfl | gains
    · exact (isFixed_of_isResult shaped owned read balanced unspaced admitted result).1
    · exact isFixed_of_mem_words tongue (by decide)
    · exact eq_nil_of_gains tongue gains ▸ isFixed_of_mem_words tongue (by decide)
  have notOpaque : ∀ absent ∈ (defaultWriter.speller tongue).dialect.nilAlternative,
      absent ∉ (defaultWriter.speller tongue).dialect.opaqueTypes := by
    intro absent isAbsent
    have gains : (defaultWriter.speller tongue).dialect.Gains true absent := ⟨rfl, isAbsent⟩
    rw [eq_nil_of_gains tongue gains]
    exact plain "nil" (by decide)
  have besideString (member : "string" ∈ types)
      (overridden : (defaultWriter.speller tongue).dialect.overrideOf (.text "string") site =
        .ok (.text "string|nil")) : "nil" ∈ types := by
    rcases Speller.isResult_of_mem_joined joins member with result | isAny | gains
    · have among := (isFixed_of_isResult shaped owned read balanced unspaced admitted result).2 rfl
      exact Speller.mem_joined_of_isResult joins ⟨pieces, read, "string", among, _,
        spellAlternative_of_overridden overridden, by simp⟩ (plain "nil" (by decide))
    · exact absurd isAny (by decide)
    · exact absurd (eq_nil_of_gains tongue gains) (by decide)
  exact {
    distinct
    sorted
    fused := Speller.subsingleton_opaque_of_joined once notOpaque joins
    widened := fun type gains => (members type).2 (.inr gains)
    reads := fun type member => (fixed type member).reads
    closed := fun type member => (fixed type member).closed
    spelled := fun type member => by
      rcases overrideOf_default tongue type owned with kept | ⟨rfl, overridden⟩
      · exact ⟨_, (fixed type member).spelled site kept, List.mem_singleton_self _,
          List.forall_mem_singleton.2 ⟨type, member, rfl⟩⟩
      · refine ⟨_, spellAlternative_of_overridden overridden, List.mem_cons_self .., ?_⟩
        rw [List.forall_mem_cons, List.forall_mem_singleton]
        exact ⟨⟨_, member, rfl⟩, _, besideString member overridden, rfl⟩ }

end Joined

end Tongue

/-- The fallback alone is in normal form by default where nothing is gained. -/
theorem isNormal_fallback (tongue : Tongue) {site : Site} (owned : site.owner.IsText)
    (gainsNothing : ∀ type,
      ¬(defaultWriter.speller tongue).dialect.Gains site.isOptional type) :
    (defaultWriter.speller tongue).IsNormal site ["any"] := by
  have fixed : (defaultWriter.speller tongue).IsFixed "any" :=
    isFixed_of_mem_words tongue (by decide)
  have kept := (overrideOf_default tongue "any" owned).resolve_right fun overridden =>
    absurd overridden.1 (by decide)
  exact {
    distinct := List.nodup_singleton _
    sorted := List.pairwise_singleton ..
    fused := by
      rintro first ⟨among, _⟩ second ⟨amongToo, _⟩
      rw [List.mem_singleton.1 among, List.mem_singleton.1 amongToo]
    widened := fun type gains => absurd gains (gainsNothing type)
    reads := List.forall_mem_singleton.2 fixed.reads
    closed := List.forall_mem_singleton.2 fixed.closed
    spelled := List.forall_mem_singleton.2 ⟨_, fixed.spelled site kept, List.mem_singleton_self _,
      List.forall_mem_singleton.2 ⟨"any", List.mem_singleton_self _, rfl⟩⟩ }

/-- By default, what a dialect writes for a documented type is written once more as it is, wherever
the type stands. The texts that the type is documented with are balanced, and no alternative has a
blank in front of its brackets; in Lua no alternative is a function with a signature, since the
first word of such a function is not known when it is read again. -/
theorem written_type_is_normal (tongue : Tongue) :
    ∃ writer, StubWriter.ofSettings .default = .ok writer ∧
      ∀ (documented : Value) (site : Site) (pieces : List String), site.owner.IsText →
        documented.IsText ∨ documented.IsListOf IsText → alternatives documented = .ok pieces →
        (∀ text, IsWrittenWith text documented → isBalanced text = true) →
        (∀ raw ∈ pieces, ¬IsSpaced raw) →
        (tongue = .lua → ∀ raw ∈ pieces,
          Text.beginsWith (splitBrackets raw).1 Known.functionStart = true →
            (splitBrackets raw).1 = "function()") →
          ∃ content, (writer.speller tongue).spell documented site = .ok (.text content) ∧
            (writer.speller tongue).spell (.text content) site = .ok (.text content) := by
  refine ⟨defaultWriter, ofSettings_default, ?_⟩
  intro documented site pieces owned shaped read balanced unspaced signatures
  have admitted : ∀ raw ∈ pieces, AdmitsBase tongue (splitBrackets raw).1 := by
    intro raw among
    cases tongue with
    | lua => exact signatures rfl raw among
    | teal => trivial
  obtain ⟨_, spelled, content, rfl⟩ :=
    Speller.exists_spell (canSpell_default tongue) shaped owned
  obtain ⟨types, joins, isWritten⟩ := Speller.spell_eq_ok.1 spelled
  have normal := isNormal_of_joined shaped owned read balanced unspaced admitted joins
  have isFallback : (defaultWriter.speller tongue).dialect.fallbackType = .text "any" := by
    cases tongue <;> rfl
  refine ⟨content, spelled, ?_⟩
  rw [← isWritten]
  refine normal.spell_written (canSpell_default tongue) (opaqueTypes_default tongue).1 owned
    isFallback fun none => isNormal_fallback tongue owned fun type gains => ?_
  exact List.not_mem_nil (none ▸ normal.widened type gains)

/-- The type of a returned resource in Lua: a text with an override, an array of a substituted name
and a function without parameters. -/
theorem written_type_of_resource_is_normal :
    let documented : Value := .list [.text "string| bool[]", .text "function()"]
    let site : Site := { owner := .text "sys.load_resource", name := .text "data", side := .result }
    site.owner.IsText ∧ documented.IsListOf IsText ∧
      alternatives documented = .ok ["string", "bool[]", "function()"] ∧
      (∀ text, IsWrittenWith text documented → isBalanced text = true) ∧
      (∀ raw ∈ ["string", "bool[]", "function()"], ¬IsSpaced raw) ∧
      (∀ raw ∈ ["string", "bool[]", "function()"],
        Text.beginsWith (splitBrackets raw).1 Known.functionStart = true →
          (splitBrackets raw).1 = "function()") ∧
      ∃ writer content, StubWriter.ofSettings .default = .ok writer ∧
        content = "boolean[]|function|nil|string" ∧
        (writer.speller .lua).spell documented site = .ok (.text content) ∧
        (writer.speller .lua).spell (.text content) site = .ok (.text content) := by
  intro documented site
  have owned : site.owner.IsText := isText_text "sys.load_resource"
  have areTexts : documented.IsListOf IsText := ⟨_, rfl, by simp⟩
  have read : alternatives documented = .ok ["string", "bool[]", "function()"] :=
    Outcome.toOption_eq_some.1 (by decide +kernel)
  have balanced : ∀ text, IsWrittenWith text documented → isBalanced text = true :=
    forall_isWrittenWith_ofTexts ["string| bool[]", "function()"] (by decide)
  have unspaced : ∀ raw ∈ ["string", "bool[]", "function()"], ¬IsSpaced raw := by
    have solid : ∀ raw ∈ ["string", "bool[]", "function()"],
        Text.trim raw = raw ∧ Text.trim (splitBrackets raw).1 = (splitBrackets raw).1 := by decide
    intro raw among isSpaced
    exact (isSpaced_iff (solid raw among).1).1 isSpaced (solid raw among).2
  have signatures : ∀ raw ∈ ["string", "bool[]", "function()"],
      Text.beginsWith (splitBrackets raw).1 Known.functionStart = true →
        (splitBrackets raw).1 = "function()" := by decide
  obtain ⟨writer, made, writes⟩ := written_type_is_normal .lua
  obtain rfl : defaultWriter = writer := Except.ok.inj (ofSettings_default.symm.trans made)
  obtain ⟨content, spelled, again⟩ :=
    writes documented site _ owned (.inr areTexts) read balanced unspaced fun _ => signatures
  have spells : (defaultWriter.speller .lua).spellings documented site =
      .ok ["string", "nil", "boolean[]", "function"] :=
    Outcome.toOption_eq_some.1 (by decide +kernel)
  have joins : (defaultWriter.speller .lua).spell documented site =
      .ok (.text (Text.join "|" ["boolean[]", "function", "nil", "string"])) :=
    Speller.spell_of_spellings spells (by decide) (by decide) (by decide)
  have isContent : content = "boolean[]|function|nil|string" :=
    (Value.text.inj (Except.ok.inj (spelled.symm.trans joins))).trans (by decide)
  exact ⟨owned, areTexts, read, balanced, unspaced, signatures, defaultWriter, content,
    ofSettings_default, isContent, spelled, again⟩

end Settings

end ApiStubs
