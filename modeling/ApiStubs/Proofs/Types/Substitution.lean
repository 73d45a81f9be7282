import ApiStubs.Proofs.Types.Default
import ApiStubs.Proofs.Types.Fusion

/-!
# What a substitution leaves

A name is looked up in the table of substitutions once, without the brackets behind it. A blank in
front of the brackets hides the name from that look-up. The name is trimmed afterwards, so a name
that is known as well stays as it was documented, and any other gives way to the fallback.

By default this is the one way in which Lua writes a name that it substitutes elsewhere
(`Speller.bareName_mem_keys_iff`).
-/

namespace ApiStubs

open ApiStubs.Value

namespace Types

/-! ## Pieces of joined texts -/

section Pieces

variable {α : Type} {mark : α → Mark}

/-- Symbols that are one piece are one piece with more open in front of them. -/
theorem cutBars_eq_singleton_of_le {depth deeper : Nat} (deepens : depth ≤ deeper)
    {symbols : List α} (whole : cutBars mark depth symbols = [symbols]) :
    cutBars mark deeper symbols = [symbols] := by
  induction symbols generalizing depth deeper with
  | nil => rfl
  | cons symbol rest inductionHypothesis =>
      obtain ⟨noCut, wholeRest⟩ := cutBars_cons_eq_singleton.1 whole
      refine cutBars_cons_eq_singleton.2 ⟨fun isCut => noCut ⟨isCut.1, by omega⟩, ?_⟩
      refine inductionHypothesis ?_ wholeRest
      cases mark symbol <;> simp only [depthAfter] <;> omega

/-- One piece in front of others becomes the start of the first of them. -/
theorem cutBars_append_of_whole {depth : Nat} {left right first : List α} {others : List (List α)}
    (whole : cutBars mark depth left = [left])
    (cut : cutBars mark (depthThrough mark depth left) right = first :: others) :
    cutBars mark depth (left ++ right) = (left ++ first) :: others := by
  induction left generalizing depth with
  | nil => exact cut
  | cons symbol rest inductionHypothesis =>
      obtain ⟨noCut, wholeRest⟩ := cutBars_cons_eq_singleton.1 whole
      rw [List.cons_append, cutBars, if_neg noCut, inductionHypothesis wholeRest cut]
      rfl

end Pieces

/-- A piece of texts that are joined with bars is one of the texts, when these are one piece each,
or it still holds a bar. -/
theorem mem_or_bar_mem_of_mem_cutBars {texts : List (List Char)} (nonempty : texts ≠ [])
    (whole : ∀ text ∈ texts, cutBars charMark 0 text = [text]) {depth : Nat} {piece : List Char}
    (isPiece : piece ∈ cutBars charMark depth (Text.joinChars ['|'] texts)) :
    piece ∈ texts ∨ '|' ∈ piece := by
  induction texts generalizing depth piece with
  | nil => exact absurd rfl nonempty
  | cons first rest inductionHypothesis =>
      obtain ⟨wholeFirst, wholeRest⟩ := List.forall_mem_cons.1 whole
      have wholeFirst := cutBars_eq_singleton_of_le (Nat.zero_le depth) wholeFirst
      cases rest with
      | nil =>
          rw [Text.joinChars, wholeFirst] at isPiece
          exact .inl isPiece
      | cons second others =>
          have later {deeper : Nat} {piece : List Char} (isPiece : piece ∈
              cutBars charMark deeper (Text.joinChars ['|'] (second :: others))) :
              piece ∈ first :: second :: others ∨ '|' ∈ piece :=
            (inductionHypothesis (List.cons_ne_nil second others) wholeRest isPiece).imp_left
              (List.mem_cons_of_mem first)
          rw [Text.joinChars, List.append_assoc, List.singleton_append] at isPiece
          by_cases closed : depthThrough charMark depth first = 0
          · rw [cutBars_append_bar closed (charMark_eq_bar.2 rfl), wholeFirst,
              List.singleton_append] at isPiece
            rcases List.mem_cons.1 isPiece with rfl | behind
            · exact .inl (List.mem_cons_self ..)
            · exact later behind
          · obtain ⟨next, more, cutRest⟩ := exists_cutBars charMark
              (depthThrough charMark depth first) (Text.joinChars ['|'] (second :: others))
            have isBar : charMark '|' = .bar := charMark_eq_bar.2 rfl
            have cutBehind : cutBars charMark (depthThrough charMark depth first)
                ('|' :: Text.joinChars ['|'] (second :: others)) = ('|' :: next) :: more := by
              have unchanged (depth : Nat) : depthAfter depth .bar = depth := rfl
              rw [cutBars, if_neg fun isCut => closed isCut.2, isBar, unchanged, cutRest]
              rfl
            rw [cutBars_append_of_whole wholeFirst cutBehind] at isPiece
            rcases List.mem_cons.1 isPiece with rfl | behind
            · exact .inr (List.mem_append_right _ (List.mem_cons_self ..))
            · exact later (cutRest ▸ List.mem_cons_of_mem next behind)

/-- An alternative of texts that are joined with bars is one of the texts, when these are one piece
each, or it still holds a bar. -/
theorem eq_trim_or_bar_mem_of_alternative {texts : List String}
    (whole : ∀ text ∈ texts, textPieces text = [text]) {type : String}
    (isAlternative : type ∈ trimPieces (textPieces (Text.join "|" texts))) :
    (∃ text ∈ texts, Text.trim text = type) ∨ '|' ∈ type.toList := by
  obtain ⟨⟨piece, isPiece, rfl⟩, _⟩ := mem_trimPieces.1 isAlternative
  have nonempty : texts ≠ [] := by
    rintro rfl
    have nothing : trimPieces (textPieces (Text.join "|" [])) = [] := by decide
    rw [nothing] at isAlternative
    exact List.not_mem_nil isAlternative
  have bar : "|".toList = ['|'] := by decide
  have isPieceOfChars := List.mem_map_of_mem (f := String.toList) isPiece
  rw [map_toList_textPieces, Text.toList_join, bar] at isPieceOfChars
  have wholeChars : ∀ text ∈ texts.map String.toList, cutBars charMark 0 text = [text] :=
    List.forall_mem_map.2 fun text among => textPieces_eq_singleton_iff.1 (whole text among)
  rcases mem_or_bar_mem_of_mem_cutBars (by simpa using nonempty) wholeChars isPieceOfChars with
    isText | hasBar
  · obtain ⟨text, among, same⟩ := List.mem_map.1 isText
    exact .inl ⟨text, among, congrArg Text.trim (String.toList_injective same)⟩
  · exact .inr (Text.mem_trim hasBar (by decide))

/-! ## Names -/

/-- The name of a type: what is left of it without the brackets behind it and the blanks around. -/
def bareName (type : String) : String :=
  Text.trim (splitBrackets type).1

/-- The name that is looked up among the known types when no substitution stands in place of a
documented alternative. -/
def hiddenName (raw : String) : String :=
  (splitBrackets (bareName raw)).1

/-- Brackets behind a type leave its name. -/
theorem bareName_append_brackets (type : String) (depth : Nat) :
    bareName (type ++ brackets depth) = bareName type := by
  rw [bareName, splitBrackets_append, bareName]

/-- A parenthesis or a bar of a type is in its name. -/
theorem mem_bareName {type : String} {char : Char} (member : char ∈ type.toList)
    (marked : charMark char ≠ .plain) : char ∈ (bareName type).toList := by
  have solid : Text.isBlank char = false :=
    Bool.eq_false_iff.2 fun blank => marked (charMark_of_isBlank blank)
  refine Text.mem_trim ?_ solid
  rw [← base_append_brackets type, String.toList_append, List.mem_append] at member
  exact member.resolve_right fun isBracket => marked (isPlain_brackets _ char isBracket)

namespace Speller

/-- An alternative that is documented with a blank in front of its brackets and under a name that is
substituted, but known as well. -/
def LeavesRaw (speller : Speller) (raw : String) : Prop :=
  IsSpaced raw ∧ hiddenName raw ∈ speller.dialect.substitutions.keys ∧
    speller.known.contains (hiddenName raw) = true

end Speller

end Types

/-! ## Lua -/

namespace Settings

open ApiStubs.Types

/-- No name that Lua substitutes by default has blanks, brackets, bars or parentheses. -/
theorem isWord_of_isKey : ∀ key ∈ defaultLua.substitutions.keys,
    bareName key = key ∧ '|' ∉ key.toList ∧ '(' ∉ key.toList := by
  decide

/-- The names that are known by default have neither blanks nor brackets. -/
theorem bareName_of_mem_defaultNames {name : String} (isName : name ∈ defaultNames) :
    bareName name = name := by
  obtain ⟨reads, _, unbracketed, _⟩ := reads_of_mem_defaultNames name isName
  rw [bareName, unbracketed]
  exact (readsAsOne_iff.1 reads).2.1

/-- What Lua writes for a name has the name of a substituted type exactly when the name is that of a
substituted type and known. -/
theorem bareName_luaBase_mem_keys_iff {name : String} :
    bareName (luaBase name) ∈ defaultLua.substitutions.keys ↔
      name ∈ defaultLua.substitutions.keys ∧ defaultWriter.known.contains name = true := by
  generalize isBase : luaBase name = base
  cases isBase ▸ isLuaBaseOf name with
  | fallback unknown =>
      have notKey : bareName "any" ∉ defaultLua.substitutions.keys := by decide
      simp [notKey, unknown]
  | bare isBare =>
      subst isBare
      decide
  | @callable parameters isSigned =>
      have isOpening : charMark '(' ≠ .plain := by decide
      have opens : '(' ∈ ("fun" ++ ("(" ++ parameters)).toList := by simp
      have opensToo : '(' ∈ name.toList := by simp [isSigned]
      exact iff_of_false
        (fun isKey => (isWord_of_isKey _ isKey).2.2 (mem_bareName opens isOpening))
        fun isKey => (isWord_of_isKey _ isKey.1).2.2 opensToo
  | itself isName =>
      have isKnown := contains_defaultWriter.2 (.inl isName)
      rw [bareName_of_mem_defaultNames isName, and_iff_left isKnown]

/-- What Lua writes by default: one piece, which is known or has a signature, in arrays. -/
def IsLuaSpelling (type : String) : Prop :=
  ∃ base depth, type = base ++ brackets depth ∧ textPieces base = [base] ∧
    ('(' ∈ base.toList ∨ base ∈ defaultNames)

namespace IsLuaSpelling

variable {type : String} (spells : IsLuaSpelling type)

/-- A known name in arrays is such a spelling. -/
theorem of_mem_defaultNames {name : String} (isName : name ∈ defaultNames) (depth : Nat) :
    IsLuaSpelling (name ++ brackets depth) :=
  ⟨name, depth, rfl, (readsAsOne_iff.1 (reads_of_mem_defaultNames name isName).1).1, .inr isName⟩

/-- What Lua writes for one piece is such a spelling in arrays. -/
theorem of_luaBase {name : String} (whole : textPieces name = [name]) (depth : Nat) :
    IsLuaSpelling (luaBase name ++ brackets depth) := by
  refine ⟨luaBase name, depth, rfl, textPieces_luaBase whole, ?_⟩
  generalize isBase : luaBase name = base
  cases isBase ▸ isLuaBaseOf name with
  | fallback _ => exact .inr (by decide)
  | bare _ => exact .inr (by decide)
  | callable _ _ => exact .inl (by simp)
  | itself isName => exact .inr isName

include spells

/-- Such a spelling is one piece. -/
theorem textPieces_eq : textPieces type = [type] := by
  obtain ⟨base, depth, rfl, whole, _⟩ := spells
  rw [← String.empty_append (s := base)]
  exact (textPieces_around isPlain_empty (isPlain_brackets depth)).2 whole

/-- Trimming such a spelling does not uncover a name that is substituted. -/
theorem mem_keys_of_trim (isKey : bareName (Text.trim type) ∈ defaultLua.substitutions.keys) :
    bareName type ∈ defaultLua.substitutions.keys := by
  obtain ⟨base, depth, rfl, _, opens | isName⟩ := spells
  · have opensBehind : '(' ∈ (Text.trim (base ++ brackets depth)).toList :=
      Text.mem_trim (by simp [opens]) (by decide)
    exact absurd (mem_bareName opensBehind (by decide)) (isWord_of_isKey _ isKey).2.2
  · have reads : ReadsAsOne base := (reads_of_mem_defaultNames base isName).1
    rw [(readsAsOne_iff.1 (reads.append_brackets depth)).2.1] at isKey
    exact isKey

end IsLuaSpelling

/-- A type that stays is not substituted under its name. -/
theorem bareName_not_mem_keys_of_stays {type : String}
    (stays : (defaultWriter.speller .lua).Stays type) :
    bareName type ∉ defaultLua.substitutions.keys := by
  have isName : bareName type = type := by
    rw [bareName, stays.unbracketed]
    exact (readsAsOne_iff.1 stays.reads).2.1
  rw [isName]
  exact Table.get?_eq_none_iff.1 stays.free

section Raw

variable {raw : String} (reads : ReadsAsOne raw)

include reads

/-- An alternative whose base is substituted leaves nothing raw. -/
theorem not_leavesRaw_of_isKey
    (isKey : (splitBrackets raw).1 ∈ defaultLua.substitutions.keys) :
    ¬(defaultWriter.speller .lua).LeavesRaw raw := by
  rintro ⟨isSpaced, _⟩
  have isWord := (isWord_of_isKey _ isKey).1
  rw [bareName, splitBrackets_base] at isWord
  exact (isSpaced_iff (readsAsOne_iff.1 reads).2.1).1 isSpaced isWord

/-- An alternative whose base is not substituted leaves it raw when the name that is hidden in it is
substituted, but known. -/
theorem leavesRaw_iff_of_not_isKey
    (free : (splitBrackets raw).1 ∉ defaultLua.substitutions.keys) :
    (defaultWriter.speller .lua).LeavesRaw raw ↔
      hiddenName raw ∈ defaultLua.substitutions.keys ∧
        defaultWriter.known.contains (hiddenName raw) = true := by
  refine and_iff_right_of_imp fun ⟨isKey, _⟩ => ?_
  rw [isSpaced_iff (readsAsOne_iff.1 reads).2.1]
  intro solid
  have isBase : hiddenName raw = (splitBrackets raw).1 := by
    rw [hiddenName, bareName, solid, splitBrackets_base]
  exact free (isBase ▸ isKey)

variable {site : Site}
  (kept : defaultLua.overrideOf (.text raw) site = .ok .null)

include kept

/-- A substituted alternative is spelled under no name that is substituted. -/
theorem exists_spellAlternative_of_isKey {content : String}
    (found : defaultLua.substitutions.get? (splitBrackets raw).1 = some (.text content))
    (isName : content ∈ defaultNames) (stays : (defaultWriter.speller .lua).Stays content) :
    ∃ spelled, (defaultWriter.speller .lua).spellAlternative (.text raw) site = .ok spelled ∧
      (∀ type, .text type ∈ spelled → IsLuaSpelling type) ∧
      ((∃ type, .text type ∈ spelled ∧ bareName type ∈ defaultLua.substitutions.keys) ↔
        (defaultWriter.speller .lua).LeavesRaw raw) := by
  have stands : (defaultWriter.speller .lua).standIn (splitBrackets raw).1 = .text content := by
    rw [Speller.standIn, speller_lua, found]
    rfl
  have spelled := stays.spellAlternative_of_standIn kept stands
  have arrays : arrayOf (defaultWriter.speller .lua).dialect.arrayPattern (.text content)
      (splitBrackets raw).2 = _ := arrayOf_bracketPattern content (splitBrackets raw).2
  rw [arrays, Outcome.ok_bind] at spelled
  refine ⟨_, spelled, fun type among => ?_, iff_of_false ?_ (not_leavesRaw_of_isKey reads ?_)⟩
  · obtain rfl := Value.text.inj (List.mem_singleton.1 among)
    exact .of_mem_defaultNames isName _
  · rintro ⟨type, among, isKey⟩
    obtain rfl := Value.text.inj (List.mem_singleton.1 among)
    rw [bareName_append_brackets] at isKey
    exact bareName_not_mem_keys_of_stays stays isKey
  · exact List.mem_map_of_mem (Table.mem_of_get? found)

/-- An alternative that is not substituted is spelled under the name of a substituted type when it
leaves it raw. -/
theorem exists_spellAlternative_of_not_isKey
    (free : (splitBrackets raw).1 ∉ defaultLua.substitutions.keys) :
    ∃ spelled, (defaultWriter.speller .lua).spellAlternative (.text raw) site = .ok spelled ∧
      (∀ type, .text type ∈ spelled → IsLuaSpelling type) ∧
      ((∃ type, .text type ∈ spelled ∧ bareName type ∈ defaultLua.substitutions.keys) ↔
        (defaultWriter.speller .lua).LeavesRaw raw) := by
  obtain ⟨whole, _, _⟩ := readsAsOne_iff.1 reads
  have stands : (defaultWriter.speller .lua).standIn (splitBrackets raw).1 =
      .text (splitBrackets raw).1 := by
    rw [Speller.standIn, speller_lua, Table.get?_eq_none_iff.2 free]
    rfl
  have read : alternatives (.text (splitBrackets raw).1) =
      .ok (trimPieces [(splitBrackets raw).1]) := by
    rw [← textPieces_base whole]
    rfl
  have spelled : (defaultWriter.speller .lua).spellAlternative (.text raw) site = _ :=
    Speller.spellAlternative_of_kept kept
  rw [stands, read, Outcome.ok_bind,
    Outcome.mapM_eq_map fun type _ => spellSubstitute_defaultLua _ type] at spelled
  have result {type : String} (among : .text type ∈ (trimPieces [(splitBrackets raw).1]).map
      fun type => Value.text (luaBase (splitBrackets type).1 ++
        brackets ((splitBrackets raw).2 + (splitBrackets type).2))) :
      ∃ depth, type = luaBase (hiddenName raw) ++ brackets depth := by
    obtain ⟨alternative, isAlternative, same⟩ := List.mem_map.1 among
    obtain ⟨⟨_, isBase, rfl⟩, _⟩ := mem_trimPieces.1 isAlternative
    obtain rfl := List.mem_singleton.1 isBase
    exact ⟨_, (Value.text.inj same).symm⟩
  refine ⟨_, spelled, fun type among => ?_, ?_⟩
  · obtain ⟨depth, rfl⟩ := result among
    refine .of_luaBase (textPieces_base ?_) depth
    have isPiece : (splitBrackets raw).1 ∈ textPieces (splitBrackets raw).1 :=
      textPieces_base whole ▸ List.mem_singleton_self _
    exact textPieces_trim isPiece
  rw [leavesRaw_iff_of_not_isKey reads free, ← bareName_luaBase_mem_keys_iff]
  constructor
  · rintro ⟨type, among, isKey⟩
    obtain ⟨depth, rfl⟩ := result among
    rwa [bareName_append_brackets] at isKey
  · intro isKey
    have nonempty : bareName raw ≠ "" := by
      intro isEmpty
      rw [hiddenName, isEmpty] at isKey
      exact absurd isKey (by decide)
    refine ⟨_, List.mem_map_of_mem (mem_trimPieces.2
      ⟨⟨_, List.mem_singleton_self _, rfl⟩, nonempty⟩), ?_⟩
    rwa [bareName_append_brackets]

end Raw

/-- A documented alternative is spelled under the name of a substituted type exactly when it leaves
it raw. -/
theorem exists_spellAlternative_defaultLua {raw : String} (reads : ReadsAsOne raw) {site : Site}
    (owned : site.owner.IsText) :
    ∃ spelled, (defaultWriter.speller .lua).spellAlternative (.text raw) site = .ok spelled ∧
      (∀ type, .text type ∈ spelled → IsLuaSpelling type) ∧
      ((∃ type, .text type ∈ spelled ∧ bareName type ∈ defaultLua.substitutions.keys) ↔
        (defaultWriter.speller .lua).LeavesRaw raw) := by
  rcases overrideOf_eq_null_or defaultLua rfl raw owned with
    kept | ⟨rfl, overridden⟩
  · cases found : defaultLua.substitutions.get? (splitBrackets raw).1 with
    | some substitute =>
        obtain ⟨content, rfl, isName, stays, _⟩ := stays_of_get?_luaSubstitutions found
        exact exists_spellAlternative_of_isKey reads kept found isName stays
    | none =>
        exact exists_spellAlternative_of_not_isKey reads kept (Table.get?_eq_none_iff.1 found)
  · refine ⟨_, spellAlternative_of_overridden overridden, ?_⟩
    have notKeys : bareName "string" ∉ defaultLua.substitutions.keys ∧
        bareName "nil" ∉ defaultLua.substitutions.keys := by decide
    have notHidden : hiddenName "string" ∉ defaultLua.substitutions.keys := by decide
    have spells : IsLuaSpelling "string" ∧ IsLuaSpelling "nil" :=
      ⟨⟨"string", 0, by decide, by decide, .inr (by decide)⟩,
        ⟨"nil", 0, by decide, by decide, .inr (by decide)⟩⟩
    refine ⟨fun type among => ?_, iff_of_false ?_ fun leaves => notHidden leaves.2.1⟩
    · rcases List.mem_pair.1 among with isString | isNil
      · exact Value.text.inj isString ▸ spells.1
      · exact Value.text.inj isNil ▸ spells.2
    · rintro ⟨type, among, isKey⟩
      rcases List.mem_pair.1 among with isString | isNil
      · exact notKeys.1 (Value.text.inj isString ▸ isKey)
      · exact notKeys.2 (Value.text.inj isNil ▸ isKey)

/-- By default, Lua joins a type under a substituted name exactly when it leaves one of the
documented alternatives raw. -/
theorem exists_joined_defaultLua {documented : Value}
    (shaped : documented.IsText ∨ documented.IsListOf IsText) {site : Site}
    (owned : site.owner.IsText) :
    ∃ pieces types, alternatives documented = .ok pieces ∧
      (defaultWriter.speller .lua).joined documented site = .ok types ∧
      (∀ type ∈ types, IsLuaSpelling type) ∧
      ((∃ type ∈ types, bareName type ∈ defaultLua.substitutions.keys) ↔
        ∃ raw ∈ pieces, (defaultWriter.speller .lua).LeavesRaw raw) := by
  obtain ⟨pieces, types, read, joins, _⟩ :=
    Speller.exists_joined isStrict_defaultWriter.canSpell shaped owned
  refine ⟨pieces, types, read, joins, ?_⟩
  have noneOpaque : (defaultWriter.speller .lua).dialect.opaqueTypes = [] := rfl
  have distinct : (defaultWriter.speller .lua).dialect.opaqueTypes.Nodup :=
    noneOpaque ▸ List.nodup_nil
  have few : ((defaultWriter.speller .lua).opaqueResults documented site).Subsingleton := by
    rintro type ⟨_, isOpaque⟩
    rw [noneOpaque] at isOpaque
    cases isOpaque
  have members := (Speller.mem_joined_iff distinct joins).1 few
  have source {type : String} (member : type ∈ types) : type = "nil" ∨ ∃ raw ∈ pieces,
      ∃ spelled, (defaultWriter.speller .lua).spellAlternative (.text raw) site = .ok spelled ∧
        .text type ∈ spelled := by
    rcases (members type).1 member with ⟨others, readOther, result⟩ | ⟨_, isAbsent⟩
    · obtain rfl := Except.ok.inj (read.symm.trans readOther)
      exact .inr result
    · exact .inl (Option.some.inj isAbsent).symm
  constructor
  · intro type member
    rcases source member with rfl | ⟨raw, among, spelled, spells, inside⟩
    · exact ⟨"nil", 0, by decide, by decide, .inr (by decide)⟩
    · obtain ⟨_, spellsToo, each, _⟩ := exists_spellAlternative_defaultLua
        (readsAsOne_of_mem_alternatives shaped read among).1 owned
      obtain rfl := Except.ok.inj (spells.symm.trans spellsToo)
      exact each type inside
  · constructor
    · rintro ⟨type, member, isKey⟩
      rcases source member with rfl | ⟨raw, among, spelled, spells, inside⟩
      · exact absurd isKey (by decide)
      · obtain ⟨_, spellsToo, _, leaves⟩ := exists_spellAlternative_defaultLua
          (readsAsOne_of_mem_alternatives shaped read among).1 owned
        obtain rfl := Except.ok.inj (spells.symm.trans spellsToo)
        exact ⟨raw, among, leaves.1 ⟨type, inside, isKey⟩⟩
    · rintro ⟨raw, among, isRaw⟩
      obtain ⟨spelled, spells, _, leaves⟩ := exists_spellAlternative_defaultLua
        (readsAsOne_of_mem_alternatives shaped read among).1 owned
      obtain ⟨type, inside, isKey⟩ := leaves.2 isRaw
      exact ⟨type, (members type).2 (.inl ⟨pieces, read, raw, among, spelled, spells, inside⟩),
        isKey⟩

/-- No alternative of what is written for such spellings has a substituted name when none of them
has. -/
theorem bareName_not_mem_keys_of_written {types : List String}
    (spells : ∀ type ∈ types, IsLuaSpelling type)
    (none : ∀ type ∈ types, bareName type ∉ defaultLua.substitutions.keys) {content : String}
    (isWritten : (defaultWriter.speller .lua).written types = .text content) {type : String}
    (isAlternative : type ∈ trimPieces (textPieces content)) :
    bareName type ∉ defaultLua.substitutions.keys := by
  rw [Speller.written] at isWritten
  split at isWritten
  · have isFallback : content = "any" := (Value.text.inj isWritten).symm
    have onlyAny : trimPieces (textPieces "any") = ["any"] := by decide
    rw [isFallback, onlyAny, List.mem_singleton] at isAlternative
    rw [isAlternative]
    decide
  · obtain rfl := Value.text.inj isWritten
    intro isKey
    rcases eq_trim_or_bar_mem_of_alternative (fun text among => (spells text among).textPieces_eq)
      isAlternative with ⟨text, among, rfl⟩ | hasBar
    · exact none text among ((spells text among).mem_keys_of_trim isKey)
    · exact (isWord_of_isKey _ isKey).2.1 (mem_bareName hasBar (by decide))

end Settings

namespace Lua

open ApiStubs.Settings ApiStubs.Types

/-- By default, a type that Lua joins for a documented one has the name of a substituted type
exactly when one of the documented alternatives leaves it raw: it has a blank in front of its
brackets and hides a name that is substituted, but known, which is one of three. Otherwise no
alternative that is read from what is written has such a name, and something is always written. -/
theorem substituted_name_is_written_iff (documented : Value) (site : Site)
    (owned : site.owner.IsText) (shaped : documented.IsText ∨ documented.IsListOf IsText) :
    ∃ writer pieces types content, StubWriter.ofSettings .default = .ok writer ∧
      (∀ key ∈ writer.settings.lua.substitutions.keys,
        writer.known.contains key = true ↔ key ∈ ["array", "bool", "float"]) ∧
      alternatives documented = .ok pieces ∧
      (writer.speller .lua).joined documented site = .ok types ∧
      (writer.speller .lua).spell documented site = .ok (.text content) ∧
      ((∃ type ∈ types, bareName type ∈ writer.settings.lua.substitutions.keys) ↔
        ∃ raw ∈ pieces, (writer.speller .lua).LeavesRaw raw) ∧
      ((∀ raw ∈ pieces, ¬(writer.speller .lua).LeavesRaw raw) →
        ∀ type ∈ trimPieces (textPieces content),
          bareName type ∉ writer.settings.lua.substitutions.keys) := by
  obtain ⟨pieces, types, read, joins, spells, raw⟩ := exists_joined_defaultLua shaped owned
  obtain ⟨_, spelled, content, rfl⟩ :=
    Speller.exists_spell isStrict_defaultWriter.canSpell shaped owned
  obtain ⟨_, joinsToo, isWritten⟩ := Speller.spell_eq_ok.1 spelled
  obtain rfl := Except.ok.inj (joins.symm.trans joinsToo)
  refine ⟨defaultWriter, pieces, types, content, ofSettings_default, by decide +kernel, read, joins,
    spelled, raw, fun none type isAlternative => ?_⟩
  refine bareName_not_mem_keys_of_written spells (fun type member isKey => ?_) isWritten
    isAlternative
  obtain ⟨raw, among, isRaw⟩ := raw.1 ⟨type, member, isKey⟩
  exact none raw among isRaw

/-- The names of three substituted types, in arrays and with a blank in front of brackets, that Lua
does not write: what the blank hides is not known, so it gives way to the fallback. -/
theorem no_substituted_name_is_written :
    let documented : Value := .list [.text "bool[]|float", .text " vmath.vector3 [][] "]
    let site : Site := { owner := .text "go.get", name := .text "id", isOptional := true }
    site.owner.IsText ∧ documented.IsListOf IsText ∧
      ∃ writer content, StubWriter.ofSettings .default = .ok writer ∧
        (∀ raw ∈ ["bool[]", "float", "vmath.vector3 [][]"],
          ¬(writer.speller .lua).LeavesRaw raw) ∧
        alternatives documented = .ok ["bool[]", "float", "vmath.vector3 [][]"] ∧
        (writer.speller .lua).spell documented site = .ok (.text content) ∧
        ∀ type ∈ trimPieces (textPieces content),
          bareName type ∉ writer.settings.lua.substitutions.keys := by
  intro documented site
  have owned : site.owner.IsText := isText_text "go.get"
  have areTexts : documented.IsListOf IsText := ⟨_, rfl, by simp⟩
  obtain ⟨writer, pieces, types, content, made, _, read, _, spelled, _, none⟩ :=
    substituted_name_is_written_iff documented site owned (.inr areTexts)
  obtain rfl : defaultWriter = writer := Except.ok.inj (ofSettings_default.symm.trans made)
  have given : alternatives documented = .ok ["bool[]", "float", "vmath.vector3 [][]"] :=
    Outcome.toOption_eq_some.1 (by decide +kernel)
  obtain rfl := Except.ok.inj (given.symm.trans read)
  have nothingRaw : ∀ raw ∈ ["bool[]", "float", "vmath.vector3 [][]"],
      ¬(defaultWriter.speller .lua).LeavesRaw raw := by
    intro raw member leaves
    simp only [List.mem_cons, List.not_mem_nil, or_false] at member
    rcases member with rfl | rfl | rfl
    · exact (isSpaced_iff (by decide)).1 leaves.1 (by decide)
    · exact (isSpaced_iff (by decide)).1 leaves.1 (by decide)
    · have unknown : defaultWriter.known.contains (hiddenName "vmath.vector3 [][]") = false := by
        decide +kernel
      exact absurd leaves.2.2 (Bool.eq_false_iff.1 unknown)
  exact ⟨owned, areTexts, defaultWriter, content, made, nothingRaw, given, spelled,
    none nothingRaw⟩

/-- A blank in front of the brackets lets a substituted name through: it is written as documented,
although the same array without the blank is not. -/
theorem spaced_name_is_written_raw :
    ∃ writer, StubWriter.ofSettings .default = .ok writer ∧
      let speller := writer.speller .lua
      speller.spell (.text "bool[]") {} = .ok (.text "boolean[]") ∧
        speller.spell (.text "bool []") {} = .ok (.text "bool[]") ∧
        alternatives (.text "bool[]") = .ok ["bool[]"] ∧
        bareName "bool[]" ∈ writer.settings.lua.substitutions.keys := by
  refine ⟨defaultWriter, ofSettings_default, ?_⟩
  have joins : (defaultWriter.speller .lua).joined (.text "bool[]") {} = .ok ["boolean[]"] :=
    Outcome.toOption_eq_some.1 (by decide +kernel)
  have joinsSpaced : (defaultWriter.speller .lua).joined (.text "bool []") {} = .ok ["bool[]"] :=
    Outcome.toOption_eq_some.1 (by decide +kernel)
  exact ⟨Speller.spell_eq_ok.2 ⟨_, joins, rfl⟩, Speller.spell_eq_ok.2 ⟨_, joinsSpaced, rfl⟩,
    Outcome.toOption_eq_some.1 (by decide +kernel), by decide +kernel⟩

end Lua

end ApiStubs
