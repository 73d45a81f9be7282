import ApiStubs.Proofs.Types.Bases
import ApiStubs.Proofs.Types.Fusion

/-!
# Balanced types

A dialect whose own words have balanced parentheses (`Dialect.IsBalanced`) writes a balanced type
for a balanced one: cutting, trimming, taking brackets off, substituting, filling the pattern of
arrays and joining all keep the balance (`Speller.exists_balanced_spell`).

The other way round, the signature of a function is written as it is, except for its first word. So
a signature that leaves a parenthesis open is written unbalanced (`Speller.IsSignature.spell`).
-/

namespace ApiStubs

open ApiStubs.Value

namespace Types

/-! ## Balanced texts -/

/-- Balanced characters in front of others do not matter to the balance of those. -/
theorem isBalancedFrom_append_of_balanced {depth : Nat} {left : List Char}
    (balanced : isBalancedFrom depth left = true) (right : List Char) :
    isBalancedFrom depth (left ++ right) = isBalancedFrom 0 right := by
  induction left generalizing depth with
  | nil =>
      obtain rfl : depth = 0 := beq_iff_eq.1 balanced
      rfl
  | cons char rest inductionHypothesis =>
      obtain ⟨hasOpening, balancedRest⟩ := isBalancedFrom_cons.1 balanced
      rw [← inductionHypothesis balancedRest, List.cons_append, Bool.eq_iff_iff,
        isBalancedFrom_cons]
      exact and_iff_right hasOpening

/-- A balanced text in front of another does not matter to the balance of that one. -/
theorem isBalanced_append {left : String} (balanced : isBalanced left = true) (right : String) :
    isBalanced (left ++ right) = isBalanced right := by
  rw [isBalanced, String.toList_append]
  exact isBalancedFrom_append_of_balanced balanced _

/-- Plain symbols behind a text do not matter to its balance. -/
theorem isBalanced_append_plain {ending : String} (plain : IsPlain ending) (text : String) :
    isBalanced (text ++ ending) = isBalanced text := by
  rw [isBalanced, String.toList_append]
  exact isBalancedFrom_append_right plain 0 _

/-- The base of a type is balanced when the type is. -/
theorem isBalanced_base (type : String) :
    isBalanced (splitBrackets type).1 = isBalanced type := by
  rw [← isBalanced_append_plain (isPlain_brackets (splitBrackets type).2), base_append_brackets]

/-- Balanced texts are balanced when they are joined with bars. -/
theorem isBalanced_join {texts : List String} (balanced : ∀ text ∈ texts, isBalanced text = true) :
    isBalanced (Text.join "|" texts) = true := by
  induction texts with
  | nil => rfl
  | cons first rest inductionHypothesis =>
      obtain ⟨balancedFirst, balancedRest⟩ := List.forall_mem_cons.1 balanced
      cases rest with
      | nil => exact balancedFirst
      | cons second others =>
          have bar : isBalanced "|" = true := by decide
          rw [Text.join, String.append_assoc, isBalanced_append balancedFirst,
            isBalanced_append bar]
          exact inductionHypothesis balancedRest

/-- The alternatives of a balanced text are balanced. -/
theorem isBalanced_of_mem_trimPieces {text type : String} (balanced : isBalanced text = true)
    (isAlternative : type ∈ trimPieces (textPieces text)) : isBalanced type = true := by
  obtain ⟨⟨piece, isPiece, rfl⟩, _⟩ := mem_trimPieces.1 isAlternative
  exact isBalanced_trim balanced isPiece

/-- The type of a function begins with its first word and a parenthesis. -/
theorem Known.beginsWith_signature (parameters : String) :
    Text.beginsWith ("function" ++ ("(" ++ parameters)) functionStart = true := by
  have start : "function" ++ ("(" ++ parameters) = functionStart ++ parameters :=
    String.toList_injective (by simp [functionStart])
  rw [start]
  exact Text.beginsWith_append ..

/-- A text that leaves a parenthesis open is not balanced. -/
theorem isBalanced_of_openBehind {text : String} (opens : openBehind text ≠ 0) :
    isBalanced text = false :=
  Bool.eq_false_iff.2 fun balanced => opens (openBehind_of_isBalanced balanced)

end Types

open ApiStubs.Types

/-- A text with balanced parentheses. -/
def Value.IsBalanced (value : Value) : Prop :=
  ∃ content, value = .text content ∧ isBalanced content = true

/-! ## Balanced dialects -/

/-- A dialect whose own words are balanced: what it writes in place of types, the word of functions
and its arrays of balanced types. -/
structure Dialect.IsBalanced (dialect : Dialect) : Prop where
  fallbackType : dialect.fallbackType.IsBalanced
  substitutions : dialect.substitutions.All Value.IsBalanced
  callableWord : isBalanced dialect.callableWord = true
  arrays : ∀ content filled, isBalanced content = true →
    Pattern.fill dialect.arrayPattern (.text content) = .ok filled → isBalanced filled = true

namespace Dialect

variable {dialect : Dialect}

/-- The first word of a signature gives way to the dialect's own, and the rest stays. -/
theorem spellFunction_signature {parameters : String} (isLong : parameters ≠ ")") :
    dialect.spellFunction ("function" ++ ("(" ++ parameters)) =
      dialect.callableWord ++ ("(" ++ parameters) := by
  have notBare : "function" ++ ("(" ++ parameters) ≠ "function()" := by
    intro isBare
    refine isLong (String.toList_injective ?_)
    simpa using congrArg String.toList isBare
  simp only [spellFunction, if_neg notBare, Known.beginsWith_signature, if_true]
  rw [Text.dropFirst_append]

namespace IsBalanced

variable (balanced : dialect.IsBalanced)

include balanced

/-- A balanced type is balanced with the dialect's word for functions. -/
theorem spellFunction {type : String} (isBalancedType : isBalanced type = true) :
    isBalanced (dialect.spellFunction type) = true := by
  by_cases isBare : type = "function()"
  · have word : Text.beginsWith "function" Known.functionStart = false := by decide
    simp only [Dialect.spellFunction, if_pos isBare, word, Bool.false_eq_true, if_false]
    decide
  · by_cases begins : Text.beginsWith type Known.functionStart = true
    · obtain ⟨parameters, rfl⟩ := Known.exists_signature begins
      have word : isBalanced "function" = true := by decide
      have isLong : parameters ≠ ")" := fun isShort => isBare (by rw [isShort]; rfl)
      rw [spellFunction_signature isLong, isBalanced_append balanced.callableWord,
        ← isBalanced_append word]
      exact isBalancedType
    · simp only [Dialect.spellFunction, if_neg isBare, if_neg begins]
      exact isBalancedType

/-- Arrays of a balanced type are balanced. -/
theorem arrayOf {base array : String} (isBalancedBase : isBalanced base = true) {depth : Nat}
    (made : Types.arrayOf dialect.arrayPattern (.text base) depth = .ok (.text array)) :
    isBalanced array = true := by
  induction depth generalizing base with
  | zero =>
      obtain rfl := Value.text.inj (Except.ok.inj made)
      exact isBalancedBase
  | succ depth inductionHypothesis =>
      obtain ⟨filled, fills, made⟩ := Outcome.bind_eq_ok.1 made
      exact inductionHypothesis (balanced.arrays base filled isBalancedBase fills) made

end IsBalanced

end Dialect

namespace Types.Speller

variable {speller : Speller} {site : Site} {raw spelling : String}

/-! ## Balanced spellings -/

/-- Without an override, the spellings of a balanced alternative are balanced. -/
theorem IsSpellingOf.isBalanced (balanced : speller.dialect.IsBalanced)
    (spells : speller.IsSpellingOf raw site spelling) (isBalancedRaw : isBalanced raw = true)
    (kept : speller.dialect.overrideOf (.text raw) site = .ok .null) :
    Types.isBalanced spelling = true := by
  cases spells with
  | override overrides _ _ => exact absurd (overrides.symm.trans kept) nofun
  | substitute _ stands names spells =>
      obtain ⟨content, isContent, isBalancedContent⟩ : Value.IsBalanced _ :=
        balanced.substitutions.getD ⟨_, rfl, (isBalanced_base raw).trans isBalancedRaw⟩
          (splitBrackets raw).1
      obtain rfl := Value.text.inj (stands.symm.trans isContent)
      have isBalancedType := isBalanced_of_mem_trimPieces isBalancedContent names
      simp only [spellSubstitute] at spells
      split at spells
      · obtain ⟨fallback, isFallback, isBalancedFallback⟩ := balanced.fallbackType
        rw [isFallback] at spells
        exact balanced.arrayOf isBalancedFallback spells
      · exact balanced.arrayOf
          (balanced.spellFunction ((isBalanced_base _).trans isBalancedType)) spells

/-- Where nothing is overridden, a balanced type is written for a balanced one that has to be
given. -/
theorem exists_balanced_spell (able : speller.dialect.CanSpell)
    (balanced : speller.dialect.IsBalanced) {documented : String}
    (isBalancedType : isBalanced documented = true) (owned : site.owner.IsText)
    (required : site.isOptional = false)
    (kept : ∀ raw, speller.dialect.overrideOf (.text raw) site = .ok .null) :
    ∃ type, speller.spell (.text documented) site = .ok (.text type) ∧
      isBalanced type = true := by
  obtain ⟨_, types, _, joins, _⟩ := exists_joined able (.inl (isText_text documented)) owned
  have each : ∀ type ∈ types, isBalanced type = true := by
    intro type member
    rcases isResult_of_mem_joined joins member with result | rfl | ⟨isOptional, _⟩
    · obtain ⟨_, read, raw, among, _, spelled, inside⟩ := result
      obtain rfl := Except.ok.inj read
      obtain ⟨_, spelledToo, spellings⟩ := exists_spellAlternative able raw owned
      obtain rfl := Except.ok.inj (spelled.symm.trans spelledToo)
      obtain ⟨_, same, spells⟩ := spellings _ inside
      obtain rfl := Value.text.inj same
      exact spells.isBalanced balanced (isBalanced_of_mem_trimPieces isBalancedType among)
        (kept raw)
    · decide
    · exact absurd (required.symm.trans isOptional) nofun
  obtain ⟨fallback, isFallback, isBalancedFallback⟩ := balanced.fallbackType
  by_cases isEmpty : Text.join "|" types = ""
  · refine ⟨fallback, spell_eq_ok.2 ⟨types, joins, ?_⟩, isBalancedFallback⟩
    rw [written, if_pos isEmpty, isFallback]
  · refine ⟨_, spell_eq_ok.2 ⟨types, joins, ?_⟩, isBalanced_join each⟩
    rw [written, if_neg isEmpty]

/-! ## Signatures that are left open -/

/-- When a type that has to be given has one result, it is written as that result. -/
theorem joined_eq_singleton (able : speller.dialect.CanSpell)
    (once : speller.dialect.opaqueTypes.Nodup) {documented : String} (owned : site.owner.IsText)
    (required : site.isOptional = false) {only : String}
    (single : ∀ type, speller.IsResult (.text documented) site type ↔ type = only) :
    speller.joined (.text documented) site = .ok [only] := by
  obtain ⟨_, types, _, joins, _⟩ := exists_joined able (.inl (isText_text documented)) owned
  obtain ⟨_, _, distinct, _, _⟩ := exists_spellings_of_joined joins
  have few : (speller.opaqueResults (.text documented) site).Subsingleton := by
    rintro first ⟨isFirst, _⟩ second ⟨isSecond, _⟩
    rw [(single first).1 isFirst, (single second).1 isSecond]
  have members (type : String) : type ∈ types ↔ type ∈ [only] := by
    have gainsNothing : ¬speller.dialect.Gains site.isOptional type := fun gains =>
      absurd (required.symm.trans gains.1) nofun
    rw [(mem_joined_iff once joins).1 few, single, or_iff_left gainsNothing, List.mem_singleton]
  rw [joins, List.perm_singleton.1
    ((List.perm_ext_iff_of_nodup distinct (List.nodup_singleton only)).2 members)]

/-- The parameters of a documented type that is read as one signature and has no substitution. -/
structure IsSignature (speller : Speller) (parameters : String) : Prop where
  reads : ReadsAsOne ("function" ++ ("(" ++ parameters))
  unbracketed : splitBrackets ("function" ++ ("(" ++ parameters)) =
    ("function" ++ ("(" ++ parameters), 0)
  free : speller.dialect.substitutions.get? ("function" ++ ("(" ++ parameters)) = none

/-- Without an override, a signature is spelled as it is, but for its first word. -/
theorem IsSignature.spellAlternative {parameters : String}
    (signature : speller.IsSignature parameters) (isLong : parameters ≠ ")")
    (kept : speller.dialect.overrideOf (.text ("function" ++ ("(" ++ parameters))) site =
      .ok .null) :
    speller.spellAlternative (.text ("function" ++ ("(" ++ parameters))) site =
      .ok [.text (speller.dialect.callableWord ++ ("(" ++ parameters))] := by
  have isKnown : speller.known.contains ("function" ++ ("(" ++ parameters)) = true :=
    Known.contains_iff.2 (.inr (Known.beginsWith_signature parameters))
  have spellsOne : speller.spellSubstitute 0 ("function" ++ ("(" ++ parameters)) =
      .ok (.text (speller.dialect.callableWord ++ ("(" ++ parameters))) := by
    simp only [spellSubstitute, signature.unbracketed, isKnown, Bool.not_true, Bool.and_false,
      Bool.false_eq_true, if_false, Dialect.spellKept,
      Dialect.spellFunction_signature isLong]
    rfl
  have standsForItself : speller.standIn ("function" ++ ("(" ++ parameters)) =
      .text ("function" ++ ("(" ++ parameters)) := by
    rw [standIn, signature.free]
    rfl
  have read : alternatives (.text ("function" ++ ("(" ++ parameters))) =
      .ok ["function" ++ ("(" ++ parameters)] := congrArg Except.ok signature.reads
  rw [spellAlternative_of_kept kept, signature.unbracketed, standsForItself, read, Outcome.ok_bind,
    List.mapM_cons, spellsOne]
  rfl

/-- A signature is written as it is, but for its first word, where it has to be given and is not
overridden. -/
theorem IsSignature.spell {parameters : String} (signature : speller.IsSignature parameters)
    (isLong : parameters ≠ ")") (able : speller.dialect.CanSpell)
    (once : speller.dialect.opaqueTypes.Nodup)
    (owned : site.owner.IsText) (required : site.isOptional = false)
    (kept : speller.dialect.overrideOf (.text ("function" ++ ("(" ++ parameters))) site =
      .ok .null) :
    speller.spell (.text ("function" ++ ("(" ++ parameters))) site =
      .ok (.text (speller.dialect.callableWord ++ ("(" ++ parameters))) := by
  have read : alternatives (.text ("function" ++ ("(" ++ parameters))) =
      .ok ["function" ++ ("(" ++ parameters)] := congrArg Except.ok signature.reads
  have spells := signature.spellAlternative isLong kept
  have single (type : String) :
      speller.IsResult (.text ("function" ++ ("(" ++ parameters))) site type ↔
        type = speller.dialect.callableWord ++ ("(" ++ parameters) := by
    constructor
    · rintro ⟨_, readToo, raw, among, _, spellsToo, inside⟩
      obtain rfl := Except.ok.inj (read.symm.trans readToo)
      obtain rfl := List.mem_singleton.1 among
      obtain rfl := Except.ok.inj (spells.symm.trans spellsToo)
      exact Value.text.inj (List.mem_singleton.1 inside)
    · rintro rfl
      exact ⟨_, read, _, List.mem_singleton_self _, _, spells, List.mem_singleton_self _⟩
  refine spell_eq_ok.2 ⟨_, joined_eq_singleton able once owned required single, ?_⟩
  have nonempty : speller.dialect.callableWord ++ ("(" ++ parameters) ≠ "" := by
    intro isEmpty
    simpa using congrArg String.toList isEmpty
  exact if_neg nonempty

end Types.Speller

end ApiStubs
