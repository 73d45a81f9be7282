import ApiStubs.Proofs.Types.Permissive
import ApiStubs.Proofs.Types.Strict

/-!
# Brackets behind a type

Brackets behind a type pass through its spelling. They are taken off before anything is looked up,
so what stands in place of the type, whether it is known and how its functions are written depend on
its base alone; and arrays of arrays are made one dimension after the other, so those of the
documented type can be made when all others have been.

- `splitBrackets_append` and `base_append_brackets` say that a type has one base and one depth.
- `arrayOf_add` says that dimensions can be added one after the other.
- `Speller.spellSubstitute_add` is the step for one alternative, on which the theorem about all of
  them rests.
-/

namespace ApiStubs.Types

open ApiStubs.Value

/-! ## Bases and depths -/

/-- The last pair of brackets stands behind the others. -/
theorem brackets_succ (depth : Nat) : brackets (depth + 1) = brackets depth ++ "[]" := by
  induction depth with
  | zero => rfl
  | succ depth inductionHypothesis =>
      have first : brackets (depth + 2) = "[]" ++ brackets (depth + 1) := rfl
      rw [first, inductionHypothesis, ← String.append_assoc, ← inductionHypothesis]
      rfl

/-- A pair of brackets behind a type adds one to its depth and leaves its base. -/
theorem splitBrackets_append_pair (type : String) :
    splitBrackets (type ++ "[]") = ((splitBrackets type).1, (splitBrackets type).2 + 1) := by
  have pair : "[]".toList = ['[', ']'] := by decide
  simp [splitBrackets, pair, takeBrackets]

/-- Brackets behind a type add to its depth and leave its base. -/
theorem splitBrackets_append (type : String) (depth : Nat) :
    splitBrackets (type ++ brackets depth) =
      ((splitBrackets type).1, (splitBrackets type).2 + depth) := by
  induction depth with
  | zero => rw [brackets, String.append_empty, Nat.add_zero]
  | succ depth inductionHypothesis =>
      rw [brackets_succ, ← String.append_assoc, splitBrackets_append_pair, inductionHypothesis,
        Nat.add_assoc]

/-- What is left of reversed characters, with the brackets behind it that were taken off. -/
theorem reverse_takeBrackets (chars : List Char) :
    (takeBrackets chars).1.reverse ++ (brackets (takeBrackets chars).2).toList = chars.reverse := by
  fun_induction takeBrackets chars with
  | case1 rest inductionHypothesis =>
      have pair : "[]".toList = ['[', ']'] := by decide
      rw [brackets_succ, String.toList_append, ← List.append_assoc, inductionHypothesis, pair]
      simp
  | case2 chars unbracketed => simp [brackets]

/-- A type is its base with the brackets of its depth behind it. -/
theorem base_append_brackets (type : String) :
    (splitBrackets type).1 ++ brackets (splitBrackets type).2 = type := by
  apply String.toList_injective
  rw [splitBrackets, String.toList_append, String.toList_ofList, reverse_takeBrackets,
    List.reverse_reverse]

/-! ## Dimensions -/

/-- Dimensions are added one after the other. -/
theorem arrayOf_add (pattern : String) (type : Value) (first second : Nat) :
    arrayOf pattern type (first + second) =
      arrayOf pattern type first >>= fun members => arrayOf pattern members second := by
  induction first generalizing type with
  | zero => rw [Nat.zero_add, arrayOf, Outcome.ok_bind]
  | succ first inductionHypothesis =>
      rw [Nat.succ_add, arrayOf, arrayOf, bind_assoc]
      simp only [inductionHypothesis]

/-- A pattern with one place has arrays of everything. -/
theorem exists_arrayOf_of_hasOnePlace {pattern : String} (single : Pattern.HasOnePlace pattern)
    (type : Value) (depth : Nat) : ∃ array, arrayOf pattern type depth = .ok array := by
  induction depth generalizing type with
  | zero => exact ⟨type, rfl⟩
  | succ depth inductionHypothesis =>
      obtain ⟨filled, fills⟩ := single.exists_fill type
      rw [arrayOf, fills]
      exact inductionHypothesis (.text filled)

namespace Speller

variable {speller : Speller}

/-- More dimensions around an alternative of a substitution are added behind its own. -/
theorem spellSubstitute_add (outerDepth more : Nat) (type : String) :
    speller.spellSubstitute (outerDepth + more) type =
      speller.spellSubstitute outerDepth type >>= fun spelling =>
        arrayOf speller.dialect.arrayPattern spelling more := by
  simp only [spellSubstitute, Dialect.spellKept, Nat.add_right_comm outerDepth more]
  split
  · exact arrayOf_add ..
  · exact arrayOf_add ..

/-- With a pattern that has one place, every alternative of a substitution has a spelling. -/
theorem exists_spellSubstitute_of_hasOnePlace
    (single : Pattern.HasOnePlace speller.dialect.arrayPattern) (outerDepth : Nat)
    (type : String) : ∃ spelling, speller.spellSubstitute outerDepth type = .ok spelling := by
  simp only [spellSubstitute]
  split
  · exact exists_arrayOf_of_hasOnePlace single ..
  · exact exists_arrayOf_of_hasOnePlace single ..

/-- What stands in place of a base: its substitution, or the base itself. -/
def standIn (speller : Speller) (base : String) : Value :=
  (speller.dialect.substitutions.get? base).getD (.text base)

/-- Without an override, the alternatives of what stands in place of the base are spelled inside the
arrays of the documented type. -/
theorem spellAlternative_of_kept {raw : String} {site : Site}
    (kept : speller.dialect.overrideOf (.text raw) site = .ok .null) :
    speller.spellAlternative (.text raw) site =
      alternatives (speller.standIn (splitBrackets raw).1) >>= fun types =>
        types.mapM (speller.spellSubstitute (splitBrackets raw).2) := by
  rw [spellAlternative, kept]
  rfl

/-- With a pattern that has one place, an alternative without an override has spellings once what
stands in place of its base can be read. -/
theorem exists_spellAlternative_of_hasOnePlace
    (single : Pattern.HasOnePlace speller.dialect.arrayPattern) {raw : String} {site : Site}
    (kept : speller.dialect.overrideOf (.text raw) site = .ok .null) {types : List String}
    (read : alternatives (speller.standIn (splitBrackets raw).1) = .ok types) :
    ∃ spellings, speller.spellAlternative (.text raw) site = .ok spellings := by
  rw [spellAlternative_of_kept kept, read, Outcome.ok_bind]
  exact Outcome.exists_mapM_of_each fun type _ =>
    exists_spellSubstitute_of_hasOnePlace single (splitBrackets raw).2 type

section Brackets

variable {base : String} {depth : Nat} {site : Site}
  (kept : speller.dialect.overrideOf (.text base) site = .ok .null)
  (keptArray : speller.dialect.overrideOf (.text (base ++ brackets depth)) site = .ok .null)

include kept keptArray

/-- The spellings of an alternative with brackets behind it are the arrays of its spellings. -/
theorem spellAlternative_append_brackets_eq_ok {spellings : List Value} :
    speller.spellAlternative (.text (base ++ brackets depth)) site = .ok spellings ↔
      (speller.spellAlternative (.text base) site >>= fun members => members.mapM fun spelling =>
        arrayOf speller.dialect.arrayPattern spelling depth) = .ok spellings := by
  rw [spellAlternative_of_kept kept, spellAlternative_of_kept keptArray, splitBrackets_append,
    bind_assoc]
  cases alternatives (speller.standIn (splitBrackets base).1) with
  | error fault => rfl
  | ok types =>
      have added : speller.spellSubstitute ((splitBrackets base).2 + depth) = fun type =>
          speller.spellSubstitute (splitBrackets base).2 type >>= fun spelling =>
            arrayOf speller.dialect.arrayPattern spelling depth :=
        funext fun type => spellSubstitute_add ..
      rw [Outcome.ok_bind, Outcome.ok_bind, added]
      exact Outcome.mapM_bind_eq_ok

/-- With a pattern that has one place, the spellings of an alternative with brackets behind it have
the outcome of the arrays of its spellings. -/
theorem spellAlternative_append_brackets_of_hasOnePlace
    (single : Pattern.HasOnePlace speller.dialect.arrayPattern) :
    speller.spellAlternative (.text (base ++ brackets depth)) site =
      speller.spellAlternative (.text base) site >>= fun members => members.mapM fun spelling =>
        arrayOf speller.dialect.arrayPattern spelling depth := by
  cases read : alternatives (speller.standIn (splitBrackets base).1) with
  | error fault =>
      rw [spellAlternative_of_kept kept, spellAlternative_of_kept keptArray, splitBrackets_append,
        read]
      rfl
  | ok types =>
      have readArray : alternatives
          (speller.standIn (splitBrackets (base ++ brackets depth)).1) = .ok types := by
        rw [splitBrackets_append, read]
      obtain ⟨spellings, spelled⟩ :=
        exists_spellAlternative_of_hasOnePlace single keptArray readArray
      rw [spelled, (spellAlternative_append_brackets_eq_ok kept keptArray).1 spelled]

end Brackets

/-- Brackets behind a documented alternative are put behind its spellings, in their order: unless
one of the two has an override, the spellings with the brackets are the arrays of the spellings
without them. With a pattern that has one place, such as one plain place between texts without
percent signs, both computations have the same outcome, which is a list of spellings when texts
stand in place of types. And the pattern of bracketed arrays undoes the taking off of brackets. -/
theorem spellAlternative_commutes_with_brackets (speller : Speller) :
    (∀ before after : String, '%' ∉ before.toList → '%' ∉ after.toList →
      Pattern.HasOnePlace (before ++ "%s" ++ after)) ∧
    (∀ (base : String) (depth : Nat) (site : Site),
      speller.dialect.overrideOf (.text base) site = .ok .null →
      speller.dialect.overrideOf (.text (base ++ brackets depth)) site = .ok .null →
        (∀ spellings,
          speller.spellAlternative (.text (base ++ brackets depth)) site = .ok spellings ↔
            ∃ members, speller.spellAlternative (.text base) site = .ok members ∧
              members.mapM (fun spelling => arrayOf speller.dialect.arrayPattern spelling depth) =
                .ok spellings) ∧
        (Pattern.HasOnePlace speller.dialect.arrayPattern →
          speller.spellAlternative (.text (base ++ brackets depth)) site = (do
            (← speller.spellAlternative (.text base) site).mapM fun spelling =>
              arrayOf speller.dialect.arrayPattern spelling depth) ∧
          (speller.dialect.substitutions.All IsText →
            ∃ spellings,
              speller.spellAlternative (.text (base ++ brackets depth)) site = .ok spellings))) ∧
    ∀ type, arrayOf bracketPattern (.text (splitBrackets type).1) (splitBrackets type).2 =
      .ok (.text type) := by
  refine ⟨fun _ _ => Pattern.hasOnePlace_between, fun base depth site kept keptArray =>
    ⟨fun spellings => ?_, fun single => ⟨?_, ?_⟩⟩, fun type => ?_⟩
  · rw [spellAlternative_append_brackets_eq_ok kept keptArray, Outcome.bind_eq_ok]
  · exact spellAlternative_append_brackets_of_hasOnePlace kept keptArray single
  · intro areTexts
    obtain ⟨content, stands⟩ :=
      areTexts.getD (isText_text (splitBrackets (base ++ brackets depth)).1)
        (splitBrackets (base ++ brackets depth)).1
    have read : alternatives (speller.standIn (splitBrackets (base ++ brackets depth)).1) =
        .ok (trimPieces (textPieces content)) := by
      rw [standIn, stands]
      rfl
    exact exists_spellAlternative_of_hasOnePlace single keptArray read
  · rw [arrayOf_bracketPattern, base_append_brackets]

/-- A substitution of two types, one of them an array, inside two more dimensions in Teal. -/
theorem spellAlternative_of_arrays_of_lists :
    let speller : Speller :=
      ⟨{ Settings.defaultTeal with
        substitutions := Settings.textTable [("vec_list", "vector3[]|hash")] }, ⟨[]⟩⟩
    let site : Site := { owner := .text "go.get", name := .text "id" }
    speller.dialect.overrideOf (.text "vec_list") site = .ok .null ∧
      speller.dialect.overrideOf (.text "vec_list[][]") site = .ok .null ∧
      Pattern.HasOnePlace speller.dialect.arrayPattern ∧
      speller.dialect.substitutions.All IsText ∧
      speller.spellAlternative (.text "vec_list") site =
        .ok [.text "\x7bvector3\x7d", .text "hash"] ∧
      speller.spellAlternative (.text "vec_list[][]") site =
        .ok [.text "\x7b\x7b\x7bvector3\x7d\x7d\x7d", .text "\x7b\x7bhash\x7d\x7d"] := by
  intro speller site
  have kept (raw : String) : speller.dialect.overrideOf (.text raw) site = .ok .null := rfl
  obtain ⟨between, commutes, _⟩ := spellAlternative_commutes_with_brackets speller
  have single : Pattern.HasOnePlace speller.dialect.arrayPattern :=
    between "\x7b" "\x7d" (by decide) (by decide)
  have read : alternatives (speller.standIn (splitBrackets "vec_list").1) =
      .ok ["vector3[]", "hash"] := by
    have base : splitBrackets "vec_list" = ("vec_list", 0) := by decide
    rw [base]
    exact congrArg Except.ok (by decide : trimPieces (textPieces "vector3[]|hash") = _)
  have members : speller.spellAlternative (.text "vec_list") site =
      .ok [.text "\x7bvector3\x7d", .text "hash"] := by
    rw [spellAlternative_of_kept (kept _), read, Outcome.ok_bind]
    refine Outcome.mapM_eq_ok.2 (.cons ?_ (.cons ?_ .nil))
    · exact arrayOf_tablePattern "vector3" 1
    · exact arrayOf_tablePattern "hash" 0
  have areTexts : speller.dialect.substitutions.All IsText := Settings.all_isText_textTable _
  obtain ⟨arrays, exists_spellings⟩ := (commutes "vec_list" 2 site (kept _) (kept _)).2 single
  obtain ⟨spellings, spelled⟩ := exists_spellings areTexts
  have whole : "vec_list" ++ brackets 2 = "vec_list[][]" := by decide
  rw [members, spelled, Outcome.ok_bind] at arrays
  rw [whole] at spelled
  refine ⟨kept _, kept _, single, areTexts, members, spelled.trans (arrays.trans ?_)⟩
  exact Outcome.mapM_eq_ok.2
    (.cons (arrayOf_tablePattern _ 2) (.cons (arrayOf_tablePattern _ 2) .nil))

end Speller

end ApiStubs.Types
