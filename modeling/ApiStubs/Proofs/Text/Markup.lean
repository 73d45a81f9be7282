import ApiStubs.Text.Markup
import Mathlib.Data.List.Basic

/-!
# Tags inside tags

The tags of a text are removed in one pass, and what is left is not read again. Where the angle
brackets of a text are not nested, no tag is left. A bracket that opens around other tags is
ordinary text on the way, as it is not closed before the next one opens; when the tags inside it are
gone, nothing keeps it apart from the bracket that closes it.

- `tagInduction` goes through a text as its tags are removed.
- `holdsTag_removeTags_iff` says which texts a tag is left of: those in which a tag is nested.
- `removeTags_eq_self_iff` says that removing tags changes exactly the texts that hold one.
-/

namespace ApiStubs.Text

/-- Characters without an angle bracket. -/
def IsFlat (chars : List Char) : Prop :=
  '<' ∉ chars ∧ '>' ∉ chars

instance (chars : List Char) : Decidable (IsFlat chars) :=
  inferInstanceAs (Decidable (_ ∧ _))

/-- Somewhere stands a tag: an opening angle bracket, characters that are no angle brackets, and a
closing one. -/
def HoldsTag (chars : List Char) : Prop :=
  ∃ before inside after, chars = before ++ '<' :: (inside ++ '>' :: after) ∧ IsFlat inside

/-- Tags with other characters around them, but no angle bracket outside of the tags. -/
inductive IsTagged : List Char → Prop
  | nil : IsTagged []
  | char {char : Char} {rest : List Char} (opensNot : char ≠ '<') (closesNot : char ≠ '>')
      (later : IsTagged rest) : IsTagged (char :: rest)
  | tag {inside rest : List Char} (flat : IsFlat inside) (later : IsTagged rest) :
      IsTagged ('<' :: (inside ++ '>' :: rest))

/-- Somewhere angle brackets stand around tags. -/
def HoldsNestedTag (chars : List Char) : Prop :=
  ∃ before inside after, chars = before ++ '<' :: (inside ++ '>' :: after) ∧
    IsTagged inside ∧ HoldsTag inside

/-- The first angle bracket is a closing one. -/
def ClosesFirst (chars : List Char) : Prop :=
  ∃ inside after, chars = inside ++ '>' :: after ∧ IsFlat inside

/-- The first angle bracket outside of tags is a closing one. -/
def ClosesTagged (chars : List Char) : Prop :=
  ∃ inside after, chars = inside ++ '>' :: after ∧ IsTagged inside

/-! ## The first character -/

/-- Characters are flat when the first and the others are no angle brackets. -/
theorem isFlat_cons {char : Char} {rest : List Char} :
    IsFlat (char :: rest) ↔ (char ≠ '<' ∧ char ≠ '>') ∧ IsFlat rest := by
  simp only [IsFlat, List.mem_cons, not_or, ne_comm (a := char), ne_eq]
  exact and_and_and_comm

/-- What a bracket that closes first stands behind is flat, and unique. -/
theorem eq_of_isFlat_append {inside other after rest : List Char} (flat : IsFlat inside)
    (flatOther : IsFlat other) (same : inside ++ '>' :: after = other ++ '>' :: rest) :
    inside = other ∧ after = rest := by
  induction inside generalizing other with
  | nil =>
      cases other with
      | nil => exact ⟨rfl, (List.cons.inj same).2⟩
      | cons char more => exact absurd (List.cons.inj same).1.symm (isFlat_cons.1 flatOther).1.2
  | cons char more inductionHypothesis =>
      cases other with
      | nil => exact absurd (List.cons.inj same).1 (isFlat_cons.1 flat).1.2
      | cons first others =>
          obtain ⟨rfl, sameRest⟩ := List.cons.inj same
          obtain ⟨rfl, rfl⟩ :=
            inductionHypothesis (isFlat_cons.1 flat).2 (isFlat_cons.1 flatOther).2 sameRest
          exact ⟨rfl, rfl⟩

/-- The first bracket closes when the first character does, or does not open and a closing one comes
first behind it. -/
theorem closesFirst_cons {char : Char} {rest : List Char} :
    ClosesFirst (char :: rest) ↔ char = '>' ∨ char ≠ '<' ∧ ClosesFirst rest := by
  constructor
  · rintro ⟨inside, after, whole, flat⟩
    cases inside with
    | nil => exact .inl (List.cons.inj whole).1
    | cons first more =>
        obtain ⟨rfl, rfl⟩ := List.cons.inj whole
        obtain ⟨⟨opensNot, _⟩, flatMore⟩ := isFlat_cons.1 flat
        exact .inr ⟨opensNot, more, after, rfl, flatMore⟩
  · rintro (rfl | ⟨opensNot, inside, after, rfl, flat⟩)
    · exact ⟨[], rest, rfl, by decide⟩
    · by_cases closes : char = '>'
      · exact ⟨[], _, by rw [closes]; rfl, by decide⟩
      · exact ⟨char :: inside, after, rfl, isFlat_cons.2 ⟨⟨opensNot, closes⟩, flat⟩⟩

/-- A tag begins with the first character, or stands in the rest. -/
theorem holdsTag_cons {char : Char} {rest : List Char} :
    HoldsTag (char :: rest) ↔ char = '<' ∧ ClosesFirst rest ∨ HoldsTag rest := by
  constructor
  · rintro ⟨before, inside, after, whole, flat⟩
    cases before with
    | nil =>
        obtain ⟨rfl, rfl⟩ := List.cons.inj whole
        exact .inl ⟨rfl, inside, after, rfl, flat⟩
    | cons first more =>
        obtain ⟨rfl, rfl⟩ := List.cons.inj whole
        exact .inr ⟨more, inside, after, rfl, flat⟩
  · rintro (⟨rfl, inside, after, rfl, flat⟩ | ⟨before, inside, after, rfl, flat⟩)
    · exact ⟨[], inside, after, rfl, flat⟩
    · exact ⟨char :: before, inside, after, rfl, flat⟩

/-- In front of a character that is no opening bracket, nothing changes about a closing one outside
of tags, unless that character is one. -/
theorem closesTagged_cons {char : Char} (opensNot : char ≠ '<') {rest : List Char} :
    ClosesTagged (char :: rest) ↔ char = '>' ∨ ClosesTagged rest := by
  constructor
  · rintro ⟨inside, after, whole, tagged⟩
    cases tagged with
    | nil => exact .inl (List.cons.inj whole).1
    | char _ _ later =>
        obtain ⟨rfl, rfl⟩ := List.cons.inj whole
        exact .inr ⟨_, after, rfl, later⟩
    | tag flat later => exact absurd (List.cons.inj whole).1 opensNot
  · rintro (rfl | ⟨inside, after, rfl, tagged⟩)
    · exact ⟨[], rest, rfl, .nil⟩
    · by_cases closes : char = '>'
      · exact ⟨[], _, by rw [closes]; rfl, .nil⟩
      · exact ⟨char :: inside, after, rfl, .char opensNot closes tagged⟩

/-- A bracket that opens is the first one outside of tags unless it opens a tag, behind which
another closes. -/
theorem closesTagged_open {rest : List Char} :
    ClosesTagged ('<' :: rest) ↔
      ∃ inside after, rest = inside ++ '>' :: after ∧ IsFlat inside ∧ ClosesTagged after := by
  constructor
  · rintro ⟨inside, after, whole, tagged⟩
    cases tagged with
    | nil => exact absurd (List.cons.inj whole).1 (by decide)
    | char opensNot _ _ => exact absurd (List.cons.inj whole).1.symm opensNot
    | @tag front others flat later =>
        refine ⟨front, others ++ '>' :: after, ?_, flat, others, after, rfl, later⟩
        simpa using (List.cons.inj whole).2
  · rintro ⟨front, _, rfl, flat, inside, after, rfl, tagged⟩
    exact ⟨'<' :: (front ++ '>' :: inside), after, by simp, .tag flat tagged⟩

/-! ## Tags between brackets -/

/-- Between tags and other characters there is a tag, or all is flat. -/
theorem IsTagged.isFlat_or_holdsTag {chars : List Char} (tagged : IsTagged chars) :
    IsFlat chars ∨ HoldsTag chars := by
  induction tagged with
  | nil => exact .inl (by decide)
  | char opensNot closesNot _ inductionHypothesis =>
      rcases inductionHypothesis with flat | holds
      · exact .inl (isFlat_cons.2 ⟨⟨opensNot, closesNot⟩, flat⟩)
      · exact .inr (holdsTag_cons.2 (.inr holds))
  | tag flat _ _ => exact .inr ⟨[], _, _, rfl, flat⟩

/-- Where the first tags are, a bracket opens before one closes. -/
theorem IsTagged.not_closesFirst {chars : List Char} (tagged : IsTagged chars)
    (holds : HoldsTag chars) (rest : List Char) : ¬ ClosesFirst (chars ++ rest) := by
  induction tagged with
  | nil =>
      obtain ⟨before, inside, after, whole, _⟩ := holds
      simp at whole
  | char opensNot closesNot _ inductionHypothesis =>
      have holdsLater := (holdsTag_cons.1 holds).resolve_left fun opens => opensNot opens.1
      rw [List.cons_append, closesFirst_cons]
      rintro (closes | ⟨_, closesLater⟩)
      · exact closesNot closes
      · exact inductionHypothesis holdsLater closesLater
  | tag _ _ _ =>
      rw [List.cons_append, closesFirst_cons]
      rintro (closes | ⟨opensNot, _⟩)
      · exact absurd closes (by decide)
      · exact opensNot rfl

/-- Brackets around tags open with the first character, or stand in the rest. -/
theorem holdsNestedTag_cons {char : Char} {rest : List Char} :
    HoldsNestedTag (char :: rest) ↔
      char = '<' ∧ ¬ ClosesFirst rest ∧ ClosesTagged rest ∨ HoldsNestedTag rest := by
  constructor
  · rintro ⟨before, inside, after, whole, tagged, holds⟩
    cases before with
    | nil =>
        obtain ⟨rfl, rfl⟩ := List.cons.inj whole
        exact .inl ⟨rfl, tagged.not_closesFirst holds _, inside, after, rfl, tagged⟩
    | cons first more =>
        obtain ⟨rfl, rfl⟩ := List.cons.inj whole
        exact .inr ⟨more, inside, after, rfl, tagged, holds⟩
  · rintro (⟨rfl, opensFirst, inside, after, rfl, tagged⟩ |
      ⟨before, inside, after, rfl, tagged, holds⟩)
    · have holds := tagged.isFlat_or_holdsTag.resolve_left fun flat =>
        opensFirst ⟨inside, after, rfl, flat⟩
      exact ⟨[], inside, after, rfl, tagged, holds⟩
    · exact ⟨char :: before, inside, after, rfl, tagged, holds⟩

/-- Characters without an opening bracket add no brackets around tags in front. -/
theorem holdsNestedTag_append {front : List Char} (opensNot : '<' ∉ front) (rest : List Char) :
    HoldsNestedTag (front ++ rest) ↔ HoldsNestedTag rest := by
  induction front with
  | nil => rfl
  | cons char more inductionHypothesis =>
      rw [List.mem_cons, not_or] at opensNot
      rw [List.cons_append, holdsNestedTag_cons, inductionHypothesis opensNot.2]
      exact or_iff_right fun opens => opensNot.1 opens.1.symm

/-! ## The pass from left to right -/

/-- Behind an open bracket, flat characters and the closing bracket are left out. -/
theorem removeTagsAfter_closed {inside : List Char} (flat : IsFlat inside)
    (held after : List Char) :
    removeTagsAfter (some held) (inside ++ '>' :: after) = removeTagsAfter none after := by
  induction inside generalizing held with
  | nil => simp [removeTagsAfter]
  | cons char more inductionHypothesis =>
      obtain ⟨⟨opensNot, closesNot⟩, flatMore⟩ := isFlat_cons.1 flat
      rw [List.cons_append, removeTagsAfter, if_neg opensNot, if_neg closesNot,
        inductionHypothesis flatMore]

/-- A bracket that another opens behind, or the end follows, is kept with what stands behind it. -/
theorem removeTagsAfter_unclosed {rest : List Char} (opensFirst : ¬ ClosesFirst rest)
    (held : List Char) :
    removeTagsAfter (some held) rest = '<' :: held.reverse ++ removeTagsAfter none rest := by
  induction rest generalizing held with
  | nil => simp [removeTagsAfter]
  | cons char more inductionHypothesis =>
      rw [closesFirst_cons, not_or, not_and] at opensFirst
      by_cases opens : char = '<'
      · simp [removeTagsAfter, opens]
      · have later := inductionHypothesis (opensFirst.2 opens) (char :: held)
        simp [removeTagsAfter, opens, opensFirst.1, later]

/-- Nothing is left of nothing. -/
@[simp] theorem removeTags_nil : removeTags [] = [] := rfl

/-- A character that is no opening bracket is kept. -/
theorem removeTags_cons {char : Char} (opensNot : char ≠ '<') (rest : List Char) :
    removeTags (char :: rest) = char :: removeTags rest :=
  if_neg opensNot

/-- A tag is left out. -/
theorem removeTags_tag {inside : List Char} (flat : IsFlat inside) (rest : List Char) :
    removeTags ('<' :: (inside ++ '>' :: rest)) = removeTags rest := by
  rw [removeTags, removeTagsAfter, if_pos rfl, removeTagsAfter_closed flat]
  rfl

/-- A bracket that opens no tag is kept. -/
theorem removeTags_unclosed {rest : List Char} (opensFirst : ¬ ClosesFirst rest) :
    removeTags ('<' :: rest) = '<' :: removeTags rest := by
  rw [removeTags, removeTagsAfter, if_pos rfl, removeTagsAfter_unclosed opensFirst]
  rfl

/-- What holds of no characters, and is kept by a character that is no opening bracket, by a tag and
by a bracket that opens no tag in front, holds of all characters. -/
@[elab_as_elim] theorem tagInduction {motive : List Char → Prop} (nil : motive [])
    (char : ∀ char rest, char ≠ '<' → motive rest → motive (char :: rest))
    (tag : ∀ inside rest, IsFlat inside → motive rest → motive ('<' :: (inside ++ '>' :: rest)))
    (unclosed : ∀ rest, ¬ ClosesFirst rest → motive rest → motive ('<' :: rest)) :
    ∀ chars, motive chars
  | [] => nil
  | first :: rest => by
      by_cases opens : first = '<'
      · subst opens
        by_cases closes : ClosesFirst rest
        · obtain ⟨inside, after, whole, flat⟩ := closes
          rw [whole]
          exact tag inside after flat (tagInduction nil char tag unclosed after)
        · exact unclosed rest closes (tagInduction nil char tag unclosed rest)
      · exact char first rest opens (tagInduction nil char tag unclosed rest)
termination_by chars => chars.length
decreasing_by
  all_goals simp only [List.length_cons, *, List.length_append]; omega

/-- Removing tags adds nothing and keeps the order. -/
theorem removeTags_sublist (chars : List Char) : (removeTags chars).Sublist chars := by
  induction chars using tagInduction with
  | nil => exact .slnil
  | char first rest opensNot inductionHypothesis =>
      rw [removeTags_cons opensNot]
      exact inductionHypothesis.cons_cons first
  | tag inside rest flat inductionHypothesis =>
      rw [removeTags_tag flat]
      exact ((inductionHypothesis.cons '>').trans (List.sublist_append_right ..)).cons '<'
  | unclosed rest opensFirst inductionHypothesis =>
      rw [removeTags_unclosed opensFirst]
      exact inductionHypothesis.cons_cons '<'

/-- A bracket closes first of what is left exactly when it does so outside of tags. -/
theorem closesFirst_removeTags_iff {chars : List Char} :
    ClosesFirst (removeTags chars) ↔ ClosesTagged chars := by
  induction chars using tagInduction with
  | nil => simp [ClosesFirst, ClosesTagged]
  | char first rest opensNot inductionHypothesis =>
      rw [removeTags_cons opensNot, closesFirst_cons, closesTagged_cons opensNot,
        inductionHypothesis, and_iff_right opensNot]
  | tag inside rest flat inductionHypothesis =>
      rw [removeTags_tag flat, inductionHypothesis, closesTagged_open]
      constructor
      · exact fun closes => ⟨inside, rest, rfl, flat, closes⟩
      · rintro ⟨other, after, same, flatOther, closes⟩
        rwa [(eq_of_isFlat_append flat flatOther same).2]
  | unclosed rest opensFirst _ =>
      rw [removeTags_unclosed opensFirst, closesFirst_cons, closesTagged_open]
      constructor
      · rintro (closes | ⟨opensNot, _⟩)
        · exact absurd closes (by decide)
        · exact absurd rfl opensNot
      · rintro ⟨inside, after, whole, flat, _⟩
        exact absurd ⟨inside, after, whole, flat⟩ opensFirst

/-- A tag is left exactly of a text in which angle brackets stand around tags. -/
theorem holdsTag_removeTags_iff {chars : List Char} :
    HoldsTag (removeTags chars) ↔ HoldsNestedTag chars := by
  induction chars using tagInduction with
  | nil => simp [HoldsTag, HoldsNestedTag]
  | char first rest opensNot inductionHypothesis =>
      rw [removeTags_cons opensNot, holdsTag_cons, holdsNestedTag_cons, inductionHypothesis]
      simp only [opensNot, false_and]
  | tag inside rest flat inductionHypothesis =>
      have closes : ClosesFirst (inside ++ '>' :: rest) := ⟨inside, rest, rfl, flat⟩
      have opensNot : '<' ∉ inside ++ ['>'] := by
        simpa using flat.1
      have skipped := holdsNestedTag_append opensNot rest
      rw [List.append_assoc, List.singleton_append] at skipped
      rw [removeTags_tag flat, inductionHypothesis, holdsNestedTag_cons, skipped]
      simp only [closes, not_true_eq_false, false_and, and_false, false_or]
  | unclosed rest opensFirst inductionHypothesis =>
      rw [removeTags_unclosed opensFirst, holdsTag_cons, holdsNestedTag_cons, inductionHypothesis,
        closesFirst_removeTags_iff]
      simp only [opensFirst, not_false_eq_true, true_and]

/-- Removing tags leaves a text as it is exactly when it holds none. -/
theorem removeTags_eq_self_iff {chars : List Char} :
    removeTags chars = chars ↔ ¬ HoldsTag chars := by
  induction chars using tagInduction with
  | nil => simp [HoldsTag]
  | char first rest opensNot inductionHypothesis =>
      rw [removeTags_cons opensNot, holdsTag_cons, List.cons_inj_right, inductionHypothesis]
      simp only [opensNot, false_and, false_or]
  | tag inside rest flat _ =>
      have holds : HoldsTag ('<' :: (inside ++ '>' :: rest)) := ⟨[], inside, rest, rfl, flat⟩
      refine iff_of_false (fun same => ?_) (not_not_intro holds)
      have shorter := (removeTags_sublist rest).length_le
      rw [← removeTags_tag flat rest, same, List.length_cons, List.length_append,
        List.length_cons] at shorter
      omega
  | unclosed rest opensFirst inductionHypothesis =>
      rw [removeTags_unclosed opensFirst, holdsTag_cons, List.cons_inj_right, inductionHypothesis]
      simp only [opensFirst, and_false, false_or]

instance (chars : List Char) : Decidable (HoldsTag chars) :=
  decidable_of_iff (removeTags chars ≠ chars) (not_iff_comm.1 removeTags_eq_self_iff.symm)

instance (chars : List Char) : Decidable (HoldsNestedTag chars) :=
  decidable_of_iff (HoldsTag (removeTags chars)) holdsTag_removeTags_iff

/-! ## Plain texts -/

/-- The plain text of a text without ampersands is what is left of it without its tags. -/
theorem toList_plainOf {text : String} (absent : '&' ∉ text.toList) :
    (plainOf text).toList = removeTags text.toList := by
  rw [plainOf, String.toList_ofList, CharacterReference.expand_of_not_mem]
  exact fun member => absent ((removeTags_sublist _).mem member)

/-- The plain text of a text is that of its content, also when it is empty. -/
theorem plain_text (text : String) : plain (.text text) = .ok (plainOf text) := by
  rw [plain]
  split
  · rfl
  · next missing =>
      obtain rfl : text = "" := by simpa [Value.isGiven] using missing
      rw [plainOf, String.toList_empty, removeTags_nil, CharacterReference.expand]

/-- The plain text of a text without ampersands holds a tag exactly when the text has angle brackets
around tags, and exactly then it is not its own plain text. -/
theorem plain_text_holds_tag_iff {text : String} (absent : '&' ∉ text.toList) :
    ∃ plainText, plain (.text text) = .ok plainText ∧
      (HoldsTag plainText.toList ↔ HoldsNestedTag text.toList) ∧
      (plain (.text plainText) = .ok plainText ↔ ¬ HoldsNestedTag text.toList) := by
  have left := toList_plainOf absent
  have absentLeft : '&' ∉ (plainOf text).toList := by
    rw [left]
    exact fun member => absent ((removeTags_sublist _).mem member)
  have holds : HoldsTag (plainOf text).toList ↔ HoldsNestedTag text.toList := by
    rw [left, holdsTag_removeTags_iff]
  refine ⟨plainOf text, plain_text text, holds, ?_⟩
  rw [plain_text, ← holds, ← removeTags_eq_self_iff, ← toList_plainOf absentLeft,
    String.toList_inj, Except.ok.injEq]

/-- Nothing is left of the tags of a text in which none stands inside another. -/
theorem plain_text_of_tags_apart :
    '&' ∉ "Use <code>go.get</code> or <a href=\"#get\">more</a>".toList ∧
      ∃ plainText,
        plain (.text "Use <code>go.get</code> or <a href=\"#get\">more</a>") = .ok plainText ∧
        ¬ HoldsTag plainText.toList ∧ plain (.text plainText) = .ok plainText := by
  have absent : '&' ∉ "Use <code>go.get</code> or <a href=\"#get\">more</a>".toList := by decide
  have apart : ¬ HoldsNestedTag "Use <code>go.get</code> or <a href=\"#get\">more</a>".toList := by
    decide
  obtain ⟨plainText, isPlain, holds, again⟩ := plain_text_holds_tag_iff absent
  exact ⟨absent, plainText, isPlain, holds.not.2 apart, again.2 apart⟩

/-- A tag with another in one of its attributes is left over, and only gone when the plain text is
read once more. -/
theorem plain_text_of_tag_in_attribute :
    '&' ∉ "See <a title=\"the <b> tag\">more</a>".toList ∧
      plain (.text "See <a title=\"the <b> tag\">more</a>") =
        .ok "See <a title=\"the  tag\">more" ∧
      HoldsTag "See <a title=\"the  tag\">more".toList ∧
      plain (.text "See <a title=\"the  tag\">more") = .ok "See more" := by
  have evaluated {text plainText : String} (absent : '&' ∉ text.toList)
      (removed : removeTags text.toList = plainText.toList) :
      plain (.text text) = .ok plainText := by
    rw [plain_text, ← String.toList_inj.1 ((toList_plainOf absent).trans removed)]
  exact ⟨by decide, evaluated (by decide) (by decide), by decide,
    evaluated (by decide) (by decide)⟩

end ApiStubs.Text
