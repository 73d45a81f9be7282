import ApiStubs.Proofs.Outcome
import ApiStubs.Settings.Correction
import ApiStubs.StubWriter

/-!
# What an override reaches

An override is written for one occurrence of a documented type in an element: a side of the
signature, the type, and the name of what has it. Its key glues these with underscores, and types
and names hold underscores themselves. So

- two occurrences have one key when they are the same, or when the type of one goes on with the
  start of the other's name (`Occurrence.key_eq_iff`), and
- an override reaches the occurrences that have its key, and leaves the type of everything else as
  it was (`override_reaches_iff`).

Nothing else is reached where the types, or the names, hold no underscore
(`Occurrence.Borrows.underscores`).
-/

namespace ApiStubs.Types

/-- Two cuts of one sequence at a separator are the same, or one of them lies behind the other. -/
theorem append_cons_eq_append_cons_iff {α : Type} {separator : α}
    {left right otherLeft otherRight : List α} :
    left ++ separator :: right = otherLeft ++ separator :: otherRight ↔
      (left = otherLeft ∧ right = otherRight) ∨
        (∃ between, left = otherLeft ++ separator :: between ∧
          otherRight = between ++ separator :: right) ∨
        ∃ between, otherLeft = left ++ separator :: between ∧
          right = between ++ separator :: otherRight := by
  constructor
  · intro same
    rcases List.append_eq_append_iff.1 same with ⟨more, rfl, behind⟩ | ⟨more, rfl, behind⟩
    · cases more with
      | nil => exact .inl ⟨(List.append_nil left).symm, (List.cons.inj behind).2⟩
      | cons first between =>
          obtain ⟨rfl, rfl⟩ := List.cons.inj behind
          exact .inr (.inr ⟨between, rfl, rfl⟩)
    · cases more with
      | nil => exact .inl ⟨List.append_nil otherLeft, (List.cons.inj behind).2.symm⟩
      | cons first between =>
          obtain ⟨rfl, rfl⟩ := List.cons.inj behind
          exact .inr (.inl ⟨between, rfl, rfl⟩)
  · rintro (⟨rfl, rfl⟩ | ⟨between, rfl, rfl⟩ | ⟨between, rfl, rfl⟩)
    · rfl
    · rw [List.append_assoc, List.cons_append]
    · rw [List.append_assoc, List.cons_append]

/-- A documented type where it occurs in an element: on a side of the signature, under the name of
what has it. -/
@[ext]
structure Occurrence where
  side : Side
  type : String
  name : String
  deriving DecidableEq, Repr

namespace Occurrence

/-- Where an alternative of a documented type occurs. -/
def of (raw : String) (site : Site) : Occurrence :=
  { side := site.side, type := raw, name := site.name.display }

/-- The key of an override that is written for an occurrence. -/
def key (occurrence : Occurrence) : String :=
  Dialect.overrideKey (.text occurrence.type)
    { side := occurrence.side, name := .text occurrence.name }

/-- The type of an occurrence goes on, behind an underscore, with the start of another's name, which
is left with the rest. -/
def Borrows (occurrence other : Occurrence) : Prop :=
  occurrence.side = other.side ∧
    ∃ start, occurrence.type = other.type ++ "_" ++ start ∧
      other.name = start ++ "_" ++ occurrence.name

/-- The key under which the override of an alternative is looked up. -/
theorem key_of (raw : String) (site : Site) :
    (of raw site).key = Dialect.overrideKey (.text raw) site := rfl

/-- Keys are equal when they are those of one side and the rest of them is. -/
theorem key_eq_iff_glued {first second : Occurrence} :
    first.key = second.key ↔ first.side = second.side ∧
      first.type.toList ++ '_' :: first.name.toList =
        second.type.toList ++ '_' :: second.name.toList := by
  obtain ⟨side, type, name⟩ := first
  obtain ⟨otherSide, otherType, otherName⟩ := second
  cases side <;> cases otherSide <;>
    simp [key, Dialect.overrideKey, Side.word, toString, ← String.toList_inj]

/-- What an occurrence borrows, in characters. -/
theorem borrows_iff {occurrence other : Occurrence} :
    occurrence.Borrows other ↔ occurrence.side = other.side ∧
      ∃ start, occurrence.type.toList = other.type.toList ++ '_' :: start ∧
        other.name.toList = start ++ '_' :: occurrence.name.toList := by
  refine and_congr_right fun _ => ⟨?_, ?_⟩
  · rintro ⟨start, goesOn, begins⟩
    exact ⟨start.toList, by simp [goesOn], by simp [begins]⟩
  · rintro ⟨start, goesOn, begins⟩
    exact ⟨String.ofList start, String.toList_injective (by simp [goesOn]),
      String.toList_injective (by simp [begins])⟩

/-- Two occurrences have one key exactly when they are the same or the type of one borrows from the
name of the other. -/
theorem key_eq_iff {first second : Occurrence} :
    first.key = second.key ↔ first = second ∨ first.Borrows second ∨ second.Borrows first := by
  have same : first = second ↔ first.side = second.side ∧
      first.type.toList = second.type.toList ∧ first.name.toList = second.name.toList := by
    simp only [String.toList_inj]
    obtain ⟨side, type, name⟩ := first
    simp [Occurrence.ext_iff]
  rw [key_eq_iff_glued, append_cons_eq_append_cons_iff, same, borrows_iff, borrows_iff,
    eq_comm (a := second.side), and_or_left, and_or_left]

/-- Only a type with an underscore borrows, and only from a name with one. -/
theorem Borrows.underscores {occurrence other : Occurrence} (borrows : occurrence.Borrows other) :
    '_' ∈ occurrence.type.toList ∧ '_' ∈ other.name.toList := by
  obtain ⟨_, start, goesOn, begins⟩ := borrows_iff.1 borrows
  simp [goesOn, begins]

end Occurrence

/-! ## Tables with one override more -/

section Corrected

variable (dialect : Dialect) (owner : String) (written : Occurrence) (replacement : Value)

/-- An alternative with the key of an override is overridden by it. -/
theorem overrideOf_override_self {raw : String} {site : Site} (owned : site.owner = .text owner)
    (reached : (Occurrence.of raw site).key = written.key) :
    ((DialectEdit.override owner written.key replacement).apply dialect).overrideOf
      (.text raw) site = .ok replacement := by
  rw [Dialect.overrideOf, owned, DialectEdit.apply, Value.lookupIn, Outcome.ok_bind,
    Table.get?_modify_self, ← reached, Occurrence.key_of]
  simp only [Table.get?_set_self]
  rfl

/-- An alternative with another key, or of another element, is overridden as before. -/
theorem overrideOf_override_of_ne {raw : String} {site : Site}
    (missed : site.owner = .text owner → (Occurrence.of raw site).key ≠ written.key) :
    ((DialectEdit.override owner written.key replacement).apply dialect).overrideOf
      (.text raw) site = dialect.overrideOf (.text raw) site := by
  rw [Dialect.overrideOf, Dialect.overrideOf, DialectEdit.apply]
  cases isOwner : site.owner with
  | text other =>
      rw [Value.lookupIn, Value.lookupIn, Outcome.ok_bind, Outcome.ok_bind]
      by_cases same : other = owner
      · subst same
        rw [Table.get?_modify_self]
        simp only [Table.get?_set_of_ne (missed isOwner), ← Occurrence.key_of]
        cases Table.get? dialect.overrides other <;> rfl
      · rw [Table.get?_modify_of_ne same]
  | _ => rfl

end Corrected

namespace Speller

/-- The speller with one override more, for an occurrence in an element. -/
def overriding (speller : Speller) (owner : String) (written : Occurrence) (replacement : Value) :
    Speller :=
  { speller with
    dialect := (DialectEdit.override owner written.key replacement).apply speller.dialect }

/-- A documented type at a site of an element to whose alternatives an override does not belong. -/
def Misses (documented : Value) (site : Site) (owner : String) (written : Occurrence) : Prop :=
  site.owner = .text owner → ∀ pieces, alternatives documented = .ok pieces →
    ∀ raw ∈ pieces, (Occurrence.of raw site).key ≠ written.key

variable {speller : Speller} {owner : String} {written : Occurrence} {replacement : Value}

/-- An alternative that is overridden as before is spelled as before. -/
theorem spellAlternative_overriding {raw : String} {site : Site}
    (missed : site.owner = .text owner → (Occurrence.of raw site).key ≠ written.key) :
    (speller.overriding owner written replacement).spellAlternative (.text raw) site =
      speller.spellAlternative (.text raw) site := by
  have kept := overrideOf_override_of_ne speller.dialect owner written replacement missed
  rw [spellAlternative, spellAlternative, overriding, kept]
  rfl

/-- A documented type none of whose alternatives is reached is written as before. -/
theorem spell_overriding {documented : Value} {site : Site}
    (missed : Misses documented site owner written) :
    (speller.overriding owner written replacement).spell documented site =
      speller.spell documented site := by
  have same : (speller.overriding owner written replacement).spellings documented site =
      speller.spellings documented site := by
    rw [spellings, spellings]
    cases read : alternatives documented with
    | error fault => rfl
    | ok pieces =>
        rw [Outcome.ok_bind, Outcome.ok_bind, Outcome.mapM_congr fun raw among =>
          spellAlternative_overriding fun owned => missed owned pieces read raw among]
  rw [spell, spell, joined, joined, same]
  rfl

/-- An override is found for the occurrences that have its key: the one that it is written for, and
those of which one borrows from the other, for which a type and a name with underscores are needed.
These it replaces. Whatever is documented by other alternatives, at any other parameter or return
value and in any other element, is written as before. -/
theorem override_reaches_iff (speller : Speller) (owner : String) (written : Occurrence)
    (replacement : Value) :
    (∀ other : Occurrence, other.key = written.key ↔
      other = written ∨ other.Borrows written ∨ written.Borrows other) ∧
    (∀ other : Occurrence, other.key = written.key → other ≠ written →
      ('_' ∈ other.type.toList ∧ '_' ∈ written.name.toList) ∨
        ('_' ∈ written.type.toList ∧ '_' ∈ other.name.toList)) ∧
    (∀ (raw : String) (site : Site), site.owner = .text owner →
      (Occurrence.of raw site).key = written.key →
        (speller.overriding owner written replacement).dialect.overrideOf (.text raw) site =
          .ok replacement) ∧
    ∀ (documented : Value) (site : Site), Misses documented site owner written →
      (speller.overriding owner written replacement).spell documented site =
        speller.spell documented site := by
  refine ⟨fun other => Occurrence.key_eq_iff, fun other shared differs => ?_,
    fun raw site owned reached => ?_, fun documented site missed => spell_overriding missed⟩
  swap
  · exact overrideOf_override_self _ owner written replacement owned reached
  rcases Occurrence.key_eq_iff.1 shared with same | borrows | lends
  · exact absurd same differs
  · exact .inl borrows.underscores
  · exact .inr lends.underscores

/-- An override that is written for a parameter `data_size` of type `buffer` is found for a
parameter `size` of type `buffer_data` as well, and the type of that one is lost. -/
theorem override_reaches_other_parameter :
    let written : Occurrence := { side := .argument, type := "buffer", name := "data_size" }
    let site : Site := { owner := .text "resource.set_buffer", name := .text "size" }
    Occurrence.of "buffer_data" site ≠ written ∧
      (Occurrence.of "buffer_data" site).key = written.key ∧
      ∃ writer, StubWriter.ofSettings .default = .ok writer ∧
        let speller := writer.speller .lua
        speller.spell (.text "buffer_data") site = .ok (.text "buffer_data") ∧
          (speller.overriding "resource.set_buffer" written (.text "integer")).spell
            (.text "buffer_data") site = .ok (.text "integer") := by
  intro written site
  refine ⟨by decide, by decide, _, rfl, ?_⟩
  intro speller
  have joins : speller.joined (.text "buffer_data") site = .ok ["buffer_data"] :=
    Outcome.toOption_eq_some.1 (by decide +kernel)
  have joinsOverridden : (speller.overriding "resource.set_buffer" written
      (.text "integer")).joined (.text "buffer_data") site = .ok ["integer"] :=
    Outcome.toOption_eq_some.1 (by decide +kernel)
  rw [spell, spell, joins, joinsOverridden]
  exact ⟨rfl, rfl⟩

end Speller

end ApiStubs.Types
