import ApiStubs.Proofs.Signature
import ApiStubs.Proofs.Types.Fusion

/-!
# Optional types

An optional parameter is documented by brackets around its name. They change neither the identifier
(`Naming.identifier_bracketed`) nor the spellings of the types; they only let the union gain the
alternative of optional types (`Types.Speller.exists_joined_optional`). So an optional parameter
admits whatever the same parameter admits when it is required, unless nothing is joined for it: then
the fallback stands for the required one, and the alternative alone for the optional one.
-/

namespace ApiStubs

open ApiStubs.Types ApiStubs.Value

/-! ## Names in brackets -/

namespace Naming

/-- Characters with an enclosing pair of brackets are those between them. -/
theorem unbracket?_eq_some {chars inside : List Char} :
    unbracket? chars = some inside ↔ chars = '[' :: (inside ++ [']']) := by
  constructor
  · intro found
    cases chars with
    | nil => cases found
    | cons char rest =>
        rw [unbracket?.eq_def] at found
        split at found
        · next inner isOpened =>
            obtain ⟨rfl, rfl⟩ := List.cons.inj isOpened
            split at found
            · next closes =>
                obtain rfl := Option.some.inj found
                rw [List.dropLast_append_getLast? _ closes]
            · cases found
        · cases found
  · rintro rfl
    simp [unbracket?]

/-- A name in brackets is the one of an optional parameter. -/
theorem splitOptional_bracketed (name : String) :
    splitOptional ("[" ++ name ++ "]") = (name, true) := by
  have opening : "[".toList = ['['] := by decide
  have closing : "]".toList = [']'] := by decide
  have inside : unbracket? ("[" ++ name ++ "]").toList = some name.toList :=
    unbracket?_eq_some.2 (by simp [opening, closing])
  rw [splitOptional, inside]
  simp

/-- A name without brackets around it is the one of a required parameter. -/
theorem splitOptional_of_plain {name : String}
    (plain : ∀ inside, name ≠ "[" ++ inside ++ "]") : splitOptional name = (name, false) := by
  have opening : "[".toList = ['['] := by decide
  have closing : "]".toList = [']'] := by decide
  rw [splitOptional]
  split
  · next inside found =>
      refine absurd (String.toList_injective ?_) (plain (String.ofList inside))
      simp [unbracket?_eq_some.1 found, opening, closing]
  · rfl

/-- Brackets around a documented name change nothing but the flag that goes with its identifier. -/
theorem identifier_bracketed {dialect : Dialect} {name identified : String} {side : Side}
    {owner : Value} {isOptional : Bool} (plain : ∀ inside, name ≠ "[" ++ inside ++ "]")
    (found : identifier dialect (.text name) side owner = .ok (identified, isOptional)) :
    isOptional = false ∧
      identifier dialect (.text ("[" ++ name ++ "]")) side owner = .ok (identified, true) := by
  simp only [identifier, splitOptional_of_plain plain, splitOptional_bracketed,
    Outcome.bind_eq_ok, Outcome.pure_eq_ok, Prod.mk.injEq] at found ⊢
  obtain ⟨chosen, substituted, content, isContent, replaced, rfl⟩ := found
  exact ⟨rfl, chosen, substituted, content, isContent, replaced, trivial⟩

end Naming

/-! ## What is written for joined types -/

namespace Types.Speller

variable {speller : Speller} {documented : Value} {site : Site} {types wider : List String}
  {absent : String}

/-- An alternative of the type that is written for joined types: one of them, or the fallback when
nothing is left of their join. -/
def Admits (speller : Speller) (types : List String) (type : String) : Prop :=
  if Text.join "|" types = "" then speller.dialect.fallbackType = .text type else type ∈ types

/-- An optional type joins what the required one joins, and the alternative that it gains. -/
theorem exists_joined_optional (site : Site) (gains : speller.dialect.nilAlternative = some absent)
    (joins : speller.joined documented { site with isOptional := false } = .ok types) :
    ∃ wider, speller.joined documented { site with isOptional := true } = .ok wider ∧
      wider.Nodup ∧ ∀ type, type ∈ wider ↔ type ∈ types ∨ type = absent := by
  obtain ⟨spellings, spells, isJoined⟩ := Outcome.bind_eq_ok.1 joins
  obtain rfl := Outcome.pure_eq_ok.1 isJoined
  have joinsOptional : speller.joined documented { site with isOptional := true } =
      .ok (ascending (speller.dialect.widen true (speller.dialect.fuseOpaque spellings))) :=
    Outcome.bind_eq_ok.2 ⟨spellings, spells, rfl⟩
  obtain ⟨_, _, once, _, _⟩ := exists_spellings_of_joined joinsOptional
  refine ⟨_, joinsOptional, once, fun type => ?_⟩
  simp only [ascending, List.mem_mergeSort, Dialect.mem_widen_iff, gains, Option.some.injEq,
    Bool.false_eq_true, false_and, or_false, true_and]
  rw [eq_comm (a := absent)]

/-- A list without repetitions whose members are all empty has an empty join. -/
theorem join_bar_eq_empty_of_forall {texts : List String} (once : texts.Nodup)
    (empty : ∀ text ∈ texts, text = "") : Text.join "|" texts = "" := by
  rw [Text.join_bar_eq_empty]
  match texts with
  | [] => exact .inl rfl
  | [only] => exact .inr (congrArg (fun text => [text]) (empty only (List.mem_singleton_self _)))
  | first :: second :: others =>
      have same : first = second := (empty first (by simp)).trans (empty second (by simp)).symm
      simp [same] at once

/-- Where something is left of a join, one alternative more is admitted beside those that are. -/
theorem admits_iff_of_mem_iff (once : types.Nodup)
    (members : ∀ type, type ∈ wider ↔ type ∈ types ∨ type = absent)
    (nonempty : Text.join "|" types ≠ "") (type : String) :
    speller.Admits wider type ↔ speller.Admits types type ∨ type = absent := by
  have nonemptyWider : Text.join "|" wider ≠ "" := by
    intro isEmpty
    rcases Text.join_bar_eq_empty.1 isEmpty with rfl | rfl
    · exact absurd ((members absent).2 (.inr rfl)) List.not_mem_nil
    · exact nonempty (join_bar_eq_empty_of_forall once fun type among =>
        List.mem_singleton.1 ((members type).2 (.inl among)))
  rw [Admits, Admits, if_neg nonempty, if_neg nonemptyWider, members]

end Types.Speller

/-! ## Parameters -/

namespace Slot

variable {speller : Speller} {side : Side} {owner documented bracketed : Value} {name : String}

/-- A parameter that is documented with brackets around its name has the identifier of the required
one. Its type is written for the types of the required one and the alternative that it gains. -/
theorem exists_ofDocumented_bracketed {absent : String} {slot : Slot}
    (gains : speller.dialect.nilAlternative = some absent)
    (agree : documented.AgreeBut ["name"] bracketed)
    (named : documented.field? "name" = some (.text name))
    (namedBracketed : bracketed.field? "name" = some (.text ("[" ++ name ++ "]")))
    (plain : ∀ inside, name ≠ "[" ++ inside ++ "]")
    (returns : ofDocumented speller side owner documented = .ok slot) :
    ∃ types wider, joinedTypes speller side owner documented = .ok types ∧
      joinedTypes speller side owner bracketed = .ok wider ∧
      slot = { name := slot.name, isOptional := false, type := speller.written types } ∧
      ofDocumented speller side owner bracketed =
        .ok { name := slot.name, isOptional := true, type := speller.written wider } ∧
      types.Nodup ∧ ∀ type, type ∈ wider ↔ type ∈ types ∨ type = absent := by
  simp only [ofDocumented, Outcome.bind_eq_ok, Outcome.pure_eq_ok] at returns
  obtain ⟨raw, required, ⟨found, isOptional⟩, identified, given, read, type, spelled, rfl⟩ :=
    returns
  obtain rfl : .text name = raw :=
    Option.some.inj (named.symm.trans (Value.require_eq_ok.1 required))
  obtain ⟨rfl, identifiedBracketed⟩ := Naming.identifier_bracketed plain identified
  obtain ⟨types, joins, rfl⟩ := Speller.spell_eq_ok.1 spelled
  obtain ⟨_, _, once, _, _⟩ := Speller.exists_spellings_of_joined joins
  obtain ⟨wider, joinsWider, _, members⟩ := Speller.exists_joined_optional
    { owner, name := .text found, side } gains joins
  have readBracketed : bracketed.get "types" = .ok given :=
    (agree.get_eq (by simp)).symm.trans read
  have requiredBracketed := Value.require_eq_ok.2 namedBracketed
  refine ⟨types, wider, ?_, ?_, rfl, ?_, once, members⟩
  · simp only [joinedTypes, Outcome.bind_eq_ok]
    exact ⟨_, required, _, identified, _, read, joins⟩
  · simp only [joinedTypes, Outcome.bind_eq_ok]
    exact ⟨_, requiredBracketed, _, identifiedBracketed, _, readBracketed, joinsWider⟩
  · simp only [ofDocumented, Outcome.bind_eq_ok, Outcome.pure_eq_ok]
    exact ⟨_, requiredBracketed, _, identifiedBracketed, _, readBracketed, _,
      Speller.spell_eq_ok.2 ⟨wider, joinsWider, rfl⟩, rfl⟩

end Slot

/-! ## Optional types are wider -/

namespace Types.Speller

/-- An optional type joins what the required one joins, and the alternative that it gains. So where
something is joined for the required type, the optional one admits the same and that alternative;
where nothing is, the fallback is written for the required type and the alternative alone for the
optional one. Brackets around the name of a documented parameter make it optional and leave its
identifier, and it admits whatever it admitted, unless nothing was joined for it. -/
theorem optional_type_admits_more (speller : Speller) {absent : String}
    (gains : speller.dialect.nilAlternative = some absent) :
    (∀ (documented : Value) (site : Site) (type : Value),
      speller.spell documented { site with isOptional := false } = .ok type →
        ∃ types wider, speller.joined documented { site with isOptional := false } = .ok types ∧
          speller.joined documented { site with isOptional := true } = .ok wider ∧
          type = speller.written types ∧
          speller.spell documented { site with isOptional := true } = .ok (speller.written wider) ∧
          (∀ type, type ∈ wider ↔ type ∈ types ∨ type = absent) ∧
          (Text.join "|" types ≠ "" → ∀ type,
            speller.Admits wider type ↔ speller.Admits types type ∨ type = absent) ∧
          (types = [] → wider = [absent])) ∧
    (∀ (documented bracketed : Value) (side : Side) (owner : Value) (name : String) (slot : Slot),
      documented.AgreeBut ["name"] bracketed →
      documented.field? "name" = some (.text name) →
      bracketed.field? "name" = some (.text ("[" ++ name ++ "]")) →
      (∀ inside, name ≠ "[" ++ inside ++ "]") →
      Slot.ofDocumented speller side owner documented = .ok slot →
        ∃ types wider, Slot.joinedTypes speller side owner documented = .ok types ∧
          Slot.joinedTypes speller side owner bracketed = .ok wider ∧
          slot = { name := slot.name, isOptional := false, type := speller.written types } ∧
          Slot.ofDocumented speller side owner bracketed =
            .ok { name := slot.name, isOptional := true, type := speller.written wider } ∧
          (Text.join "|" types ≠ "" → ∀ type,
            speller.Admits wider type ↔ speller.Admits types type ∨ type = absent)) ∧
    (speller.dialect.CanSpell → ∀ (documented : Value) (site : Site), site.owner.IsText →
      documented.IsText ∨ documented.IsListOf IsText →
        ∃ type, speller.spell documented { site with isOptional := false } = .ok type) := by
  refine ⟨fun documented site type spelled => ?_, ?_, fun able documented site owned shaped => ?_⟩
  · obtain ⟨types, joins, rfl⟩ := spell_eq_ok.1 spelled
    obtain ⟨_, _, once, _, _⟩ := exists_spellings_of_joined joins
    obtain ⟨wider, joinsWider, onceWider, members⟩ := exists_joined_optional site gains joins
    refine ⟨types, wider, joins, joinsWider, rfl, spell_eq_ok.2 ⟨wider, joinsWider, rfl⟩, members,
      admits_iff_of_mem_iff once members, ?_⟩
    rintro rfl
    refine List.perm_singleton.1 ((List.perm_ext_iff_of_nodup onceWider ?_).2 fun type => ?_)
    · exact List.nodup_singleton absent
    · rw [members, List.mem_singleton, or_iff_right List.not_mem_nil]
  · intro documented bracketed side owner name slot agree named namedBracketed plain returns
    obtain ⟨types, wider, joins, joinsWider, isSlot, returnsBracketed, once, members⟩ :=
      Slot.exists_ofDocumented_bracketed gains agree named namedBracketed plain returns
    exact ⟨types, wider, joins, joinsWider, isSlot, returnsBracketed,
      admits_iff_of_mem_iff once members⟩
  · obtain ⟨type, spelled, _⟩ : ∃ type,
        speller.spell documented { site with isOptional := false } = .ok type ∧ type.IsText :=
      exists_spell able shaped owned
    exact ⟨type, spelled⟩

/-- A flag of a Lua function, documented as a required and as an optional parameter. -/
theorem optional_flag_admits_more :
    let speller : Speller := ⟨Settings.defaultLua, ⟨[.text "boolean"]⟩⟩
    let documented : Value := .record [("name", .text "is-local"), ("types", .text "bool")]
    let bracketed : Value := .record [("name", .text "[is-local]"), ("types", .text "bool")]
    let slot : Slot := { name := "is_local", isOptional := false, type := .text "boolean" }
    speller.dialect.nilAlternative = some "nil" ∧ documented.AgreeBut ["name"] bracketed ∧
      documented.field? "name" = some (.text "is-local") ∧
      bracketed.field? "name" = some (.text ("[" ++ "is-local" ++ "]")) ∧
      (∀ inside, "is-local" ≠ "[" ++ inside ++ "]") ∧
      Slot.ofDocumented speller .argument (.text "go.get") documented = .ok slot ∧
      ∃ types wider, Slot.ofDocumented speller .argument (.text "go.get") bracketed =
          .ok { name := "is_local", isOptional := true, type := speller.written wider } ∧
        Slot.joinedTypes speller .argument (.text "go.get") documented = .ok types ∧
        types = ["boolean"] ∧
        ∀ type, speller.Admits wider type ↔ type = "boolean" ∨ type = "nil" := by
  intro speller documented bracketed slot
  have agree : documented.AgreeBut ["name"] bracketed :=
    AgreeBut.withField _ "name" (.text "[is-local]")
  have plain : ∀ inside, "is-local" ≠ "[" ++ inside ++ "]" := by
    intro inside same
    have first := congrArg (fun text => text.toList.head?) same
    simp at first
  have identified : Naming.identifier speller.dialect (.text "is-local") .argument
      (.text "go.get") = .ok ("is_local", false) := Outcome.toOption_eq_some.1 (by decide +kernel)
  have joins : speller.joined (.text "bool")
      { owner := .text "go.get", name := .text "is_local" } = .ok ["boolean"] :=
    Outcome.toOption_eq_some.1 (by decide +kernel)
  have isSlot : Slot.ofDocumented speller .argument (.text "go.get") documented = .ok slot := by
    simp only [Slot.ofDocumented, Outcome.bind_eq_ok, Outcome.pure_eq_ok]
    exact ⟨_, rfl, _, identified, _, rfl, _, spell_eq_ok.2 ⟨_, joins, rfl⟩, rfl⟩
  obtain ⟨types, wider, joinsTypes, _, _, returnsBracketed, admits⟩ :=
    (optional_type_admits_more speller rfl).2.1 documented bracketed .argument (.text "go.get")
      "is-local" slot agree rfl rfl plain isSlot
  have joinsBoolean : Slot.joinedTypes speller .argument (.text "go.get") documented =
      .ok ["boolean"] := by
    simp only [Slot.joinedTypes, Outcome.bind_eq_ok]
    exact ⟨_, rfl, _, identified, _, rfl, joins⟩
  obtain rfl := Except.ok.inj (joinsBoolean.symm.trans joinsTypes)
  have nonempty : Text.join "|" ["boolean"] ≠ "" := by decide
  refine ⟨rfl, agree, rfl, rfl, plain, isSlot, ["boolean"], wider, returnsBracketed, joinsTypes,
    rfl, fun type => ?_⟩
  rw [admits nonempty, Admits, if_neg nonempty, List.mem_singleton]

/-- The fallback is written for a required parameter without types, and admits more than what is
written when the parameter is optional: the alternative that it gains, alone. -/
theorem optional_type_of_nothing :
    let speller : Speller := ⟨Settings.defaultLua, ⟨[.text "any", .text "nil"]⟩⟩
    let site : Site := { owner := .text "go.get", name := .text "id" }
    speller.dialect.nilAlternative = some "nil" ∧
      speller.joined (.list []) { site with isOptional := false } = .ok [] ∧
      speller.spell (.list []) { site with isOptional := false } = .ok (.text "any") ∧
      speller.joined (.list []) { site with isOptional := true } = .ok ["nil"] ∧
      speller.spell (.list []) { site with isOptional := true } = .ok (.text "nil") ∧
      ¬∀ type, speller.Admits ["nil"] type ↔ speller.Admits [] type ∨ type = "nil" := by
  intro speller site
  have joinsNothing : speller.joined (.list []) { site with isOptional := false } = .ok [] :=
    Outcome.toOption_eq_some.1 (by decide +kernel)
  have joinsNil : speller.joined (.list []) { site with isOptional := true } = .ok ["nil"] :=
    Outcome.toOption_eq_some.1 (by decide +kernel)
  refine ⟨rfl, joinsNothing, spell_eq_ok.2 ⟨_, joinsNothing, rfl⟩, joinsNil,
    spell_eq_ok.2 ⟨_, joinsNil, rfl⟩, fun same => ?_⟩
  have admitted : speller.Admits ["nil"] "any" := (same "any").2 (.inl rfl)
  exact absurd (List.mem_singleton.1 admitted) (by decide)

end Types.Speller

end ApiStubs
