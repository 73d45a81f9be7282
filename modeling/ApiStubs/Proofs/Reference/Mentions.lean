import ApiStubs.Proofs.Reference.KnownModule
import ApiStubs.Proofs.Types.Permissive
import ApiStubs.Text.Comment

/-!
# What the known classes mention

The fields and operators of a known class mention documented types. In settings that extend the
default ones, each of those that the default classes mention is, without the brackets behind it, a
plain type or the name of a known class or alias, and reads as one type
(`Settings.all_mentionsInClass_defaultClasses`).
-/

namespace ApiStubs

open ApiStubs.Value ApiStubs.Types

namespace Reference

/-! ## Mentions -/

section Mentions

variable (meets : String → Prop)

/-- A type that meets a condition if it is a text. -/
def MentionsInType (type : Value) : Prop :=
  ∀ documented, type = .text documented → meets documented

/-- A field whose type meets a condition if the field is a text. -/
def MentionsInField (field : Value) : Prop :=
  ∀ text, field = .text text → meets (Text.splitField text).1

/-- An operator whose types meet a condition. -/
structure MentionsInOperator (operator : Value) : Prop where
  param : operator.Offers "param" (MentionsInType meets)
  result : operator.Offers "result" (MentionsInType meets)

/-- A class in whose fields and operators all types meet a condition. -/
structure MentionsInClass (declaration : Value) : Prop where
  fields : declaration.Offers "fields" (IsTableOf (MentionsInField meets))
  operators : declaration.Offers "operators" (IsTableOf (MentionsInOperator meets))

end Mentions

section Declarations

variable {meets other : String → Prop}

/-- Where all types meet a condition they meet one that follows from it. -/
theorem MentionsInClass.mono {declaration : Value} (mentions : MentionsInClass meets declaration)
    (implies : ∀ documented, meets documented → other documented) :
    MentionsInClass other declaration where
  fields := fun found present => by
    obtain ⟨fields, rfl, each⟩ := mentions.fields found present
    exact ⟨fields, rfl, fun entry member text isText => implies _ (each entry member text isText)⟩
  operators := fun found present => by
    obtain ⟨operators, rfl, each⟩ := mentions.operators found present
    refine ⟨operators, rfl, fun entry member => ⟨fun param given text isText => ?_,
      fun result given text isText => ?_⟩⟩
    · exact implies _ ((each entry member).param param given text isText)
    · exact implies _ ((each entry member).result result given text isText)

/-- Text fields mention what their types are. -/
theorem isTableOf_textRecord {fields : List (String × String)}
    (each : ∀ field ∈ fields, meets (Text.splitField field.2).1) :
    (Settings.textRecord fields).IsTableOf (MentionsInField meets) := by
  refine ⟨_, rfl, List.forall_mem_map.2 fun field member text isText => ?_⟩
  obtain rfl := Value.text.inj isText
  exact each field member

/-- A class without operators mentions what its fields mention. -/
theorem mentionsInClass_of_fields {fields : Value}
    (mentions : fields.IsTableOf (MentionsInField meets)) :
    MentionsInClass meets (.record [("fields", fields)]) where
  fields := fun _ present => Option.some.inj present ▸ mentions
  operators := fun _ present => (nomatch present)

/-- A class with text fields mentions what these mention. -/
theorem mentionsInClass_plainClass {fields : List (String × String)}
    (each : ∀ field ∈ fields, meets (Text.splitField field.2).1) :
    MentionsInClass meets (Settings.plainClass fields) :=
  mentionsInClass_of_fields (isTableOf_textRecord each)

/-- A class with text fields and operators mentions what these mention. -/
theorem mentionsInClass_classWithOperators {fields : List (String × String)}
    (each : ∀ field ∈ fields, meets (Text.splitField field.2).1) {operators : Table Value}
    (mentions : operators.All (MentionsInOperator meets)) :
    MentionsInClass meets (Settings.classWithOperators fields operators) where
  fields := fun _ present => Option.some.inj present ▸ isTableOf_textRecord each
  operators := fun found present => by
    obtain rfl : Value.record operators = found := Option.some.inj present
    exact ⟨operators, rfl, mentions⟩

/-- A text mentions itself. -/
theorem mentionsInType_text {documented : String} (met : meets documented) :
    MentionsInType meets (.text documented) := by
  intro other isText
  obtain rfl := Value.text.inj isText
  exact met

/-- A binary operator mentions the types of its operand and its result. -/
theorem mentionsInOperator_binaryOperator {param result : String} (ofParam : meets param)
    (ofResult : meets result) :
    MentionsInOperator meets (Settings.binaryOperator param result) where
  param := fun _ present => Option.some.inj present ▸ mentionsInType_text ofParam
  result := fun _ present => Option.some.inj present ▸ mentionsInType_text ofResult

/-- A unary operator mentions the type of its result. -/
theorem mentionsInOperator_unaryOperator {result : String} (ofResult : meets result) :
    MentionsInOperator meets (Settings.textRecord [("result", result)]) where
  param := fun _ present => (nomatch present)
  result := fun _ present => Option.some.inj present ▸ mentionsInType_text ofResult

/-- The operators of a vector type mention the type and numbers. -/
theorem all_mentionsInOperator_vectorOperators {name : String} (ofName : meets name)
    (ofNumber : meets "number") :
    Table.All (MentionsInOperator meets) (Settings.vectorOperators name) := by
  simp only [Table.All, Settings.vectorOperators, List.forall_mem_cons, List.not_mem_nil,
    false_implies, implies_true, and_true]
  exact ⟨mentionsInOperator_binaryOperator ofName ofName,
    mentionsInOperator_binaryOperator ofName ofName,
    mentionsInOperator_binaryOperator ofNumber ofName,
    mentionsInOperator_binaryOperator ofNumber ofName, mentionsInOperator_unaryOperator ofName⟩

end Declarations

end Reference

namespace Settings

open ApiStubs.Reference

/-! ## Known types -/

/-- A documented type that is, without the brackets behind it, a plain type or the name of a known
class or alias. -/
def Names (settings : Settings) (documented : String) : Prop :=
  (splitBrackets documented).1 ∈ defaultPlainTypes ∨ settings.Knows (splitBrackets documented).1

instance (settings : Settings) (documented : String) : Decidable (settings.Names documented) :=
  inferInstanceAs (Decidable (_ ∨ _))

/-- A documented text that names plain and known types, each of which reads as no type but
itself. -/
def CanMention (settings : Settings) (documented : String) : Prop :=
  ∀ raw ∈ trimPieces (textPieces documented),
    ReadsAsItself (splitBrackets raw).1 ∧ settings.Names raw

/-- A documented text that names one plain or known type, and reads as one with and without the
brackets behind it. -/
structure NamesOne (settings : Settings) (documented : String) : Prop where
  reads : ReadsAsOne documented
  readsBase : ReadsAsOne (splitBrackets documented).1
  names : settings.Names documented

instance (settings : Settings) (documented : String) : Decidable (settings.NamesOne documented) :=
  decidable_of_iff (trimPieces (textPieces documented) = [documented] ∧
      trimPieces (textPieces (splitBrackets documented).1) = [(splitBrackets documented).1] ∧
      settings.Names documented)
    ⟨fun ⟨reads, readsBase, names⟩ => ⟨reads, readsBase, names⟩,
      fun ⟨reads, readsBase, names⟩ => ⟨reads, readsBase, names⟩⟩

namespace NamesOne

variable {settings : Settings} {documented : String}

/-- What names one type can be mentioned. -/
theorem canMention (namesOne : settings.NamesOne documented) : settings.CanMention documented := by
  intro raw member
  rw [namesOne.reads] at member
  obtain rfl := List.mem_singleton.1 member
  exact ⟨namesOne.readsBase.readsAsItself, namesOne.names⟩

/-- What names one type in the default settings names it in settings that extend them. -/
theorem of_extends (extendsDefault : settings.Extends default)
    (namesOne : default.NamesOne documented) : settings.NamesOne documented := by
  refine ⟨namesOne.reads, namesOne.readsBase, ?_⟩
  rcases namesOne.names with isPlain | isClass | isAlias
  · exact .inl isPlain
  · exact .inr (.inl (extendsDefault.classes _ isClass))
  · exact .inr (.inr (extendsDefault.aliases _ isAlias))

end NamesOne

/-- All that the default classes mention is one plain or known type each. -/
theorem all_mentionsInClass_defaultClasses {settings : Settings}
    (extendsDefault : settings.Extends default) :
    Table.All (MentionsInClass settings.NamesOne) defaultClasses := by
  have single {name : String} (namesOne : default.NamesOne name) :
      Table.All (MentionsInOperator default.NamesOne) [("mul", binaryOperator name name)] := by
    simpa [Table.All] using mentionsInOperator_binaryOperator namesOne namesOne
  have vector {name : String} (namesOne : default.NamesOne name) :=
    all_mentionsInOperator_vectorOperators namesOne (by decide +kernel)
  suffices byDefault : Table.All (MentionsInClass default.NamesOne) defaultClasses from
    fun entry member => (byDefault entry member).mono fun _ => .of_extends extendsDefault
  simp only [Table.All, defaultClasses, List.forall_mem_cons, List.not_mem_nil, false_implies,
    implies_true, and_true]
  exact ⟨mentionsInClass_classWithOperators (by decide +kernel) (vector (by decide +kernel)),
    mentionsInClass_classWithOperators (by decide +kernel) (vector (by decide +kernel)),
    mentionsInClass_classWithOperators (by decide +kernel) (single (by decide +kernel)),
    mentionsInClass_classWithOperators (by decide +kernel) (single (by decide +kernel)),
    mentionsInClass_plainClass (by decide +kernel), mentionsInClass_plainClass (by decide +kernel),
    mentionsInClass_plainClass (by decide +kernel)⟩

end Settings

end ApiStubs
