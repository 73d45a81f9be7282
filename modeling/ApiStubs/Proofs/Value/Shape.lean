import ApiStubs.Value.Access

/-!
# Shapes of values

A document has the shape that its reader expects when its parts have theirs. A shape is a property
of values; the shapes of lists, tables and records are made of those of their members. Records agree
when they hold the same under all keys but some. Whether a value is a member of a list, and what
inserting it changes, depends on what the list holds alone.
-/

namespace ApiStubs.Value

/-- A text. -/
def IsText (value : Value) : Prop :=
  ∃ content, value = .text content

/-- A list whose members have a shape. -/
def IsListOf (each : Value → Prop) (value : Value) : Prop :=
  ∃ members, value = .list members ∧ ∀ member ∈ members, each member

/-- A record under whose keys, whatever they are, stand values of a shape. -/
def IsTableOf (each : Value → Prop) (value : Value) : Prop :=
  ∃ fields : Table Value, value = .record fields ∧ fields.All each

/-- A value whose field, if it has it, has a shape. -/
def Offers (key : String) (each : Value → Prop) (value : Value) : Prop :=
  ∀ found, value.field? key = some found → each found

/-- A record with a field of a shape. -/
def Requires (key : String) (each : Value → Prop) (value : Value) : Prop :=
  ∃ found, value.field? key = some found ∧ each found

/-- Null, or a value of a shape. -/
def IsNullOr (each : Value → Prop) (value : Value) : Prop :=
  value = .null ∨ each value

@[simp] theorem isText_text (content : String) : (Value.text content).IsText :=
  ⟨content, rfl⟩

/-- The text that a value holds is the value itself. -/
theorem text?_eq_some {value : Value} {content : String} :
    value.text? = some content ↔ value = .text content := by
  cases value <;> simp [text?]

/-- The members of a list of a shape can be read, and have it. -/
theorem IsListOf.exists_items {each : Value → Prop} {value : Value} (shaped : value.IsListOf each) :
    ∃ members, value.items = .ok members ∧ ∀ member ∈ members, each member := by
  obtain ⟨members, rfl, shapes⟩ := shaped
  exact ⟨members, rfl, shapes⟩

/-- A required field is found, and has its shape. -/
theorem Requires.exists_require {key : String} {each : Value → Prop} {value : Value}
    (required : value.Requires key each) : ∃ found, value.require key = .ok found ∧ each found := by
  obtain ⟨found, present, shaped⟩ := required
  exact ⟨found, require_eq_ok.2 present, shaped⟩

/-- A value with a field is a record. -/
theorem exists_record_of_field? {value found : Value} {key : String}
    (has : value.field? key = some found) : ∃ fields, value = .record fields := by
  cases value with
  | record fields => exact ⟨fields, rfl⟩
  | _ => simp [field?] at has

/-- A field that is offered, or what stands for an absent one, has its shape. -/
theorem Offers.exists_getOr {key : String} {each : Value → Prop} {fields : Table Value}
    (offered : (Value.record fields).Offers key each) {absent : Value} (stands : each absent) :
    ∃ found, (Value.record fields).getOr key absent = .ok found ∧ each found := by
  refine ⟨_, getOr_record .., ?_⟩
  cases present : Table.get? fields key with
  | none => exact stands
  | some found => exact offered found present

/-- A field that may be null or absent is read as null or with its shape. -/
theorem Offers.exists_get {key : String} {each : Value → Prop} {fields : Table Value}
    (offered : (Value.record fields).Offers key (IsNullOr each)) :
    ∃ found, (Value.record fields).get key = .ok found ∧ found.IsNullOr each :=
  offered.exists_getOr (.inl rfl)

/-- A field that is read and is not null is there. -/
theorem field?_of_get {value found : Value} {key : String} (read : value.get key = .ok found)
    (present : found ≠ .null) : value.field? key = some found := by
  cases value with
  | record fields =>
      rw [Value.get, getOr_record] at read
      cases looked : Table.get? fields key with
      | none =>
          rw [looked] at read
          exact absurd (Except.ok.inj read).symm present
      | some other =>
          rw [looked] at read
          obtain rfl := Except.ok.inj read
          exact looked
  | _ => cases read

/-- A replacement of a shape for a value that may be null has the shape. -/
theorem IsNullOr.orElse {each : Value → Prop} {value replacement : Value}
    (shaped : value.IsNullOr each) (stands : each replacement) :
    each (value.orElse replacement) := by
  rw [Value.orElse]
  split
  · next given =>
      rcases shaped with rfl | isShaped
      · simp [isGiven] at given
      · exact isShaped
  · exact stands

/-! ## Records that agree -/

/-- Records that hold the same under all keys but some. -/
def AgreeBut (keys : List String) (value other : Value) : Prop :=
  ∃ fields others : Table Value, value = .record fields ∧ other = .record others ∧
    ∀ key, key ∉ keys → Table.get? fields key = Table.get? others key

namespace AgreeBut

variable {keys : List String} {value other third : Value}

/-- A record agrees with itself. -/
theorem refl (fields : Table Value) : AgreeBut keys (.record fields) (.record fields) :=
  ⟨fields, fields, rfl, rfl, fun _ _ => rfl⟩

/-- Agreement does not depend on which record comes first. -/
theorem symm (agree : AgreeBut keys value other) : AgreeBut keys other value := by
  obtain ⟨fields, others, rfl, rfl, same⟩ := agree
  exact ⟨others, fields, rfl, rfl, fun key outside => (same key outside).symm⟩

/-- Agreement is passed on. -/
theorem trans (agree : AgreeBut keys value other) (agreeNext : AgreeBut keys other third) :
    AgreeBut keys value third := by
  obtain ⟨fields, others, rfl, rfl, same⟩ := agree
  obtain ⟨_, thirds, isRecord, rfl, sameNext⟩ := agreeNext
  obtain rfl := Value.record.inj isRecord
  exact ⟨fields, thirds, rfl, rfl, fun key outside =>
    (same key outside).trans (sameNext key outside)⟩

/-- Writing one field leaves all others in agreement. -/
theorem withField (fields : Table Value) (key : String) (content : Value) :
    AgreeBut [key] (.record fields) ((Value.record fields).withField key content) :=
  ⟨fields, _, rfl, rfl, fun _ outside =>
    (Table.get?_set_of_ne fun same => outside (List.mem_singleton.2 same)).symm⟩

/-- A field on which records agree is the same in both. -/
theorem field?_eq (agree : AgreeBut keys value other) {key : String} (outside : key ∉ keys) :
    value.field? key = other.field? key := by
  obtain ⟨fields, others, rfl, rfl, same⟩ := agree
  exact same key outside

/-- A key on which records agree is required of both alike. -/
theorem require_eq (agree : AgreeBut keys value other) {key : String} (outside : key ∉ keys) :
    value.require key = other.require key := by
  obtain ⟨fields, others, rfl, rfl, same⟩ := agree
  rw [require, require, same key outside]

/-- A key on which records agree is looked up in both alike. -/
theorem get_eq (agree : AgreeBut keys value other) {key : String} (outside : key ∉ keys) :
    value.get key = other.get key := by
  obtain ⟨fields, others, rfl, rfl, same⟩ := agree
  simp only [get, getOr_record, same key outside]

end AgreeBut

/-! ## Members -/

section Members

variable {value : Value} {members : List Value}

/-- A text is a member of a list exactly when the list holds it. -/
theorem memberOf_text_iff {content : String} :
    (Value.text content).memberOf members = true ↔ .text content ∈ members := by
  have isSame (member : Value) : (Value.text content).same member = true ↔
      member = .text content := by
    cases member with
    | text other => rw [same, beq_iff_eq, Value.text.injEq, eq_comm]
    | _ => simp [same]
  simp [memberOf, isSame]

/-- Lists that hold the same values have the same members. -/
theorem memberOf_congr {others : List Value} (same : ∀ member, member ∈ members ↔ member ∈ others)
    (value : Value) : value.memberOf members = value.memberOf others := by
  rw [Bool.eq_iff_iff]
  simp only [memberOf, List.any_eq_true, same]

/-- A member of the first part of a list is one of the whole. -/
theorem memberOf_append_left (isMember : value.memberOf members = true) (others : List Value) :
    value.memberOf (members ++ others) = true := by
  rw [memberOf, List.any_append, Bool.or_eq_true]
  exact .inl isMember

/-- A member of a set stays one when another value is inserted. -/
theorem memberOf_insertInto (isMember : value.memberOf members = true) (other : Value) :
    value.memberOf (other.insertInto members) = true := by
  rw [insertInto]
  split
  · exact isMember
  · exact memberOf_append_left isMember _

/-- A text is a member of a set once it has been inserted. -/
theorem memberOf_insertInto_self (isText : value.IsText) (members : List Value) :
    value.memberOf (value.insertInto members) = true := by
  obtain ⟨content, rfl⟩ := isText
  rw [insertInto]
  split
  · next isMember => exact isMember
  · exact memberOf_text_iff.2 (by simp)

/-- A member of a set need not be inserted. -/
theorem insertInto_of_memberOf (isMember : value.memberOf members = true) :
    value.insertInto members = members :=
  if_pos isMember

end Members

end ApiStubs.Value
