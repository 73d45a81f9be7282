import ApiStubs.Fault

/-!
# Reading values by shape

The ways in which a rule asks a value for the shape that it needs. Each of them answers
`wrongShape` when the value has another shape, and a look-up of a required key answers `missingKey`
when the record lacks it.
-/

namespace ApiStubs.Value

/-- The text that a value must hold. -/
def asText : Value → Outcome String
  | .text value => .ok value
  | _ => .error .wrongShape

/-- The fields of a value that must be a record. -/
def asRecord : Value → Outcome (Table Value)
  | .record fields => .ok fields
  | _ => .error .wrongShape

/-- The field that a record must have. -/
def require (value : Value) (key : String) : Outcome Value :=
  match value with
  | .record fields =>
      match Table.get? fields key with
      | some found => .ok found
      | none => .error (.missingKey (.text key))
  | _ => .error .wrongShape

/-- The field of a record, or a value to stand for an absent one. -/
def getOr (value : Value) (key : String) (absent : Value) : Outcome Value :=
  value.asRecord.map fun fields => (Table.get? fields key).getD absent

/-- The field of a record, null when it is absent. -/
def get (value : Value) (key : String) : Outcome Value :=
  value.getOr key .null

/-- Whether a record has a field. -/
def hasKey (value : Value) (key : String) : Outcome Bool :=
  value.asRecord.map fun fields => Table.has fields key

/-- The members of a value in order: those of a list, the characters of a text, the keys of a
record. -/
def items : Value → Outcome (List Value)
  | .list members => .ok members
  | .text value => .ok (value.toList.map fun char => .text (String.singleton char))
  | .record fields => .ok (fields.map fun entry => .text entry.1)
  | _ => .error .wrongShape

/-- A value that can be the key of a table. -/
def asScalar (value : Value) : Outcome Value :=
  if value.isScalar then .ok value else .error .wrongShape

/-- Look a value up as a key: only texts are keys, and lists and records cannot be looked up. -/
def lookupIn {α : Type} (value : Value) (table : Table α) : Outcome (Option α) :=
  match value with
  | .text key => .ok (table.get? key)
  | .list _ => .error .wrongShape
  | .record _ => .error .wrongShape
  | _ => .ok none

/-- Whether a value belongs to a set. -/
def inSet (value : Value) (members : List Value) : Outcome Bool :=
  value.asScalar.map fun scalar => scalar.memberOf members

/-- Add a value to a set, which keeps its members in order of insertion. -/
def insertInto (value : Value) (members : List Value) : List Value :=
  if value.memberOf members then members else members ++ [value]

/-- The set of the members of a value. -/
def toSet (value : Value) : Outcome (List Value) := do
  let members ← value.items
  members.foldlM (fun set member => member.asScalar.map fun scalar => scalar.insertInto set) []

/-- A value read as a text holds it. -/
@[simp] theorem asText_eq_ok {value : Value} {content : String} :
    value.asText = .ok content ↔ value = .text content := by
  cases value <;> simp [asText]

/-- A value read as a record has these fields. -/
@[simp] theorem asRecord_eq_ok {value : Value} {fields : Table Value} :
    value.asRecord = .ok fields ↔ value = .record fields := by
  cases value <;> simp [asRecord]

/-- A required field is found exactly when the value has it. -/
@[simp] theorem require_eq_ok {value found : Value} {key : String} :
    value.require key = .ok found ↔ value.field? key = some found := by
  cases value with
  | record fields =>
      rw [require, field?]
      change (match Table.get? fields key with
        | some found => Except.ok found
        | none => Except.error (Fault.missingKey (.text key))) = _ ↔ Table.get? fields key = _
      cases Table.get? fields key <;> simp
  | _ => simp [require, field?]

/-- An optional field of a record is the one it has, or what stands for an absent one. -/
@[simp] theorem getOr_record (fields : Table Value) (key : String) (absent : Value) :
    (Value.record fields).getOr key absent = .ok ((Table.get? fields key).getD absent) := rfl

/-- A record has a key exactly when its fields do. -/
@[simp] theorem hasKey_record (fields : Table Value) (key : String) :
    (Value.record fields).hasKey key = .ok (Table.has fields key) := rfl

/-- Writing one field leaves every other field as it was. -/
theorem field?_withField_of_ne {value content : Value} {key other : String}
    (differs : other ≠ key) : (value.withField key content).field? other = value.field? other := by
  cases value with
  | record fields => exact Table.get?_set_of_ne differs
  | _ => rfl

end ApiStubs.Value
