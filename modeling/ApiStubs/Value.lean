import ApiStubs.Decimal
import ApiStubs.Table

/-!
# Document values

The values a reference document or a corrections document is made of. Documents are read as they
come, so a value may have any shape wherever it stands; a rule that needs one shape asks for it
where it uses the value. This module holds the type, the truth of a value, the equality under which
numbers of different kinds agree, and the plain look-ups.
-/

namespace ApiStubs

/-- A value of a document. The fields of a record have distinct keys. -/
inductive Value where
  | null
  | bool (value : Bool)
  | integer (value : Int)
  | real (value : Decimal)
  | text (value : String)
  | list (items : List Value)
  | record (fields : List (String × Value))
  deriving Repr, Inhabited

namespace Value

/-- A value that counts as given: not null, false, zero or empty. -/
def isGiven : Value → Bool
  | .null => false
  | .bool value => value
  | .integer value => value != 0
  | .real value => !value.isZero
  | .text value => value != ""
  | .list items => !items.isEmpty
  | .record fields => !fields.isEmpty

/-- The value itself when it counts as given, and a replacement otherwise. -/
def orElse (value replacement : Value) : Value :=
  if value.isGiven then value else replacement

/-- The integer a number or a truth value equals. -/
def whole? : Value → Option Int
  | .bool value => some (if value then 1 else 0)
  | .integer value => some value
  | .real value => value.whole?
  | _ => none

mutual

/-- Equality of values: numbers and truth values agree when they are the same number, lists agree
member by member, and records agree when they hold the same values under the same keys. -/
def same : Value → Value → Bool
  | .null, .null => true
  | .text left, .text right => left == right
  | .real left, .real right => left == right && left != .undefined || (left.isZero && right.isZero)
  | .list left, .list right => sameItems left right
  | .record left, .record right => left.length == right.length && sameFields left right
  | .bool left, right => right.whole? == some (if left then 1 else 0)
  | .integer left, right => right.whole? == some left
  | .real left, right => left.whole?.isSome && left.whole? == right.whole?
  | _, _ => false

/-- Equality of lists, member by member. -/
def sameItems : List Value → List Value → Bool
  | [], [] => true
  | left :: leftRest, right :: rightRest => same left right && sameItems leftRest rightRest
  | _, _ => false

/-- Whether every field has an equal under the same key. -/
def sameFields : List (String × Value) → List (String × Value) → Bool
  | [], _ => true
  | (key, left) :: rest, others =>
      (match others.lookup key with
        | some right => same left right
        | none => false) && sameFields rest others

end

/-- Whether a list holds a value equal to the given one. -/
def memberOf (value : Value) (items : List Value) : Bool :=
  items.any fun item => value.same item

/-- Values that can be members of a set or keys of a table: all but lists and records. -/
def isScalar : Value → Bool
  | .list _ => false
  | .record _ => false
  | _ => true

/-- The text a value holds. -/
def text? : Value → Option String
  | .text value => some value
  | _ => none

/-- The field of a record. -/
def field? : Value → String → Option Value
  | .record fields, key => fields.lookup key
  | _, _ => none

/-- Write a field of a record; any other value is left as it is. -/
def withField : Value → String → Value → Value
  | .record fields, key, value => .record (Table.set fields key value)
  | other, _, _ => other

/-- A list of texts. -/
def ofTexts (texts : List String) : Value :=
  .list (texts.map .text)

/-- A field of a record is the value written under its key. -/
theorem field?_record (fields : Table Value) (key : String) :
    (Value.record fields).field? key = Table.get? fields key := rfl

@[simp] theorem text?_text (value : String) : (Value.text value).text? = some value := rfl

/-- A field reads back the value written last. -/
@[simp] theorem field?_withField_record (fields : Table Value) (key : String) (value : Value) :
    ((Value.record fields).withField key value).field? key = some value :=
  Table.get?_set_self fields key value

end Value

end ApiStubs
