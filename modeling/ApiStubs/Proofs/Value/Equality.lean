import ApiStubs.Value

/-!
# Equality of values

Values are compared constructor by constructor, without the numbers and truth values that `same`
takes for one another and in the order of their fields. The comparison decides equality, so what a
text is read as can be evaluated.
-/

namespace ApiStubs.Value

mutual

/-- Whether two values are equal. -/
def equal : Value → Value → Bool
  | .null, .null => true
  | .bool left, .bool right => left == right
  | .integer left, .integer right => left == right
  | .real left, .real right => left == right
  | .text left, .text right => left == right
  | .list left, .list right => equalItems left right
  | .record left, .record right => equalFields left right
  | _, _ => false

/-- Whether two lists are equal member by member. -/
def equalItems : List Value → List Value → Bool
  | [], [] => true
  | left :: leftRest, right :: rightRest => equal left right && equalItems leftRest rightRest
  | _, _ => false

/-- Whether two lists of fields are equal field by field. -/
def equalFields : List (String × Value) → List (String × Value) → Bool
  | [], [] => true
  | (key, left) :: leftRest, (otherKey, right) :: rightRest =>
      key == otherKey && equal left right && equalFields leftRest rightRest
  | _, _ => false

end

mutual

/-- The comparison decides equality. -/
theorem equal_iff (left right : Value) : left.equal right = true ↔ left = right := by
  cases left <;> cases right <;> simp [equal]
  case list.list left right => exact equalItems_iff left right
  case record.record left right => exact equalFields_iff left right

theorem equalItems_iff (left right : List Value) :
    equalItems left right = true ↔ left = right := by
  match left, right with
  | [], [] => simp [equalItems]
  | [], _ :: _ => simp [equalItems]
  | _ :: _, [] => simp [equalItems]
  | left :: leftRest, right :: rightRest =>
      simp [equalItems, equal_iff left right, equalItems_iff leftRest rightRest]

theorem equalFields_iff (left right : List (String × Value)) :
    equalFields left right = true ↔ left = right := by
  match left, right with
  | [], [] => simp [equalFields]
  | [], _ :: _ => simp [equalFields]
  | _ :: _, [] => simp [equalFields]
  | (key, left) :: leftRest, (otherKey, right) :: rightRest =>
      simp [equalFields, equal_iff left right, equalFields_iff leftRest rightRest, and_assoc]

end

end ApiStubs.Value
