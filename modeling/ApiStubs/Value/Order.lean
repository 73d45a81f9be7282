import ApiStubs.Value.Access
import ApiStubs.Value.Display

/-!
# The order of values

Numbers stand in the order of their sizes, texts in that of their characters, and lists are compared
at the first place where they differ. Values of different kinds, null and records have no order. The
entries of a value are read in ascending order of their keys, which for a list are the members
themselves, each leading to the member at that place.
-/

namespace ApiStubs

/-- The exact size of a number. The denominator of a finite one is positive. -/
inductive Quantity where
  | finite (numerator : Int) (denominator : Nat)
  | infinite (negative : Bool)
  | undefined
  deriving DecidableEq, Repr, Inhabited

namespace Quantity

/-- Whether a quantity is smaller than another. The undefined one is neither smaller nor larger than
any. -/
def below : Quantity → Quantity → Bool
  | .finite left leftDenominator, .finite right rightDenominator =>
      decide (left * rightDenominator < right * leftDenominator)
  | .finite _ _, .infinite negative => !negative
  | .infinite negative, .finite _ _ => negative
  | .infinite left, .infinite right => left && !right
  | _, _ => false

/-- No quantity is smaller than itself. -/
@[simp] theorem below_self (quantity : Quantity) : quantity.below quantity = false := by
  cases quantity <;> simp [below]

end Quantity

/-- The exact size of a real number. -/
def Decimal.quantity : Decimal → Quantity
  | .finite negative digits exponent =>
      let size := magnitude digits exponent
      .finite (if negative then -(size.numerator : Int) else size.numerator) size.denominator
  | .infinite negative => .infinite negative
  | .undefined => .undefined

namespace Value

/-- The size of a number or a truth value. -/
def quantity? : Value → Option Quantity
  | .bool value => some (.finite (if value then 1 else 0) 1)
  | .integer value => some (.finite value 1)
  | .real value => some value.quantity
  | _ => none

mutual

/-- Whether a value comes before another. -/
def less : Value → Value → Outcome Bool
  | .text left, .text right => .ok (decide (left < right))
  | .list left, .list right => lessItems left right
  | left, right =>
      match left.quantity?, right.quantity? with
      | some leftSize, some rightSize => .ok (leftSize.below rightSize)
      | _, _ => .error .wrongShape

/-- Whether a list comes before another: the first two members that differ decide, and a list comes
before those that continue it. -/
def lessItems : List Value → List Value → Outcome Bool
  | _, [] => .ok false
  | [], _ :: _ => .ok true
  | left :: leftRest, right :: rightRest =>
      if left.same right then lessItems leftRest rightRest else less left right

end

/-- Whether two values have an order. -/
def isComparable (left right : Value) : Bool :=
  (left.less right).isOk

/-- Whether a value may stand before another: the other does not come before it. -/
def le (left right : Value) : Bool :=
  match right.less left with
  | .ok isLess => !isLess
  | .error _ => false

/-- Whether all values of a list can be put in order. -/
def areComparable (values : List Value) : Bool :=
  decide (values.Pairwise fun left right => left.isComparable right = true)

/-- Values in ascending order; those that are equal keep their places. -/
def ascending (values : List Value) : Outcome (List Value) :=
  if areComparable values then .ok (values.mergeSort le) else .error .wrongShape

/-- The member at a place of a list. Places are whole numbers or truth values, and negative ones
count from the end. -/
def memberAt (members : List Value) (place : Value) : Outcome Value :=
  let at? (index : Int) : Outcome Value :=
    let position := if index < 0 then index + members.length else index
    if position < 0 then .error .missingPlace
    else
      match members[position.toNat]? with
      | some member => .ok member
      | none => .error .missingPlace
  match place with
  | .bool value => at? (if value then 1 else 0)
  | .integer value => at? value
  | _ => .error .wrongShape

/-- The entries of a value in ascending order of their keys. A text has entries only when it is
empty, that is none. -/
def sortedEntries : Value → Outcome (List (Value × Value))
  | .record fields => .ok ((Table.sorted fields).map fun entry => (.text entry.1, entry.2))
  | .list members => do
      (← ascending members).mapM fun key => do return (key, ← memberAt members key)
  | .text "" => .ok []
  | _ => .error .wrongShape

/-- The entries of a value in ascending order, under their keys as texts. -/
def sortedFields (value : Value) : Outcome (Table Value) := do
  return (← value.sortedEntries).map fun entry => (entry.1.display, entry.2)

/-- The fields of a record are read in ascending order of their keys. -/
@[simp] theorem sortedFields_record (fields : Table Value) :
    (Value.record fields).sortedFields = .ok (Table.sorted fields) := by
  simp [sortedFields, sortedEntries, bind, Except.bind, pure, Except.pure, Function.comp_def]

/-- Texts always have an order. -/
@[simp] theorem less_text (left right : String) :
    (Value.text left).less (.text right) = .ok (decide (left < right)) := by
  simp [less]

/-- Two texts stand in order when the first is not the larger one. -/
@[simp] theorem le_text (left right : String) :
    (Value.text left).le (.text right) = decide (left ≤ right) := by
  simp [le, ← String.not_lt]

end Value

end ApiStubs
