import ApiStubs.Decimal

/-!
# Real numbers to a given precision

Three forms of a number that is rounded: with a number of places behind the point, with a number of
digits and an exponent, and the shorter of these two for a number of digits. What is rounded is the
number itself and not its shortest decimal; a half goes to the even neighbour.
-/

namespace ApiStubs.Decimal

/-- How a rounded number is written. -/
inductive RoundedForm where
  /-- A number of places behind the point. -/
  | positional
  /-- One digit before the point, a number of places behind it, and an exponent. -/
  | scientific
  /-- A number of digits, with an exponent where the number is very small or has more digits before
  the point. -/
  | general
  deriving DecidableEq, Repr, Inhabited

/-- Digits with a point behind the first ones. Nothing behind the point leaves it out, unless it is
kept. -/
def withPoint (keepsPoint : Bool) (before after : List Char) : List Char :=
  if after.isEmpty && !keepsPoint then before else before ++ '.' :: after

/-- A number with some places behind the point. -/
def writePositional (keepsPoint : Bool) (places : Nat) (ratio : Ratio) : List Char :=
  let rounded := (ratio.dividedBy (.scaled 1 10 (-places))).round
  let digits := Nat.toDigits 10 rounded
  let padded := List.replicate (places + 1 - digits.length) '0' ++ digits
  let whole := padded.length - places
  withPoint keepsPoint (padded.take whole) (padded.drop whole)

/-- The leading digits of a number and the exponent of the first one. -/
def leadingDigits (count : Nat) (ratio : Ratio) : List Char × Int :=
  if ratio.numerator = 0 then (List.replicate count '0', 0)
  else
    let leading := leadingExponent ratio
    let rounded := (ratio.dividedBy (.scaled 1 10 (leading - count + 1))).round
    let digits := Nat.toDigits 10 rounded
    if count < digits.length then (digits.take count, leading + 1) else (digits, leading)

/-- A number with one digit before the point, some places behind it, and an exponent. -/
def writeScientific (keepsPoint : Bool) (places : Nat) (ratio : Ratio) : List Char :=
  let (digits, exponent) := leadingDigits (places + 1) ratio
  withPoint keepsPoint (digits.take 1) (digits.drop 1) ++ exponentMark exponent

/-- Digits without the zeros at their end. -/
def dropTrailingZeros (digits : List Char) : List Char :=
  (digits.reverse.dropWhile (· == '0')).reverse

/-- A number with some digits. Zeros at the end of the places are left out, unless the point is
kept. -/
def writeGeneral (keepsPoint : Bool) (count : Nat) (ratio : Ratio) : List Char :=
  let (digits, exponent) := leadingDigits count ratio
  let shorten (places : List Char) : List Char :=
    if keepsPoint then places else dropTrailingZeros places
  if -4 ≤ exponent ∧ exponent < count then
    if 0 ≤ exponent then
      let whole := exponent.toNat + 1
      withPoint keepsPoint (digits.take whole) (shorten (digits.drop whole))
    else
      let zeros := List.replicate (-exponent - 1).toNat '0'
      withPoint keepsPoint ['0'] (shorten (zeros ++ digits))
  else
    withPoint keepsPoint (digits.take 1) (shorten (digits.drop 1)) ++ exponentMark exponent

/-- A number in a form, without its sign. -/
def writeRounded (form : RoundedForm) (keepsPoint : Bool) (precision : Nat) : Decimal → List Char
  | .finite _ digits exponent =>
      let ratio := magnitude digits exponent
      match form with
      | .positional => writePositional keepsPoint precision ratio
      | .scientific => writeScientific keepsPoint precision ratio
      | .general => writeGeneral keepsPoint (max 1 precision) ratio
  | .infinite _ => "inf".toList
  | .undefined => "nan".toList

/-- Whether a number is written with a minus sign. -/
def isNegative : Decimal → Bool
  | .finite negative _ _ => negative
  | .infinite negative => negative
  | .undefined => false

/-- The whole part of a finite number, rounded toward zero. -/
def truncated? : Decimal → Option Int
  | .finite negative digits exponent =>
      let whole : Int := (magnitude digits exponent).floor
      some (if negative then -whole else whole)
  | _ => none

/-- The real number nearest to an integer, infinite beyond the largest finite one. -/
def ofInt (value : Int) : Decimal :=
  ofScientific (decide (value < 0)) value.natAbs 0

end ApiStubs.Decimal
