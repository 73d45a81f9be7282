/-!
# Real numbers in their shortest decimal form

Real numbers of a document are binary floating-point numbers with 53 significant bits. A `Decimal`
holds such a number as the decimal with the fewest digits that reads back as it, so that equal
numbers are equal terms and the digits need no further work when they are written. Everything is
computed in whole numbers.
-/

namespace ApiStubs

/-- A real number as its shortest decimal `digits * 10 ^ exponent`. -/
inductive Decimal where
  | finite (negative : Bool) (digits : Nat) (exponent : Int)
  | infinite (negative : Bool)
  | undefined
  deriving DecidableEq, Repr, Inhabited

namespace Decimal

/-- A positive ratio of whole numbers. -/
structure Ratio where
  numerator : Nat
  denominator : Nat

namespace Ratio

/-- The ratio `factor * base ^ exponent`. -/
def scaled (factor base : Nat) (exponent : Int) : Ratio :=
  ⟨factor * Nat.pow base exponent.toNat, Nat.pow base (-exponent).toNat⟩

/-- The quotient of two ratios. -/
def dividedBy (left right : Ratio) : Ratio :=
  ⟨left.numerator * right.denominator, left.denominator * right.numerator⟩

/-- Whether the first ratio is smaller. -/
def below (left right : Ratio) : Bool :=
  left.numerator * right.denominator < right.numerator * left.denominator

/-- The whole part. -/
def floor (ratio : Ratio) : Nat :=
  ratio.numerator / ratio.denominator

/-- The nearest whole number, a half going to the even one. -/
def round (ratio : Ratio) : Nat :=
  let quotient := ratio.numerator / ratio.denominator
  let doubled := 2 * (ratio.numerator % ratio.denominator)
  if doubled < ratio.denominator then quotient
  else if ratio.denominator < doubled then quotient + 1
  else quotient + quotient % 2

end Ratio

/-- A binary floating-point number `significand * 2 ^ exponent`. -/
structure Binary where
  significand : Nat
  exponent : Int

/-- The smallest significand of a number that is not subnormal. -/
def leastSignificand : Nat := Nat.pow 2 52

/-- The bound below which significands lie. -/
def significandBound : Nat := Nat.pow 2 53

/-- The binary number nearest to a ratio, `none` beyond the largest finite one. -/
def nearest (ratio : Ratio) : Option Binary :=
  let magnitude : Int := (Nat.log2 ratio.numerator : Int) - Nat.log2 ratio.denominator
  let start : Int := max (-1074) (magnitude - 53)
  let fits := (ratio.dividedBy (.scaled 1 2 start)).floor < significandBound
  let exponent := if fits then start else start + 1
  let significand := (ratio.dividedBy (.scaled 1 2 exponent)).round
  let result : Binary :=
    if significand = significandBound then ⟨leastSignificand, exponent + 1⟩
    else ⟨significand, exponent⟩
  if 971 < result.exponent then none else some result

/-- Remove the trailing zeros of the digits; the fuel bounds their number. -/
def reduce : Nat → Nat → Int → Nat × Int
  | 0, digits, exponent => (digits, exponent)
  | fuel + 1, digits, exponent =>
      if digits ≠ 0 ∧ digits % 10 = 0 then reduce fuel (digits / 10) (exponent + 1)
      else (digits, exponent)

/-- The exponent of the leading decimal digit of a positive ratio above `10 ^ (-400)`. -/
def leadingExponent (ratio : Ratio) : Int :=
  ((Nat.toDigits 10 (ratio.numerator * Nat.pow 10 400 / ratio.denominator)).length : Int) - 401

/-- The shortest decimal that reads back as a positive binary number: of the grids with one to
seventeen digits the first that has a point in the interval of ratios rounding to the number, and
there the point nearer to it. -/
def shortest (number : Binary) : Nat × Int :=
  let quarter := number.exponent - 2
  let exact := Ratio.scaled (4 * number.significand) 2 quarter
  let narrow := number.significand = leastSignificand ∧ -1074 < number.exponent
  let low := Ratio.scaled (4 * number.significand - if narrow then 1 else 2) 2 quarter
  let high := Ratio.scaled (4 * number.significand + 2) 2 quarter
  let closed := number.significand % 2 = 0
  let inside (point : Ratio) : Bool :=
    if closed then !point.below low && !high.below point else low.below point && point.below high
  let leading := leadingExponent exact
  let onGrid (count : Nat) : Option (Nat × Int) :=
    let exponent := leading - (count : Int) + 1
    let position := exact.dividedBy (.scaled 1 10 exponent)
    let under := position.floor
    let above := under + 1
    match inside (.scaled under 10 exponent), inside (.scaled above 10 exponent) with
    | true, true => some (position.round, exponent)
    | true, false => some (under, exponent)
    | false, true => some (above, exponent)
    | false, false => none
  match (List.range 17).findSome? fun index => onGrid (index + 1) with
  | some (digits, exponent) => reduce 17 digits exponent
  | none => (0, 0)

/-- The real number written `digits * 10 ^ exponent`, rounded to the nearest binary number. -/
def ofScientific (negative : Bool) (digits : Nat) (exponent : Int) : Decimal :=
  let length : Int := (Nat.toDigits 10 digits).length
  if digits = 0 ∨ length + exponent < -400 then .finite negative 0 0
  else if 400 < length + exponent then .infinite negative
  else
    match nearest (.scaled digits 10 exponent) with
    | none => .infinite negative
    | some number =>
        if number.significand = 0 then .finite negative 0 0
        else
          let (shortDigits, shortExponent) := shortest number
          .finite negative shortDigits shortExponent

/-- The size of the binary number that a shortest decimal stands for. -/
def magnitude (digits : Nat) (exponent : Int) : Ratio :=
  match nearest (.scaled digits 10 exponent) with
  | some number => .scaled number.significand 2 number.exponent
  | none => .scaled digits 10 exponent

/-- The integer a real number equals, if it is whole. -/
def whole? : Decimal → Option Int
  | .finite negative digits exponent =>
      let ratio := magnitude digits exponent
      if ratio.numerator % ratio.denominator = 0 then
        some (if negative then -(ratio.floor : Int) else ratio.floor)
      else none
  | _ => none

/-- Whether a number is zero. -/
def isZero : Decimal → Bool
  | .finite _ digits _ => digits == 0
  | _ => false

/-- An exponent behind the digits of a number, with its sign and at least two digits. -/
def exponentMark (exponent : Int) : List Char :=
  let places := Nat.toDigits 10 exponent.natAbs
  let padded := if places.length < 2 then '0' :: places else places
  ['e', if exponent < 0 then '-' else '+'] ++ padded

/-- The text of a finite number: positional while the leading digit's exponent lies from -4 to 15,
with an exponent of at least two digits otherwise; a whole number keeps one decimal place. -/
def finiteText (negative : Bool) (digits : Nat) (exponent : Int) : String :=
  let places := Nat.toDigits 10 digits
  let leading : Int := if digits = 0 then 0 else exponent + places.length - 1
  let body : List Char :=
    if -4 ≤ leading ∧ leading < 16 then
      if 0 ≤ exponent then places ++ List.replicate exponent.toNat '0' ++ ['.', '0']
      else if 0 ≤ leading then
        places.take (leading.toNat + 1) ++ ['.'] ++ places.drop (leading.toNat + 1)
      else ['0', '.'] ++ List.replicate (-leading - 1).toNat '0' ++ places
    else
      let fraction := if places.length = 1 then [] else '.' :: places.drop 1
      places.take 1 ++ fraction ++ exponentMark leading
  String.ofList (if negative then '-' :: body else body)

end Decimal

end ApiStubs
