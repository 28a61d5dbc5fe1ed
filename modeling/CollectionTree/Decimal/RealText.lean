import CollectionTree.Decimal.Fixed
import CollectionTree.Decimal.Shortest

/-
  Real numbers as text.

  Key definitions include:
    * `RealText.plain`
    * `RealText.fixed`
    * `RealText.data?`

  Plain text and data text have as few digits as read back
  to the same number.  Plain text never has an exponent;
  data text always shows that the number is a real one, by a
  point or by an exponent.  Where two numbers of as few
  digits are equally near, plain text has the one farther
  from zero and data text the one with an even last digit.
-/

namespace CollectionTree

namespace RealText

------------------------------------------------------------
-- Positional Notation
------------------------------------------------------------

/- A minus sign for a negative number. -/
def sign
    (negative : Bool) : String :=
  if negative then "-" else ""

/-
  The digits before and the digits after the point, when the
  point stands after `point` digits.
-/
def positional
    (digits : List Char)
    (point : Int) : List Char × List Char :=
  if point ≤ 0 then
    (['0'], List.replicate (-point).toNat '0' ++ digits)
  else
    (digits.take point.toNat ++
        List.replicate (point.toNat - digits.length) '0',
      digits.drop point.toNat)

/-
  The shortest digits of a number, and after how many of
  them the point stands.
-/
def shortestDigits
    (tie : Shortest.Tie)
    (significand : Nat)
    (exponent : Int) : List Char × Int :=
  if significand = 0 then
    ([], 0)
  else
    let decimal :=
      Shortest.ofBinary tie significand exponent
    let digits := Whole.digits decimal.digits
    (digits, digits.length + decimal.exponent)

------------------------------------------------------------
-- Plain Text
------------------------------------------------------------

/- A number in a message or a report. -/
def plain
    (x : Float) : String :=
  match Binary64.ofFloat x with
  | .nan => "NaN"
  | .infinite negative => sign negative ++ "inf"
  | .finite negative significand exponent =>
      let (digits, point) :=
        shortestDigits .toLarger significand exponent
      let (whole, places) := positional digits point
      sign negative ++ String.ofList
        (if places.isEmpty then
          whole
        else
          whole ++ '.' :: places)

/- A number with a given number of places. -/
def fixed
    (places : Nat)
    (x : Float) : String :=
  match Binary64.ofFloat x with
  | .nan => "NaN"
  | .infinite negative => sign negative ++ "inf"
  | .finite negative significand exponent =>
      let (numerator, denominator) :=
        Binary64.quotient significand exponent
      sign negative ++
        Fixed.text places numerator denominator

------------------------------------------------------------
-- Data Text
------------------------------------------------------------

/-
  Positional notation is used when the point stands after
  more digits than `lowestPoint` and at most `highestPoint`.
  Of two equally near numbers `tie` says which is written.
-/
structure DataFormat where
  lowestPoint : Int
  highestPoint : Int
  tie : Shortest.Tie

/- Positional from 0.00001 to below 10000000000000000. -/
def dataFormat : DataFormat :=
  ⟨-5, 16, .toEven⟩

/- A finite number in a data file. -/
def finiteData
    (negative : Bool)
    (significand : Nat)
    (exponent : Int) : String :=
  let (digits, point) :=
    shortestDigits dataFormat.tie significand exponent
  if dataFormat.lowestPoint < point ∧
      point ≤ dataFormat.highestPoint then
    let (whole, places) := positional digits point
    sign negative ++ String.ofList
      (whole ++ '.' ::
        (if places.isEmpty then ['0'] else places))
  else
    let power := point - 1
    sign negative ++
      String.ofList
        (digits.take 1 ++
          (if digits.length ≤ 1 then
            []
          else
            '.' :: digits.drop 1)) ++
      (if power < 0 then "e-" else "e+") ++
      Whole.text power.natAbs

/-
  A number in a data file, which has no notation for numbers
  that are not finite.
-/
def data?
    (x : Float) : Option String :=
  match Binary64.ofFloat x with
  | .finite negative significand exponent =>
      some (finiteData negative significand exponent)
  | _ => none

end RealText

end CollectionTree
