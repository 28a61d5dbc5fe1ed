import CollectionTree.Decimal.Whole

/-
  Real numbers read from text.

  Key definitions include:
    * `RealReading.parse?`

  A number is an optional sign and either a name for an
  infinity or for no number, in any case of letters, or
  decimal digits with an optional point among them and an
  optional exponent.  One digit at least stands before or
  after the point.
-/

namespace CollectionTree

namespace RealReading

------------------------------------------------------------
-- Digits
------------------------------------------------------------

/- The digits that a text starts with, and what follows. -/
def spanDigits
    (text : List Char) : List Char × List Char :=
  text.span Char.isDigit

/- The number that a list of digits stands for. -/
def value
    (digits : List Char) : Nat :=
  digits.foldl
    (fun total c => 10 * total + (Whole.digit? c).getD 0) 0

------------------------------------------------------------
-- Parts of a Number
------------------------------------------------------------

/- A sign, if there is one, and what follows. -/
def splitSign
    (text : List Char) : Bool × List Char :=
  match text with
  | '-' :: rest => (true, rest)
  | '+' :: rest => (false, rest)
  | _ => (false, text)

/- The exponent that makes up the end of a number. -/
def parseExponent?
    (text : List Char) : Option Int :=
  match text with
  | [] => some 0
  | mark :: rest =>
      if mark = 'e' ∨ mark = 'E' then
        let (negative, digits) := splitSign rest
        if digits.isEmpty ∨ !digits.all Char.isDigit then
          none
        else
          some (if negative then
            -(value digits : Int)
          else
            value digits)
      else
        none

/- The digits after a point, if there is one. -/
def splitPlaces
    (text : List Char) : List Char × List Char :=
  match text with
  | '.' :: rest => spanDigits rest
  | _ => ([], text)

/- The names of numbers that have no digits. -/
def named?
    (text : List Char) : Option Float :=
  let name := String.ofList (text.map Char.toLower)
  if name = "inf" ∨ name = "infinity" then
    some (1.0 / 0.0)
  else if name = "nan" then
    some (0.0 / 0.0)
  else
    none

------------------------------------------------------------
-- Values
------------------------------------------------------------

/- From this power of ten on, every number is infinite. -/
def magnitudeLimit : Int :=
  400

/- The nearest number to digits times a power of ten. -/
def nearest
    (digits : Nat)
    (exponent : Int) : Float :=
  let magnitude :=
    ((Whole.digits digits).length : Int) + exponent
  if digits = 0 ∨ magnitude < -magnitudeLimit then
    0.0
  else if magnitudeLimit < magnitude then
    1.0 / 0.0
  else
    Float.ofScientific digits (exponent < 0) exponent.natAbs

/- A number without its sign. -/
def parseUnsigned?
    (text : List Char) : Option Float :=
  let (whole, rest) := spanDigits text
  let (places, rest) := splitPlaces rest
  if whole.isEmpty ∧ places.isEmpty then
    named? text
  else
    (parseExponent? rest).map (fun exponent =>
      nearest (value (whole ++ places))
        (exponent - places.length))

/- Read a number; `none` when the text is not one. -/
def parse?
    (text : List Char) : Option Float :=
  let (negative, rest) := splitSign text
  (parseUnsigned? rest).map
    (fun x => if negative then -x else x)

end RealReading

end CollectionTree
