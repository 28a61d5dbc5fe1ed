import CollectionTree.Decimal.Whole

/-
  Decimal notation with a fixed number of places.

  Key definitions include:
    * `Fixed.roundedQuotient`
    * `Fixed.text`

  The exact quotient of two numbers is rounded to the
  nearest multiple of the last place, and a tie goes to the
  even one.
-/

namespace CollectionTree

namespace Fixed

/-
  The whole number nearest to a quotient; of two equally
  near, the even one.
-/
def roundedQuotient
    (numerator denominator : Nat) : Nat :=
  let whole := numerator / denominator
  let rest := numerator % denominator
  if 2 * rest < denominator then
    whole
  else if denominator < 2 * rest then
    whole + 1
  else if whole % 2 = 0 then
    whole
  else
    whole + 1

/- A quotient in decimal notation with `places` places. -/
def text
    (places numerator denominator : Nat) : String :=
  let scale := Nat.pow 10 places
  let scaled :=
    roundedQuotient (numerator * scale) denominator
  if places = 0 then
    Whole.text scaled
  else
    Whole.text (scaled / scale) ++ "." ++
      Whole.paddedText places (scaled % scale)

end Fixed

end CollectionTree
