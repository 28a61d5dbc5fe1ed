/-
  Binary floating point numbers taken apart.

  Key definitions include:
    * `Binary64`
    * `Binary64.ofFloat`
-/

namespace CollectionTree

/-
  A number in binary64 format.  A finite one is its
  significand times a power of two.
-/
inductive Binary64
  | nan
  | infinite (negative : Bool)
  | finite
      (negative : Bool)
      (significand : Nat)
      (exponent : Int)
  deriving DecidableEq, Repr

namespace Binary64

/- The least significand of a number of full precision. -/
def fullSignificand : Nat :=
  Nat.pow 2 52

/- The exponent of the numbers closest to zero. -/
def leastExponent : Int :=
  -1074

/- Take a number apart by its bit pattern. -/
def ofFloat
    (x : Float) : Binary64 :=
  let bits := x.toBits.toNat
  let negative := bits / Nat.pow 2 63 == 1
  let exponent : Nat := bits / Nat.pow 2 52 % 2048
  let fraction := bits % Nat.pow 2 52
  if exponent = 2047 then
    if fraction = 0 then .infinite negative else .nan
  else if exponent = 0 then
    .finite negative fraction leastExponent
  else
    .finite negative (fraction + fullSignificand)
      (leastExponent + Int.ofNat exponent - 1)

/-
  The quotient of two numbers that a significand and an
  exponent stand for.
-/
def quotient
    (significand : Nat)
    (exponent : Int) : Nat × Nat :=
  if 0 ≤ exponent then
    (significand * Nat.pow 2 exponent.toNat, 1)
  else
    (significand, Nat.pow 2 (-exponent).toNat)

end Binary64

end CollectionTree
