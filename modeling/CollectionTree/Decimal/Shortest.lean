import CollectionTree.Decimal.Binary64

/-
  The shortest decimal number that reads back as a given
  binary one.

  Key definitions include:
    * `Shortest.Decimal`
    * `Shortest.Tie`
    * `Shortest.gridPoint?`
    * `Shortest.ofBinary`

  All numbers in an interval around a binary number round to
  it.  Multiples of a power of ten form a grid, and the
  coarsest grid with a point in the interval has the
  shortest numbers.  If any point of a grid lies in the
  interval, then so does one of the two that enclose the
  binary number, so only these two are tried.
-/

namespace CollectionTree

namespace Shortest

/- A number as digits times a power of ten. -/
structure Decimal where
  digits : Nat
  exponent : Int
  deriving DecidableEq, Repr

/-
  Which of two equally near numbers is used: the one with an
  even last digit, or the larger one.
-/
inductive Tie where
  | toEven
  | toLarger
  deriving DecidableEq, Repr

------------------------------------------------------------
-- Rounding Interval
------------------------------------------------------------

/-
  A binary number and the interval of numbers that round to
  it, in quarters of its last place.
-/
structure Interval where
  low : Nat
  value : Nat
  high : Nat
  closed : Bool
  deriving DecidableEq, Repr

/-
  The interval of a positive number.  The ends belong to it
  when the significand is even.  Below a power of two the
  numbers are twice as dense, so the interval is shorter.
-/
def Interval.ofBinary
    (significand : Nat)
    (exponent : Int) : Interval :=
  let atPower :=
    significand == Binary64.fullSignificand &&
      Binary64.leastExponent < exponent
  { low := 4 * significand - (if atPower then 1 else 2)
    value := 4 * significand
    high := 4 * significand + 2
    closed := significand % 2 == 0 }

------------------------------------------------------------
-- Grids
------------------------------------------------------------

/- Whether a tie falls to the lower point of a grid. -/
def Tie.fallsTo
    (tie : Tie)
    (below : Nat) : Bool :=
  match tie with
  | .toEven => below % 2 == 0
  | .toLarger => false

/-
  The grid point to use on one grid, when there is one.  A
  grid is given by the number of its units in a quarter of
  the last place, as `scale / unit`.  Of two points the
  nearer is used, and of two equally near the one that `tie`
  says.
-/
def gridPoint?
    (tie : Tie)
    (interval : Interval)
    (scale unit : Nat) : Option Nat :=
  let value := interval.value * scale
  let below := value / unit
  let toBelow := value - below * unit
  let toAbove := (below + 1) * unit - value
  let low := interval.low * scale
  let high := interval.high * scale
  let hasBelow :=
    low < below * unit ||
      (interval.closed && low == below * unit)
  let hasAbove :=
    (below + 1) * unit < high ||
      (interval.closed && (below + 1) * unit == high)
  if hasBelow && hasAbove then
    if toBelow < toAbove then
      some below
    else if toAbove < toBelow then
      some (below + 1)
    else if tie.fallsTo below then
      some below
    else
      some (below + 1)
  else if hasBelow then
    some below
  else if hasAbove then
    some (below + 1)
  else
    none

/-
  Try grids from `exponent` downward, at most `fuel` of
  them.
-/
def search
    (tie : Tie)
    (interval : Interval)
    (scale unit : Nat) :
    Nat → Int → Decimal
  | 0, exponent => ⟨0, exponent⟩
  | fuel + 1, exponent =>
      let point? :=
        if 0 ≤ exponent then
          gridPoint? tie interval scale
            (unit * Nat.pow 10 exponent.toNat)
        else
          gridPoint? tie interval
            (scale * Nat.pow 10 (-exponent).toNat) unit
      match point? with
      | some digits => ⟨digits, exponent⟩
      | none =>
          search tie interval scale unit fuel (exponent - 1)

/- How many grids are tried at most. -/
def gridCount : Nat :=
  32

/-
  A power of ten above a binary number, by at most three
  places.
-/
def exponentAbove
    (significand : Nat)
    (exponent : Int) : Int :=
  ((significand.log2 : Int) + 1 + exponent) * 30103 /
    100000 + 2

/- The shortest decimal number for a positive binary one. -/
def ofBinary
    (tie : Tie)
    (significand : Nat)
    (exponent : Int) : Decimal :=
  let interval := Interval.ofBinary significand exponent
  let ratio := Binary64.quotient 1 exponent
  search tie interval ratio.1 (4 * ratio.2) gridCount
    (exponentAbove significand exponent)

end Shortest

end CollectionTree
