/-
  Where nodes are placed and how far their radios reach.

  Key definitions include:
    * `Topology`
    * `Topology.position`
    * `Topology.squaredDistance`
    * `reaches`

  Key theorems include:
    * `Topology.squaredDistance_comm`
-/

namespace CollectionTree

/- How nodes are placed. -/
inductive Topology
  | line
  | grid (width : UInt64)
  deriving DecidableEq, Repr

namespace Topology

/-
  The place of a node: along a line, or row by row.  A grid
  has one node at least in each row.
-/
def position
    (topology : Topology)
    (index : Nat) : Nat × Nat :=
  match topology with
  | .line => (index, 0)
  | .grid width =>
      let perRow := max width.toNat 1
      (index % perRow, index / perRow)

/- The difference of two numbers, whichever is greater. -/
def gap
    (a b : Nat) : Nat :=
  (a - b) + (b - a)

/- The square of the distance between two nodes. -/
def squaredDistance
    (topology : Topology)
    (a b : Nat) : Nat :=
  let p := topology.position a
  let q := topology.position b
  Nat.pow (gap p.1 q.1) 2 + Nat.pow (gap p.2 q.2) 2

/- Distance does not depend on the direction. -/
theorem squaredDistance_comm
    (topology : Topology)
    (a b : Nat) :
    topology.squaredDistance a b =
      topology.squaredDistance b a := by
  simp only [squaredDistance, gap, Nat.add_comm]

end Topology

/-
  Whether a radio of given range covers a distance, which is
  given by its square.  A little more than the range is
  allowed, so that rounding does not cut off a node.
-/
def reaches
    (range : Float)
    (squaredDistance : Nat) : Bool :=
  (Float.ofNat squaredDistance).sqrt ≤ range + 1e-9

end CollectionTree
