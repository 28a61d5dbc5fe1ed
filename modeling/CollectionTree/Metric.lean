/-
  Route metrics: the cost of reaching the sink, in eighths
  of a transmission.

  Key definitions include:
    * `Metric`
    * `Metric.sink`
    * `Metric.unreachable`
    * `Metric.plus`
-/

namespace CollectionTree

/- A cost, announced to neighbors as a 16-bit word. -/
abbrev Metric :=
  UInt16

namespace Metric

/- One transmission. -/
def unit : Nat :=
  8

/- The metric of the sink. -/
def sink : Metric :=
  0

/- The metric of a node without a route. -/
def unreachable : Metric :=
  (unit * 64 - 1).toUInt16

/- Addition that stops at the greatest word. -/
def plus
    (a b : Metric) : Metric :=
  (min (a.toNat + b.toNat) 65535).toUInt16

end Metric

end CollectionTree
