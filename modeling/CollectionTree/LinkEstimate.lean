import CollectionTree.Decimal.Fixed
import CollectionTree.Metric
import CollectionTree.RingBuffer

/-
  Link estimates: the cost of recent transmissions to one
  neighbor.

  Key definitions include:
    * `LinkEstimate`
    * `LinkEstimate.fresh`
    * `LinkEstimate.recordSuccess`
    * `LinkEstimate.recordFailure`
    * `LinkEstimate.costs`
    * `LinkEstimate.etx`

  The estimate holds the costs of the last sixteen packets,
  so one bad packet has a bounded influence and is forgotten
  after sixteen more.
-/

namespace CollectionTree

/- The costs of the last packets over a link. -/
structure LinkEstimate where
  history : RingBuffer UInt8
  deriving DecidableEq, Repr

namespace LinkEstimate

------------------------------------------------------------
-- Recording
------------------------------------------------------------

/- How many packets are remembered. -/
def window : Nat :=
  16

/- The cost that stands in for packets not yet sent. -/
def initialCost : UInt8 :=
  4

/- The estimate of a link that has not been used. -/
def fresh : LinkEstimate :=
  ⟨RingBuffer.filled window initialCost⟩

/- The cost of a packet that was never acknowledged. -/
def failureCost
    (transmissions : UInt8) : UInt8 :=
  (min (2 * transmissions.toNat) 255).toUInt8

/- Note a packet's cost in place of the oldest one. -/
def record
    (e : LinkEstimate)
    (cost : UInt8) : LinkEstimate :=
  ⟨e.history.push cost⟩

/- Note a packet that was acknowledged. -/
def recordSuccess
    (e : LinkEstimate)
    (transmissions : UInt8) : LinkEstimate :=
  e.record transmissions

/- Note a packet that was never acknowledged. -/
def recordFailure
    (e : LinkEstimate)
    (transmissions : UInt8) : LinkEstimate :=
  e.record (failureCost transmissions)

------------------------------------------------------------
-- Reading
------------------------------------------------------------

/- The remembered costs, the oldest first. -/
def costs
    (e : LinkEstimate) : List UInt8 :=
  e.history.toList

/- The sum of the remembered costs. -/
def totalCost
    (e : LinkEstimate) : Nat :=
  e.history.slots.foldl
    (fun total cost => total + cost.toNat) 0

/- The expected cost of one packet. -/
def etx
    (e : LinkEstimate) : Metric :=
  (min (Metric.unit * e.totalCost / window) 65535).toUInt16

/- The expected number of transmissions for one packet. -/
def transmissionsText
    (e : LinkEstimate)
    (places : Nat) : String :=
  Fixed.text places e.etx.toNat Metric.unit

end LinkEstimate

end CollectionTree
