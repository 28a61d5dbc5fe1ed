import CollectionTree.Address
import CollectionTree.Duration
import CollectionTree.LinkEstimate
import CollectionTree.Storage

/-
  The neighbors that a node has heard, in the order in which
  they were added.

  Key definitions include:
    * `Neighbor`
    * `Neighbor.cost`
    * `Neighbor.hasRoute`
    * `NeighborTable`
    * `NeighborTable.allocate?`
    * `NeighborTable.add`
    * `NeighborTable.updateMetric`
    * `NeighborTable.recordSuccess`
    * `NeighborTable.recordFailure`
    * `NeighborTable.best`
    * `NeighborTable.tick`

  The table is bounded: a full table refuses newcomers and
  never evicts, so entries leave only by age or on request.
-/

namespace CollectionTree

------------------------------------------------------------
-- Neighbors
------------------------------------------------------------

/-
  A node within range: the metric that it announced last,
  the estimate of the link to it, and the time since it was
  last heard or reached.
-/
structure Neighbor where
  address : Address
  metric : Metric
  link : LinkEstimate
  age : Duration
  deriving DecidableEq, Repr

namespace Neighbor

/- A neighbor heard for the first time. -/
def new
    (address : Address)
    (metric : Metric) : Neighbor :=
  ⟨address, metric, LinkEstimate.fresh, Duration.zero⟩

/- The expected cost of a packet to the neighbor. -/
def etx
    (n : Neighbor) : Metric :=
  n.link.etx

/- The cost of reaching the sink through the neighbor. -/
def cost
    (n : Neighbor) : Metric :=
  Metric.plus n.metric n.etx

/- Whether the sink can be reached through the neighbor. -/
def hasRoute
    (n : Neighbor) : Bool :=
  n.metric < Metric.unreachable &&
    n.cost < Metric.unreachable

/- Whether the neighbor was silent for a whole lifetime. -/
def isStale
    (n : Neighbor)
    (lifetime : Duration) : Bool :=
  lifetime ≤ n.age

/- The neighbor after some more time. -/
def aged
    (n : Neighbor)
    (elapsed : Duration) : Neighbor :=
  { n with age := n.age.plus elapsed }

/- The neighbor when it announces a metric. -/
def announcing
    (n : Neighbor)
    (metric : Metric) : Neighbor :=
  { n with metric := metric, age := Duration.zero }

/- The neighbor when it acknowledges a packet. -/
def acknowledging
    (n : Neighbor)
    (transmissions : UInt8) : Neighbor :=
  { n with
    link := n.link.recordSuccess transmissions
    age := Duration.zero }

/- The neighbor when it fails to acknowledge a packet. -/
def failing
    (n : Neighbor)
    (transmissions : UInt8) : Neighbor :=
  { n with link := n.link.recordFailure transmissions }

end Neighbor

------------------------------------------------------------
-- Tables
------------------------------------------------------------

/- Entries in order of arrival, with a bound and a lifetime. -/
structure NeighborTable where
  entries : List Neighbor
  capacity : Nat
  lifetime : Duration
  deriving DecidableEq, Repr

/- What became of a request to add a neighbor. -/
inductive AddResult
  | added
  | alreadyExists
  | tableFull
  deriving DecidableEq, Repr

namespace NeighborTable

/- A table without entries. -/
def empty
    (capacity : Nat)
    (lifetimeSeconds : Nat) : NeighborTable :=
  ⟨[], capacity, Duration.ofSeconds lifetimeSeconds 0⟩

/- A table without entries, if there is room for them. -/
def allocate?
    (storage : Storage)
    (capacity : Nat)
    (lifetimeSeconds : Nat) : Option NeighborTable :=
  if capacity ≤ storage.neighbors then
    some (empty capacity lifetimeSeconds)
  else
    none

/- The table that a node has unless one says otherwise. -/
def standard : NeighborTable :=
  empty 8 180

/- The number of entries. -/
def size
    (t : NeighborTable) : Nat :=
  t.entries.length

/- The entry at a place in the order of arrival. -/
def get?
    (t : NeighborTable)
    (i : Nat) : Option Neighbor :=
  t.entries[i]?

/- The entry of an address. -/
def find?
    (t : NeighborTable)
    (a : Address) : Option Neighbor :=
  t.entries.find? (fun n => n.address == a)

/- Whether an address has an entry. -/
def contains
    (t : NeighborTable)
    (a : Address) : Bool :=
  t.entries.any (fun n => n.address == a)

------------------------------------------------------------
-- Changing Entries
------------------------------------------------------------

/-
  Add a neighbor at the end, unless it is known, which is
  noticed first, or the table is full.
-/
def add
    (t : NeighborTable)
    (a : Address)
    (metric : Metric) : AddResult × NeighborTable :=
  if t.contains a then
    (.alreadyExists, t)
  else if t.capacity ≤ t.size then
    (.tableFull, t)
  else
    (.added,
      { t with entries := t.entries ++ [.new a metric] })

/- Change the first entry of an address. -/
def modifyEntry
    (a : Address)
    (change : Neighbor → Neighbor) :
    List Neighbor → List Neighbor
  | [] => []
  | n :: rest =>
      if n.address = a then
        change n :: rest
      else
        n :: modifyEntry a change rest

/-
  Change the entry of an address.  The answer says whether
  there was one.
-/
def modify
    (t : NeighborTable)
    (a : Address)
    (change : Neighbor → Neighbor) : Bool × NeighborTable :=
  (t.contains a,
    { t with entries := modifyEntry a change t.entries })

/- Note the metric that a known neighbor announced. -/
def updateMetric
    (t : NeighborTable)
    (a : Address)
    (metric : Metric) : Bool × NeighborTable :=
  t.modify a (fun n => n.announcing metric)

/- Note a packet that a known neighbor acknowledged. -/
def recordSuccess
    (t : NeighborTable)
    (a : Address)
    (transmissions : UInt8) : Bool × NeighborTable :=
  t.modify a (fun n => n.acknowledging transmissions)

/- Note a packet that a known neighbor did not acknowledge. -/
def recordFailure
    (t : NeighborTable)
    (a : Address)
    (transmissions : UInt8) : Bool × NeighborTable :=
  t.modify a (fun n => n.failing transmissions)

------------------------------------------------------------
-- Dropping Entries
------------------------------------------------------------

/- Drop the entry of an address. -/
def remove
    (t : NeighborTable)
    (a : Address) : Option Neighbor × NeighborTable :=
  (t.find? a,
    { t with
      entries :=
        t.entries.eraseP (fun n => n.address == a) })

/-
  Let time pass for every entry and drop those that reach
  the lifetime.  The answer lists the dropped addresses.
-/
def tick
    (t : NeighborTable)
    (elapsed : Duration) : List Address × NeighborTable :=
  let aged := t.entries.map (fun n => n.aged elapsed)
  ((aged.filter (fun n => n.isStale t.lifetime)).map
      Neighbor.address,
    { t with
      entries :=
        aged.filter (fun n => !n.isStale t.lifetime) })

/- Change the lifetime of all entries. -/
def setLifetime
    (t : NeighborTable)
    (seconds : Nat) : NeighborTable :=
  { t with lifetime := Duration.ofSeconds seconds 0 }

/- Drop all entries. -/
def clear
    (t : NeighborTable) : NeighborTable :=
  { t with entries := [] }

------------------------------------------------------------
-- Choosing a Next Hop
------------------------------------------------------------

/-
  The entry with a route that costs least; among equals, the
  one that was added first.
-/
def best
    (t : NeighborTable) : Option Neighbor :=
  (t.entries.filter Neighbor.hasRoute).minOn?
    Neighbor.cost

end NeighborTable

end CollectionTree
