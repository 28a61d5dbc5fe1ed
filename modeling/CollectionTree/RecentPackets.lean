import CollectionTree.Address
import CollectionTree.RingBuffer
import CollectionTree.Storage

/-
  Recent packets: a small memory of which packets came by,
  for dropping duplicates.

  Key definitions include:
    * `PacketId`
    * `RecentPackets`
    * `RecentPackets.allocate?`
    * `RecentPackets.seen`
    * `RecentPackets.record`
    * `RecentPackets.accept`
-/

namespace CollectionTree

/- What tells packets apart from end to end. -/
structure PacketId where
  originator : Address
  seqno : UInt8
  deriving DecidableEq, Repr

/- The packets remembered, the oldest to be forgotten next. -/
structure RecentPackets where
  ring : RingBuffer (Option PacketId)
  deriving DecidableEq, Repr

namespace RecentPackets

/- How many packets are remembered unless one says otherwise. -/
def defaultCapacity : Nat :=
  2

/- An empty memory; there is room for one packet at least. -/
def empty
    (capacity : Nat) : RecentPackets :=
  ⟨RingBuffer.filled (max capacity 1) none⟩

/- An empty memory, if there is room for it. -/
def allocate?
    (storage : Storage)
    (capacity : Nat) : Option RecentPackets :=
  if max capacity 1 ≤ storage.packets then
    some (empty capacity)
  else
    none

/- How many packets are remembered. -/
def capacity
    (r : RecentPackets) : Nat :=
  r.ring.size

/- Whether a packet is remembered. -/
def seen
    (r : RecentPackets)
    (id : PacketId) : Bool :=
  r.ring.slots.contains (some id)

/- Remember a packet in place of the oldest. -/
def record
    (r : RecentPackets)
    (id : PacketId) : RecentPackets :=
  ⟨r.ring.push (some id)⟩

/-
  Remember a packet unless it is remembered already.  The
  answer says whether the packet is new.
-/
def accept
    (r : RecentPackets)
    (id : PacketId) : Bool × RecentPackets :=
  if r.seen id then
    (false, r)
  else
    (true, r.record id)

end RecentPackets

end CollectionTree
