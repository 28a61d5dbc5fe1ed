import CollectionTree.Config

/-
  The room that a machine has for tables.

  Key definitions include:
    * `Storage`
    * `Storage.addressable`
    * `Storage.Holds`

  How much room there is depends on the machine.  On every
  machine a table takes no more bytes than can be addressed,
  and an entry of it takes one at least.
-/

namespace CollectionTree

/- The most bytes that a table can take. -/
def Storage.largest : Nat :=
  Nat.pow 2 63 - 1

/- How many neighbors and packets a table has room for. -/
structure Storage where
  neighbors : Nat
  packets : Nat
  neighbors_le : neighbors ≤ Storage.largest
  packets_le : packets ≤ Storage.largest

namespace Storage

/- The bytes of an entry in a table of neighbors. -/
def neighborBytes : Nat :=
  48

/- The bytes of an entry in a memory of packets. -/
def packetBytes : Nat :=
  4

/- The room of a machine that lacks nothing it can address. -/
def addressable : Storage where
  neighbors := largest / neighborBytes
  packets := largest / packetBytes
  neighbors_le := Nat.div_le_self largest neighborBytes
  packets_le := Nat.div_le_self largest packetBytes

/- There is room for both tables that settings ask for. -/
def Holds
    (storage : Storage)
    (config : Config) : Prop :=
  config.neighborCapacity.toNat ≤ storage.neighbors ∧
    config.recentPackets.toNat ≤ storage.packets

instance
    (storage : Storage)
    (config : Config) :
    Decidable (storage.Holds config) := by
  unfold Holds
  infer_instance

end Storage

end CollectionTree
