import CollectionTree.Proofs.Settings
import CollectionTree.Proofs.Windows

/-
  Sequence numbers come round after 256 packets: which of
  them a memory takes for new.

  Key definitions include:
    * `PacketId.inOrder`
    * `RecentPackets.acceptAll`
    * `RecentPackets.keptCount`

  Key theorems include:
    * `PacketId.nth_eq_iff`
    * `RecentPackets.seen_inOrder_iff`
    * `RecentPackets.acceptAll_inOrder`
    * `RecentPackets.long_memories_stop_at_wrap`

  A packet has the number of the one 256 packets before.
  A memory for fewer packets has forgotten that one.  One
  for as many still has it, and since a packet that is taken
  for a duplicate is not recorded, it never forgets it.
-/

namespace CollectionTree

------------------------------------------------------------
-- Packets in Order
------------------------------------------------------------

namespace PacketId

/- The packet that an originator sends after `k` others. -/
def nth
    (originator : Address)
    (k : Nat) : PacketId :=
  ⟨originator, k.toUInt8⟩

/- The first packets of an originator, in order. -/
def inOrder
    (originator : Address)
    (count : Nat) : List PacketId :=
  (List.range count).map (nth originator)

theorem inOrder_succ
    (originator : Address)
    (count : Nat) :
    inOrder originator (count + 1) =
      inOrder originator count ++ [nth originator count] := by
  unfold inOrder
  rw [List.range_succ, List.map_append]
  rfl

theorem nth_eq_iff
    {originator : Address}
    {j k : Nat} :
    nth originator j = nth originator k ↔
      j % 256 = k % 256 := by
  unfold nth
  rw [PacketId.mk.injEq, ← UInt8.toNat_inj, Nat.toUInt8_eq,
    Nat.toUInt8_eq, UInt8.toNat_ofNat', UInt8.toNat_ofNat']
  exact and_iff_right rfl

/- The latest packets of some that came in order. -/
theorem mem_latest_inOrder_iff
    {originator : Address}
    {count size : Nat}
    {id : PacketId} :
    id ∈ (inOrder originator count).reverse.take size ↔
      ∃ j, j < count ∧ count ≤ j + size ∧
        nth originator j = id := by
  have hLength : (inOrder originator count).length = count := by
    unfold inOrder
    rw [List.length_map, List.length_range]
  rw [List.take_reverse, List.mem_reverse, hLength]
  unfold inOrder
  rw [← List.map_drop, List.mem_map, List.range_eq_range',
    List.drop_range']
  simp only [List.mem_range'_1]
  constructor
  · rintro ⟨j, hRange, hSame⟩
    exact ⟨j, by omega, by omega, hSame⟩
  · rintro ⟨j, hLess, hLate, hSame⟩
    exact ⟨j, by omega, hSame⟩

end PacketId

namespace RecentPackets

open PacketId

------------------------------------------------------------
-- Packets That Come By
------------------------------------------------------------

/-
  Let packets come by one after the other.  The answers say
  which of them are new.
-/
def acceptAll
    (r : RecentPackets) :
    List PacketId → List Bool × RecentPackets
  | [] => ([], r)
  | id :: rest =>
      let later := (r.accept id).2.acceptAll rest
      ((r.accept id).1 :: later.1, later.2)

theorem acceptAll_concat
    (r : RecentPackets)
    (ids : List PacketId)
    (id : PacketId) :
    r.acceptAll (ids ++ [id]) =
      ((r.acceptAll ids).1 ++
          [((r.acceptAll ids).2.accept id).1],
        ((r.acceptAll ids).2.accept id).2) := by
  induction ids generalizing r with
  | nil => rfl
  | cons first rest ih =>
      rw [List.cons_append, acceptAll, ih]
      rfl

------------------------------------------------------------
-- Packets That Come in Order
------------------------------------------------------------

/- A packet is taken for the one 256 packets before. -/
theorem seen_inOrder_iff
    (capacity : Nat)
    (originator : Address)
    (count : Nat) :
    (recorded capacity (inOrder originator count).reverse).seen
        (nth originator count) = true ↔
      256 ≤ capacity ∧ 256 ≤ count := by
  rw [seen_recorded_iff, mem_latest_inOrder_iff]
  constructor
  · rintro ⟨j, hLess, hLate, hSame⟩
    have hRound := nth_eq_iff.mp hSame
    omega
  · rintro ⟨hLong, hMany⟩
    refine ⟨count - 256, by omega, by omega, ?_⟩
    rw [nth_eq_iff]
    omega

/- All later packets are taken for one of the first 256. -/
theorem seen_of_long
    {capacity : Nat}
    (hLong : 256 ≤ capacity)
    (originator : Address)
    (k : Nat) :
    (recorded capacity (inOrder originator 256).reverse).seen
        (nth originator k) = true := by
  rw [seen_recorded_iff, mem_latest_inOrder_iff]
  refine ⟨k % 256, by omega, by omega, ?_⟩
  rw [nth_eq_iff]
  exact Nat.mod_mod k 256

/- How many of the first packets are recorded. -/
def keptCount
    (capacity count : Nat) : Nat :=
  if capacity ≤ 255 then count else min count 256

/-
  One more packet: it is new, unless the memory is long and
  256 packets came before.
-/
theorem accept_nth
    (capacity : Nat)
    (originator : Address)
    (count : Nat) :
    (recorded capacity
        (inOrder originator
          (keptCount capacity count)).reverse).accept
        (nth originator count) =
      (decide (capacity ≤ 255 ∨ count < 256),
        recorded capacity
          (inOrder originator
            (keptCount capacity (count + 1))).reverse) := by
  by_cases hNew : capacity ≤ 255 ∨ count < 256
  · have hKept : keptCount capacity count = count := by
      unfold keptCount
      split <;> omega
    have hNext :
        keptCount capacity (count + 1) = count + 1 := by
      unfold keptCount
      split <;> omega
    have hUnseen :
        (recorded capacity
            (inOrder originator count).reverse).seen
          (nth originator count) = false := by
      rw [← Bool.not_eq_true, seen_inOrder_iff]
      omega
    rw [hKept, hNext, inOrder_succ, List.reverse_concat]
    unfold accept
    rw [hUnseen, decide_eq_true hNew]
    rfl
  · have hKept : keptCount capacity count = 256 := by
      unfold keptCount
      split <;> omega
    have hNext : keptCount capacity (count + 1) = 256 := by
      unfold keptCount
      split <;> omega
    have hLong : 256 ≤ capacity := by omega
    rw [hKept, hNext]
    unfold accept
    rw [seen_of_long hLong, decide_eq_false hNew]
    rfl

theorem acceptAll_inOrder
    (capacity : Nat)
    (originator : Address)
    (count : Nat) :
    (empty capacity).acceptAll (inOrder originator count) =
      ((List.range count).map
          (fun k => decide (capacity ≤ 255 ∨ k < 256)),
        recorded capacity
          (inOrder originator
            (keptCount capacity count)).reverse) := by
  induction count with
  | zero =>
      have hNone : keptCount capacity 0 = 0 := by
        unfold keptCount
        split <;> rfl
      rw [hNone]
      rfl
  | succ count ih =>
      rw [inOrder_succ, acceptAll_concat, ih, accept_nth,
        List.range_succ, List.map_append]
      rfl

/- The check asks for no more than room for one packet. -/
theorem check_recentPackets_iff
    (config : Config)
    (size : UInt64) :
    { config with recentPackets := size }.check = .ok () ↔
      { config with recentPackets := 1 }.check = .ok () ∧
        1 ≤ size.toNat := by
  rw [Config.check_eq_ok_iff, Config.check_eq_ok_iff]
  constructor
  · intro hSome
    refine
      ⟨?_, Nat.one_le_iff_ne_zero.mpr (hSome .recentPackets)⟩
    intro setting
    cases setting with
    | recentPackets => exact Nat.one_ne_zero
    | neighborCapacity => exact hSome .neighborCapacity
    | neighborLifetime => exact hSome .neighborLifetime
    | maxHopLimit => exact hSome .maxHopLimit
  · rintro ⟨hSome, hRoom⟩ setting
    cases setting with
    | recentPackets => exact Nat.one_le_iff_ne_zero.mp hRoom
    | neighborCapacity => exact hSome .neighborCapacity
    | neighborLifetime => exact hSome .neighborLifetime
    | maxHopLimit => exact hSome .maxHopLimit

/-
  The settings' check asks of a memory only that there is
  room for one packet.  If there is room for at most 255,
  all packets of an originator that come in order are new.
  If there is room for more, just the first 256 are new.
-/
theorem long_memories_stop_at_wrap
    (capacity : Nat)
    (originator : Address)
    (count : Nat) :
    ((empty capacity).acceptAll
        (inOrder originator count)).1 =
        (List.range count).map
          (fun k => decide (capacity ≤ 255 ∨ k < 256)) ∧
      ∀ (config : Config) (size : UInt64),
        { config with recentPackets := size }.check =
            .ok () ↔
          { config with recentPackets := 1 }.check = .ok () ∧
            1 ≤ size.toNat := by
  refine
    ⟨by rw [acceptAll_inOrder],
      fun config size => check_recentPackets_iff config size⟩

end RecentPackets

end CollectionTree
