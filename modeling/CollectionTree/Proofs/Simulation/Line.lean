import CollectionTree.Proofs.Simulation.ShortestPaths
import CollectionTree.Proofs.Simulation.Vicinity

/-
  Nodes along a line that lose nothing.

  Key definitions include:
    * `Setup.LosslessLine`

  Key theorems include:
    * `Setup.LosslessLine.check`
    * `Setup.LosslessLine.inRange_iff`
    * `Setup.LosslessLine.lasting`
    * `Setup.LosslessLine.eq_of_settled`

  On a line, a node hears the one before it and the one
  after it.  Sixteen nodes are as many as a metric can count
  the hops of, over links that were never used.
-/

namespace CollectionTree

namespace Setup

/-
  A line of nodes one radio range apart, without losses.
  There is room for both neighbors of a node, a packet can
  make all hops to the sink, fewer packets are remembered
  than there are sequence numbers, and beacons come before
  entries get stale.
-/
structure LosslessLine
    (setup : Setup) : Prop where
  topology : setup.topology = .line
  range : setup.radioRange = 1.0
  loss : (setup.linkLoss == 0.0) = true
  several : 2 ≤ setup.nodeCount.toNat
  few : setup.nodeCount.toNat ≤ 16
  hops :
    setup.nodeCount.toNat - 1 ≤
      setup.collect.maxHopLimit.toNat
  room : 2 ≤ setup.collect.neighborCapacity.toNat
  remembering : 1 ≤ setup.collect.recentPackets.toNat
  forgetting : setup.collect.recentPackets.toNat ≤ 255
  messages : 1 ≤ setup.messageInterval.toNat
  beacons : 1 ≤ setup.beaconInterval.toNat
  lifetime :
    setup.beaconInterval.toNat * setup.stepMillis.toNat <
      1000 * setup.collect.neighborLifetime.toNat

------------------------------------------------------------
-- The Radio
------------------------------------------------------------

/- A range of one covers a distance of one and no more. -/
theorem reaches_one_iff :
    ∀ distance, distance < 16 →
      (reaches 1.0 (Nat.pow distance 2 + Nat.pow 0 2) =
          true ↔
        distance ≤ 1) := by
  decide +kernel

namespace LosslessLine

variable {setup : Setup}

/- The nodes in range are the ones before and after. -/
theorem inRange_iff
    (hLine : setup.LosslessLine)
    {a b : Nat}
    (hA : a < setup.nodeCount.toNat)
    (hB : b < setup.nodeCount.toNat) :
    setup.inRange a b = true ↔ b = a + 1 ∨ a = b + 1 := by
  have hFew := hLine.few
  have hDistance :
      setup.topology.squaredDistance a b =
        Nat.pow ((a - b) + (b - a)) 2 + Nat.pow 0 2 := by
    rw [hLine.topology]
    rfl
  unfold inRange
  rw [Bool.and_eq_true, bne_iff_ne, hLine.range, hDistance,
    reaches_one_iff _ (by omega)]
  omega

theorem near_iff
    (hLine : setup.LosslessLine)
    {index : Nat}
    (hIndex : index < setup.nodeCount.toNat)
    (a : Address) :
    setup.Near index a ↔
      ∃ other, other < setup.nodeCount.toNat ∧
        (other = index + 1 ∨ index = other + 1) ∧
        a = Simulation.addressOf other := by
  constructor
  · rintro ⟨other, hOther, hRange, hAddress⟩
    exact
      ⟨other, hOther, (hLine.inRange_iff hIndex hOther).mp
        hRange, hAddress⟩
  · rintro ⟨other, hOther, hNext, hAddress⟩
    exact
      ⟨other, hOther, (hLine.inRange_iff hIndex hOther).mpr
        hNext, hAddress⟩

------------------------------------------------------------
-- The Setup Is Accepted
------------------------------------------------------------

theorem check
    (hLine : setup.LosslessLine) :
    setup.check = .ok () := by
  have hSeveral := hLine.several
  have hFew := hLine.few
  have hHops := hLine.hops
  have hRoom := hLine.room
  have hLifetime := hLine.lifetime
  have hLoss := Losses.isProbability_of_zero hLine.loss
  have hSome : ∀ n : UInt64, 0 < n.toNat → n ≠ 0 := by
    intro n hPos hZero
    rw [hZero] at hPos
    contradiction
  have hLimit : setup.collect.maxHopLimit ≠ 0 := by
    intro hZero
    rw [hZero] at hHops
    change _ ≤ 0 at hHops
    omega
  refine
    Setup.check_eq_ok_iff.mpr
      ⟨by omega, by omega, hLoss, hLine.beacons, ?_⟩
  unfold Config.validate Config.check
  rw [
    if_neg (hSome setup.collect.neighborCapacity (by omega)),
    if_neg (hSome setup.collect.neighborLifetime (by omega)),
    if_neg (hSome _ hLine.remembering), if_neg hLimit]

/- A node has two neighbors at most. -/
theorem lasting
    (hLine : setup.LosslessLine) :
    setup.Lasting := by
  have hFew := hLine.few
  refine
    { addresses := by omega
      interval := hLine.beacons
      room := ?_
      lifetime := hLine.lifetime }
  intro index hIndex
  let near :=
    (List.range setup.nodeCount.toNat).filter
      (setup.inRange index)
  have hNodup : near.Nodup := List.nodup_range.filter _
  have hTwo : near ⊆ [index - 1, index + 1] := by
    intro other hMem
    rcases List.mem_filter.mp hMem with ⟨hOther, hRange⟩
    rw [List.mem_range] at hOther
    rw [hLine.inRange_iff hIndex hOther] at hRange
    rw [List.mem_cons, List.mem_singleton]
    omega
  exact Nat.le_trans (hNodup.length_le_of_subset hTwo)
    hLine.room

------------------------------------------------------------
-- Metrics at Rest
------------------------------------------------------------

theorem adj_iff
    (hLine : setup.LosslessLine)
    {a b : Nat}
    (hA : a < setup.nodeCount.toNat)
    (hB : b < setup.nodeCount.toNat) :
    setup.radioGraph.Adj a b ↔ b = a + 1 ∨ a = b + 1 := by
  rw [← hLine.inRange_iff hA hB]
  exact ⟨fun hAdj => hAdj.2.2, fun hRange => ⟨hA, hB, hRange⟩⟩

/- Before links are used, metrics count hops to node 0. -/
theorem eq_of_settled
    (hLine : setup.LosslessLine)
    {metric : Nat → Nat}
    (hSettled : setup.Settled metric)
    {index : Nat}
    (hIndex : index < setup.nodeCount.toNat) :
    metric index = 32 * index := by
  have hFew := hLine.few
  have hMost :
      ∀ index, index < setup.nodeCount.toNat →
        metric index ≤ 32 * index := by
    intro index
    induction index with
    | zero =>
        intro _
        exact Nat.le_of_eq hSettled.sink
    | succ index ih =>
        intro hIndex
        have hBefore := ih (Nat.lt_of_succ_lt hIndex)
        have hAdj :=
          (hLine.adj_iff hIndex
            (Nat.lt_of_succ_lt hIndex)).mpr (Or.inr rfl)
        have hLeast := hSettled.least _ _ hAdj (by omega)
        omega
  have hLeast :
      ∀ m index, index < setup.nodeCount.toNat →
        metric index = m → 32 * index ≤ m := by
    intro m
    induction m using Nat.strong_induction_on with
    | h m ih =>
        intro index hIndex hMetric
        by_cases hZero : index = 0
        · omega
        · have hBound := hMost index hIndex
          rcases hSettled.attained index hIndex hZero
            (by omega) with ⟨other, hAdj, hCost⟩
          have hOther := hAdj.2.1
          have hNext := (hLine.adj_iff hIndex hOther).mp hAdj
          have hRest :=
            ih (metric other) (by omega) other hOther rfl
          omega
  have hUpper := hMost index hIndex
  have hLower := hLeast (metric index) index hIndex rfl
  omega

end LosslessLine

end Setup

end CollectionTree
