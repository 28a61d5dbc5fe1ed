import CollectionTree.Proofs.Simulation.Integrity

/-
  How far packets go.

  Key definitions include:
    * `Packet.WithinBudget`
    * `Simulation.KeepsBudget`
    * `Simulation.spare`
    * `Simulation.Spent`
    * `Simulation.HopsBounded`

  Key theorems include:
    * `Simulation.Passage.keepsBudget`
    * `Simulation.Passage.spent`
    * `Simulation.hops_are_bounded`

  A hop that a packet makes is taken from its budget.  What
  is left of the budgets of the packets on their way bounds
  how often they can still be handed to a transport, so the
  hops of a reading are bounded however routes change.
-/

namespace CollectionTree

------------------------------------------------------------
-- Budgets
------------------------------------------------------------

/- The hops made and the hops left add up, and both exist. -/
structure Packet.WithinBudget
    (limit : Nat)
    (p : Packet) : Prop where
  sum : p.hops.toNat + p.ttl.toNat = limit + 1
  made : 1 ≤ p.hops.toNat
  bound : p.hops.toNat ≤ limit
  left : 1 ≤ p.ttl.toNat

/- A packet that may be passed on makes one hop more. -/
theorem Packet.WithinBudget.advance
    {limit : Nat}
    {p : Packet}
    (hBudget : p.WithinBudget limit)
    (hLimit : limit ≤ 255)
    (hTtl : ¬ p.ttl ≤ 1) :
    (Connection.advance p).hops.toNat = p.hops.toNat + 1 ∧
      (Connection.advance p).ttl.toNat + 1 = p.ttl.toNat := by
  have hSum := hBudget.sum
  have hLeft : 1 < p.ttl.toNat := by
    rw [UInt8.le_iff_toNat_le] at hTtl
    exact Nat.lt_of_not_le hTtl
  refine ⟨?_, Connection.toNat_ttl_advance hTtl⟩
  change (Connection.nextByte p.hops).toNat = _
  rw [Connection.toNat_nextByte]
  omega

theorem Packet.WithinBudget.passedOn
    {limit : Nat}
    {p : Packet}
    (hBudget : p.WithinBudget limit)
    (hLimit : limit ≤ 255)
    (hTtl : ¬ p.ttl ≤ 1) :
    (Connection.advance p).WithinBudget limit := by
  have hHop := hBudget.advance hLimit hTtl
  have hSum := hBudget.sum
  have hLeft : 1 < p.ttl.toNat := by
    rw [UInt8.le_iff_toNat_le] at hTtl
    exact Nat.lt_of_not_le hTtl
  exact
    { sum := by omega
      made := by omega
      bound := by omega
      left := by omega }

/- Addresses have to do with no budget. -/
theorem Packet.WithinBudget.of_eq
    {limit : Nat}
    {p q : Packet}
    (hBudget : p.WithinBudget limit)
    (hHops : q.hops = p.hops)
    (hTtl : q.ttl = p.ttl) :
    q.WithinBudget limit := by
  rcases hBudget with ⟨hSum, hMade, hBound, hLeft⟩
  rw [← hHops] at hSum hMade hBound
  rw [← hTtl] at hSum hLeft
  exact ⟨hSum, hMade, hBound, hLeft⟩

/- The packet of a reading has made its first hop. -/
theorem Reading.withinBudget
    {setup : Setup}
    (hCheck : setup.check = .ok ())
    (nextHop : Address)
    (r : Reading) :
    (r.packet setup nextHop).WithinBudget
      setup.collect.maxHopLimit.toNat := by
  have hSome : setup.collect.maxHopLimit.toNat ≠ 0 := by
    intro hZero
    exact Simulation.maxHopLimit_ne_zero_of_check hCheck
      (UInt8.toNat_inj.mp hZero)
  have hHop : (r.packet setup nextHop).hops.toNat = 1 := rfl
  have hTtl :
      (r.packet setup nextHop).ttl.toNat =
        setup.collect.maxHopLimit.toNat := rfl
  exact
    { sum := by omega
      made := by omega
      bound := by omega
      left := by omega }

namespace Simulation

variable {γ : Type}

/- How many hops a packet may make. -/
def hopLimit
    (s : Simulation γ) : Nat :=
  s.setup.collect.maxHopLimit.toNat

theorem hopLimit_le
    (s : Simulation γ) :
    s.hopLimit ≤ 255 :=
  Nat.le_of_lt_succ (UInt8.toNat_lt _)

------------------------------------------------------------
-- Budgets Are Kept
------------------------------------------------------------

/- All packets on their way or received keep their budget. -/
structure KeepsBudget
    (s : Simulation γ) : Prop where
  waiting :
    ∀ packet ∈ s.underWay, packet.WithinBudget s.hopLimit
  received :
    ∀ d ∈ s.deliveries,
      1 ≤ d.hops.toNat ∧ d.hops.toNat ≤ s.hopLimit

/- Packets that were on their way before keep their budget. -/
theorem KeepsBudget.of_subset
    {s t : Simulation γ}
    (hBudget : s.KeepsBudget)
    (hSetup : t.setup = s.setup)
    (hWaiting : ∀ p ∈ t.underWay, p ∈ s.underWay)
    (hReceived :
      ∀ d ∈ t.deliveries,
        d ∈ s.deliveries ∨
          ∃ p ∈ s.underWay, d = Connection.delivery p) :
    t.KeepsBudget := by
  have hLimit : t.hopLimit = s.hopLimit := by
    unfold hopLimit
    rw [hSetup]
  refine
    { waiting := ?_
      received := ?_ }
  · intro p hMem
    rw [hLimit]
    exact hBudget.waiting p (hWaiting p hMem)
  · intro d hMem
    rw [hLimit]
    rcases hReceived d hMem with hOld | ⟨p, hWas, rfl⟩
    · exact hBudget.received d hOld
    · have hOwn := hBudget.waiting p hWas
      exact ⟨hOwn.made, hOwn.bound⟩

/- One more packet that keeps its budget is put on its way. -/
theorem KeepsBudget.of_added
    {s t : Simulation γ}
    (hBudget : s.KeepsBudget)
    (hSetup : t.setup = s.setup)
    {packet : Packet}
    {rest : List Packet}
    (hPacket : packet.WithinBudget s.hopLimit)
    (hRest : ∀ p ∈ rest, p ∈ s.underWay)
    (hAdded : t.underWay.Perm (packet :: rest))
    (hDeliveries : t.deliveries = s.deliveries) :
    t.KeepsBudget := by
  have hLimit : t.hopLimit = s.hopLimit := by
    unfold hopLimit
    rw [hSetup]
  refine
    { waiting := ?_
      received := ?_ }
  · intro p hMem
    rw [hLimit]
    rcases List.mem_cons.mp (hAdded.mem_iff.mp hMem) with
      rfl | hOld
    · exact hPacket
    · exact hBudget.waiting p (hRest p hOld)
  · rw [hLimit, hDeliveries]
    exact hBudget.received

theorem Passage.keepsBudget
    {s t : Simulation γ}
    {entries : List Entry}
    (hPassage : Passage s t entries)
    (hCheck : s.setup.check = .ok ())
    (hSetup : t.setup = s.setup)
    (hBudget : s.KeepsBudget) :
    t.KeepsBudget := by
  cases hPassage with
  | kept hSame hDeliveries =>
      apply hBudget.of_subset hSetup
      · intro p hMem
        exact hSame.mem_iff.mp hMem
      · intro d hMem
        exact Or.inl (hDeliveries ▸ hMem)
  | ended packet hLeft hDeliveries =>
      apply hBudget.of_subset hSetup
      · intro p hMem
        exact hLeft.mem_iff.mpr (List.mem_cons_of_mem _ hMem)
      · intro d hMem
        exact Or.inl (hDeliveries ▸ hMem)
  | delivered packet hLeft hDelivered =>
      apply hBudget.of_subset hSetup
      · intro p hMem
        exact hLeft.mem_iff.mpr (List.mem_cons_of_mem _ hMem)
      · intro d hMem
        rw [hDelivered, List.mem_append,
          List.mem_singleton] at hMem
        rcases hMem with hOld | hNew
        · exact Or.inl hOld
        · exact Or.inr
            ⟨packet,
              hLeft.mem_iff.mpr List.mem_cons_self, hNew⟩
  | relayed index packet handover rest hFound hTtl hPacket
      hPassedOn hDeliveries =>
      have hOwn :=
        hBudget.waiting packet
          (hFound.mem_iff.mpr List.mem_cons_self)
      have hNext := hOwn.passedOn s.hopLimit_le hTtl
      refine hBudget.of_added hSetup (hNext.of_eq ?_ ?_) ?_
        hPassedOn hDeliveries
      · rw [hPacket]
      · rw [hPacket]
      · intro p hMem
        exact hFound.mem_iff.mpr
          (List.mem_cons_of_mem _ hMem)
  | unrouted r hReply hSame hDeliveries =>
      apply hBudget.of_subset hSetup
      · intro p hMem
        exact hSame ▸ hMem
      · intro d hMem
        exact Or.inl (hDeliveries ▸ hMem)
  | originated r handover hReply hPacket hAdded
      hDeliveries =>
      apply hBudget.of_added hSetup ?_ ?_ hAdded hDeliveries
      · rw [hPacket]
        exact Reading.withinBudget hCheck _ r
      · intro p hMem
        exact hMem

------------------------------------------------------------
-- Budgets Are Spent
------------------------------------------------------------

/- How often a stamp was handed to a transport. -/
def timesHanded
    (stamp : Stamp)
    (entries : List Entry) : Nat :=
  (handoversIn entries).countP
    (fun handover => handover.packet.stamp = stamp)

/-
  How often the packets with a stamp that are on their way
  can still be passed on.
-/
def spare
    (stamp : Stamp)
    (packets : List Packet) : Nat :=
  (packets.map (fun packet =>
    if packet.stamp = stamp then
      packet.ttl.toNat - 1
    else
      0)).sum

/-
  What was handed over with a stamp, and what can still be,
  is within the budgets of the readings that it was given
  to.
-/
def Spent
    (limit : Nat)
    (entries : List Entry)
    (s : Simulation γ) : Prop :=
  ∀ stamp,
    timesHanded stamp entries + spare stamp s.underWay ≤
      limit * (stampsIn entries).count stamp

theorem timesHanded_append
    (stamp : Stamp)
    (entries more : List Entry) :
    timesHanded stamp (entries ++ more) =
      timesHanded stamp entries + timesHanded stamp more := by
  unfold timesHanded
  rw [handoversIn_append, List.countP_append]

theorem timesHanded_singleton
    (stamp : Stamp)
    {entries : List Entry}
    {handover : Handover}
    (hOne : handoversIn entries = [handover]) :
    timesHanded stamp entries =
      if handover.packet.stamp = stamp then 1 else 0 := by
  unfold timesHanded
  rw [hOne, List.countP_singleton]
  simp

theorem spare_perm
    {packets others : List Packet}
    (hPerm : packets.Perm others)
    (stamp : Stamp) :
    spare stamp packets = spare stamp others :=
  (hPerm.map _).sum_nat

theorem spare_cons
    (stamp : Stamp)
    (packet : Packet)
    (packets : List Packet) :
    spare stamp (packet :: packets) =
      (if packet.stamp = stamp then
        packet.ttl.toNat - 1
      else
        0) + spare stamp packets := by
  unfold spare
  rw [List.map_cons, List.sum_cons]

/- What a passage hands over is taken from what is spare. -/
theorem Passage.spending
    {s t : Simulation γ}
    {entries : List Entry}
    (hPassage : Passage s t entries)
    (hCheck : s.setup.check = .ok ())
    (hBudget : s.KeepsBudget)
    (stamp : Stamp) :
    timesHanded stamp entries + spare stamp t.underWay ≤
      spare stamp s.underWay +
        s.hopLimit * (stampsIn entries).count stamp := by
  cases hPassage with
  | kept hSame _ =>
      rw [spare_perm hSame]
      change 0 + _ ≤ _ + 0
      omega
  | ended packet hLeft _ =>
      rw [spare_perm hLeft, spare_cons]
      change 0 + _ ≤ _ + 0
      omega
  | delivered packet hLeft _ =>
      rw [spare_perm hLeft, spare_cons]
      change 0 + _ ≤ _ + 0
      omega
  | relayed index packet handover rest hFound hTtl hPacket
      hPassedOn _ =>
      have hStamp : handover.packet.stamp = packet.stamp := by
        rw [hPacket]
        rfl
      have hOwn :=
        hBudget.waiting packet
          (hFound.mem_iff.mpr List.mem_cons_self)
      have hLeft :
          handover.packet.ttl.toNat + 1 =
            packet.ttl.toNat := by
        rw [hPacket]
        exact (hOwn.advance s.hopLimit_le hTtl).2
      have hMore :
          1 ≤ handover.packet.ttl.toNat := by
        rw [hPacket]
        exact (hOwn.passedOn s.hopLimit_le hTtl).left
      rw [timesHanded_singleton stamp rfl,
        spare_perm hPassedOn, spare_perm hFound,
        spare_cons, spare_cons, hStamp]
      split <;> omega
  | unrouted r hReply hSame _ =>
      rw [hSame]
      change 0 + _ ≤ _
      omega
  | originated r handover hReply hPacket hAdded _ =>
      have hStamp : handover.packet.stamp = r.stamp := by
        rw [hPacket]
        rfl
      have hTtl :
          handover.packet.ttl.toNat = s.hopLimit := by
        rw [hPacket]
        rfl
      have hLeft : 1 ≤ handover.packet.ttl.toNat := by
        rw [hPacket]
        exact (Reading.withinBudget hCheck _ r).left
      rw [timesHanded_singleton stamp rfl,
        stampsIn_originated hReply, spare_perm hAdded,
        spare_cons, hStamp, List.count_singleton]
      by_cases hSame : r.stamp = stamp
      · simp only [hSame, if_true, beq_self_eq_true]
        omega
      · simp only [hSame, if_false]
        omega

theorem Passage.spent
    {s t : Simulation γ}
    {entries more : List Entry}
    (hPassage : Passage s t more)
    (hCheck : s.setup.check = .ok ())
    (hBudget : s.KeepsBudget)
    (hSpent : s.Spent s.hopLimit entries) :
    t.Spent s.hopLimit (entries ++ more) := by
  intro stamp
  have hBefore := hSpent stamp
  have hStep := hPassage.spending hCheck hBudget stamp
  rw [timesHanded_append, stampsIn_append, List.count_append,
    Nat.mul_add]
  omega

section Runs

variable [LossSource γ]

theorem budget_of_records
    {setup : Setup}
    {losses : γ}
    (hCheck : setup.check = .ok ())
    {entries : List Entry}
    {s : Simulation γ}
    (hRecords : Records (start setup losses) entries s) :
    s.setup = setup ∧ s.KeepsBudget ∧
      s.Spent s.hopLimit entries := by
  have hStart :
      (start setup losses).Configured ∧
        (start setup losses).setup = setup ∧
        (start setup losses).KeepsBudget ∧
        (start setup losses).Spent
          (start setup losses).hopLimit [] := by
    refine
      ⟨configured_start setup losses, ?_, ⟨?_, ?_⟩, ?_⟩
    · rw [start_frame]
      rfl
    · intro packet hMem
      rw [underWay_start] at hMem
      contradiction
    · intro d hMem
      rw [deliveries_start] at hMem
      contradiction
    · intro stamp
      rw [underWay_start]
      exact Nat.zero_le _
  have hRun :=
    hRecords.invariant
      (P := fun entries s =>
        s.Configured ∧ s.setup = setup ∧ s.KeepsBudget ∧
          s.Spent s.hopLimit entries)
      ?_ (sound_start setup losses) hStart
  · exact hRun.2
  · intro entries more s t hSound hHeld hNoted
    rcases hHeld with
      ⟨hConfigured, hSetup, hBudget, hSpent⟩
    have hMove := hNoted.next.move hSound
    have hPassage := hNoted.passage hSound hConfigured
    have hSame := hMove.setup_eq
    have hLimit : t.hopLimit = s.hopLimit := by
      unfold hopLimit
      rw [hSame]
    rw [← hSetup] at hCheck
    refine
      ⟨hMove.configured hConfigured, hSame.trans hSetup,
        hPassage.keepsBudget hCheck hSame hBudget, ?_⟩
    rw [hLimit]
    exact hPassage.spent hCheck hBudget hSpent

/- All packets that wait and that were received, explicitly. -/
structure HopsBounded
    (limit : Nat)
    (s : Simulation γ) : Prop where
  requests :
    ∀ sender handover,
      .unicast sender handover ∈ s.outbox.toList →
        handover.packet.WithinBudget limit
  events :
    ∀ index sender packet,
      (index, .received sender packet) ∈ s.events.toList →
        packet.WithinBudget limit ∧
          (¬ packet.ttl ≤ 1 →
            (Connection.advance packet).hops.toNat =
              packet.hops.toNat + 1)
  deliveries :
    ∀ d ∈ s.deliveries,
      1 ≤ d.hops.toNat ∧ d.hops.toNat ≤ limit

omit [LossSource γ] in
theorem KeepsBudget.hopsBounded
    {s : Simulation γ}
    (hBudget : s.KeepsBudget) :
    s.HopsBounded s.hopLimit := by
  refine
    { requests := ?_
      events := ?_
      deliveries := hBudget.received }
  · intro sender handover hMem
    apply hBudget.waiting
    apply List.mem_append_left
    apply List.mem_map_of_mem
    exact List.mem_filterMap.mpr ⟨_, hMem, rfl⟩
  · intro index sender packet hMem
    have hOwn : packet.WithinBudget s.hopLimit := by
      apply hBudget.waiting
      apply List.mem_append_right
      exact List.mem_filterMap.mpr ⟨_, hMem, rfl⟩
    exact
      ⟨hOwn, fun hTtl =>
        (hOwn.advance s.hopLimit_le hTtl).1⟩

/-
  At every point of a run, the hops of all packets are
  within the limit.  What is handed to a transport belongs
  to a reading, and no reading is handed over more often
  than the limit says.
-/
theorem hops_are_bounded
    (setup : Setup)
    (losses : γ)
    (hCheck : setup.check = .ok ()) :
    (∀ s, Reaches (start setup losses) s →
        s.HopsBounded setup.collect.maxHopLimit.toNat) ∧
      ∀ steps turns,
        (∀ handover ∈ handoversIn
            (journal steps turns (start setup losses)),
          ∃ r ∈ readingsIn
              (journal steps turns (start setup losses)),
            handover.packet.stamp = r.stamp) ∧
          ∀ r ∈ readingsIn
              (journal steps turns (start setup losses)),
            timesHanded r.stamp
                (journal steps turns (start setup losses)) ≤
              setup.collect.maxHopLimit.toNat := by
  constructor
  · intro s hReaches
    rcases hReaches.records with ⟨entries, hRecords⟩
    rcases budget_of_records hCheck hRecords with
      ⟨hSetup, hBudget, -⟩
    have hBounded := hBudget.hopsBounded
    unfold hopLimit at hBounded
    rw [hSetup] at hBounded
    exact hBounded
  · intro steps turns
    rcases budget_of_records hCheck
      (records_journal steps turns (start setup losses)) with
      ⟨hSetup, -, hSpent⟩
    unfold hopLimit at hSpent
    rw [hSetup] at hSpent
    generalize
      hEntries : journal steps turns (start setup losses) =
        entries at hSpent
    have hNodup : (stampsIn entries).Nodup := by
      rw [← hEntries]
      exact (payloads_stampsIn losses hCheck steps
        turns).of_map _
    constructor
    · intro handover hMem
      have hOnce :
          0 < timesHanded handover.packet.stamp entries := by
        apply List.countP_pos_iff.mpr
        exact ⟨handover, hMem, by simp⟩
      have hOwn := hSpent handover.packet.stamp
      have hGiven :
          0 < (stampsIn entries).count
            handover.packet.stamp := by
        apply Nat.pos_of_ne_zero
        intro hNone
        rw [hNone, Nat.mul_zero] at hOwn
        omega
      rcases List.mem_map.mp (List.count_pos_iff.mp hGiven)
        with ⟨r, hR, hStamp⟩
      exact ⟨r, (List.mem_filter.mp hR).1, hStamp.symm⟩
    · intro r hMem
      have hOwn := hSpent r.stamp
      have hOne :=
        Nat.mul_le_mul_left setup.collect.maxHopLimit.toNat
          (List.nodup_iff_count_le_one.mp hNodup r.stamp)
      omega

end Runs

/- A reading of the last of three nodes makes two hops. -/
theorem hops_are_bounded_of_three :
    let setup : Setup :=
      { Setup.standard with
        nodeCount := 3
        beaconInterval := 1
        messageInterval := 1
        collect := { Config.standard with maxHopLimit := 2 } }
    let losses := SeededLosses.ofSeed setup.linkLoss 42
    let s := (run 1 (start setup losses)).begun.pump 10
    let entries := journal 1 20 (start setup losses)
    s.underWay.length = 1 ∧
      s.HopsBounded 2 ∧
      (readingsIn entries).map
          (fun r => timesHanded r.stamp entries) =
        [0, 0, 1, 2] ∧
      (∀ handover ∈ handoversIn entries,
        ∃ r ∈ readingsIn entries,
          handover.packet.stamp = r.stamp) ∧
      ∀ r ∈ readingsIn entries,
        timesHanded r.stamp entries ≤ 2 := by
  intro setup losses s entries
  have hCounts :
      s.underWay.length = 1 ∧
        (readingsIn entries).map
            (fun r => timesHanded r.stamp entries) =
          [0, 0, 1, 2] := by
    decide +kernel
  have hCheck : setup.check = .ok () :=
    check_eq_ok_of_isOk (by decide +kernel)
  rcases hops_are_bounded setup losses hCheck with
    ⟨hWaiting, hHanded⟩
  exact
    ⟨hCounts.1, hWaiting s (reaches_turns 1 10 _), hCounts.2,
      hHanded 1 20⟩

end Simulation

end CollectionTree
