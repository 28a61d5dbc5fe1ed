import CollectionTree.Proofs.Simulation.Clock
import CollectionTree.Proofs.Simulation.GossipTurns

/-
  Gossip goes on from step to step.

  Key theorems include:
    * `Simulation.heard_of_beacons`
    * `Simulation.Refreshed.beaconsSent`
    * `Simulation.Gossip.begun`
    * `Simulation.gossip_start`
    * `Simulation.gossip_run`

  Since a step with beacons renews all entries, none of them
  is older than the time from one beacon to the next, and no
  neighbor is ever forgotten.
-/

namespace CollectionTree

namespace Simulation

variable {γ : Type}

section Runs

variable [LossSource γ]

------------------------------------------------------------
-- A Step Begins
------------------------------------------------------------

omit [LossSource γ] in
/- Every node is told once that time passes. -/
theorem ticksFor_ticked_le
    {s : Simulation γ}
    (hEvents : s.events.toList = [])
    (index : Nat) :
    s.ticked.ticksFor index ≤ 1 := by
  have hTicked :
      s.ticked.events.toList =
        (List.range s.nodes.size).map (fun index =>
          (index, .elapsed s.setup.stepTime)) := by
    rw [events_ticked, hEvents, List.nil_append]
  unfold ticksFor
  rw [hTicked, List.countP_map]
  exact List.nodup_iff_count.mp List.nodup_range index

omit [LossSource γ] in
/- Entries are to be one step older than they were. -/
theorem Refreshed.age_ticked_le
    {setup : Setup}
    {s : Simulation γ}
    (hRefreshed : s.Refreshed setup)
    (hEvents : s.events.toList = [])
    {index : Nat}
    {node : Node}
    (hNode : s.nodes[index]? = some node)
    {n : Neighbor}
    (hMem : n ∈ node.connection.neighbors.entries) :
    n.age.nanos +
        s.ticked.ticksFor index * setup.stepTime.nanos ≤
      (s.steps % setup.beaconInterval.toNat + 1) *
        setup.stepTime.nanos := by
  have hTicks :=
    Nat.mul_le_mul_right setup.stepTime.nanos
      (ticksFor_ticked_le hEvents index)
  rw [Nat.one_mul] at hTicks
  rw [Nat.succ_mul]
  rcases hRefreshed index node hNode n hMem with
    hYoung | ⟨metric, hSoon⟩
  · omega
  · rw [hEvents] at hSoon
    contradiction

/- Nothing is on its way but the passing of time. -/
theorem Gossip.ticked
    {setup : Setup}
    {s : Simulation γ}
    (hGossip : s.Gossip setup)
    (hRefreshed : s.Refreshed setup)
    (hEvents : s.events.toList = []) :
    s.ticked.Gossip setup := by
  have hTicks :
      ∀ event ∈ s.ticked.events.toList,
        event.2 = .elapsed setup.stepTime := by
    intro event hMem
    rw [events_ticked, hEvents, List.nil_append] at hMem
    rcases List.mem_map.mp hMem with ⟨index, -, rfl⟩
    rw [hGossip.setup_eq]
  refine
    { sound :=
        (Move.aired (airs_ticked s) rfl).sound hGossip.sound
      setup_eq := hGossip.setup_eq
      size := hGossip.size
      lossless := hGossip.lossless
      requests := hGossip.requests
      events := fun event hMem => Or.inl (hTicks event hMem)
      order := ?_
      tables := hGossip.tables
      ages := ?_
      beliefs := ?_ }
  · apply List.pairwise_of_forall_mem_list
    intro first hFirst _ _ _
    rw [hTicks first hFirst]
    rfl
  · intro index node hNode n hMem
    exact hRefreshed.age_ticked_le hEvents hNode hMem
  · intro listener sender node other hNode hOther hRange
    refine belief_of_true_news
      (hGossip.beliefs listener sender node other hNode
        hOther hRange) rfl (events_ticked s) ?_
    intro metric hMem
    rcases List.mem_map.mp hMem with ⟨index, -, hEq⟩
    exact absurd (Prod.mk.inj hEq).2 Event.noConfusion

------------------------------------------------------------
-- Beacons
------------------------------------------------------------

theorem Gossip.beacons
    {setup : Setup}
    (hLasting : setup.Lasting)
    {s : Simulation γ}
    (hGossip : s.Gossip setup)
    (indices : List Nat) :
    (indices.foldl Simulation.beacon s).Gossip setup := by
  induction indices generalizing s with
  | nil => exact hGossip
  | cons index rest ih =>
      exact ih (hGossip.beacon hLasting index)

/- A node that exists has a beacon. -/
theorem beacon_eq
    {s : Simulation γ}
    (hSound : s.Sound)
    {index : Nat}
    {node : Node}
    (hNode : s.nodes[index]? = some node) :
    s.beacon index =
      s.broadcast index node.connection.metric := by
  have hMetric :=
    (announced?_eq_some_iff hSound).mpr ⟨node, hNode, rfl⟩
  unfold beacon
  rw [hMetric]

/- Without losses, all nodes in range hear all beacons. -/
theorem heard_of_beacons
    {s : Simulation γ}
    (hSound : s.Sound)
    (hLossless : Losses.Lossless s.losses)
    (indices : List Nat) :
    (∀ event ∈ s.events.toList,
        event ∈
          (indices.foldl Simulation.beacon
            s).events.toList) ∧
      ∀ (listener sender : Nat),
        listener < s.nodes.size → sender < s.nodes.size →
          sender ∈ indices →
          s.setup.inRange listener sender = true →
            ∃ metric,
              (listener,
                  .announced (addressOf sender) metric) ∈
                (indices.foldl Simulation.beacon
                  s).events.toList := by
  induction indices generalizing s with
  | nil =>
      refine ⟨fun event hMem => hMem, ?_⟩
      intro listener sender _ _ hMem
      contradiction
  | cons index rest ih =>
      have hNext := (Next.beacon s index).move hSound
      obtain ⟨hSetup, hNodes, -, -⟩ := beacon_frame s index
      obtain ⟨hKept, hHeard⟩ :=
        ih (hNext.sound hSound) (hLossless.beacon index)
      rw [hSetup, hNodes] at hHeard
      rw [List.foldl_cons]
      constructor
      · intro event hMem
        apply hKept event
        obtain ⟨more, hEvents, -⟩ :=
          (airs_beacon s index).events
        rw [hEvents]
        exact List.mem_append_left more hMem
      · intro listener sender hListener hSender hMem hRange
        rcases List.mem_cons.mp hMem with rfl | hRest
        · have hNode := Array.getElem?_eq_getElem hSender
          obtain ⟨hEvents, -⟩ :=
            broadcast_of_lossless hLossless sender
              s.nodes[sender].connection.metric
          refine
            ⟨s.nodes[sender].connection.metric,
              hKept _ ?_⟩
          rw [beacon_eq hSound hNode, hEvents]
          apply List.mem_append_right
          exact List.mem_map_of_mem
            (mem_hearers.mpr ⟨hListener, hRange⟩)
        · exact hHeard listener sender hListener hSender
            hRest hRange

/- Between beacons, the time since the last grows by one. -/
theorem mod_add_one_of_ne
    {step interval : Nat}
    (hInterval : 0 < interval)
    (hNotDue : (step + 1) % interval ≠ 0) :
    (step + 1) % interval = step % interval + 1 := by
  have hLess : step % interval + 1 ≤ interval :=
    Nat.mod_lt step hInterval
  have hMod :
      (step + 1) % interval =
        (step % interval + 1) % interval :=
    (Nat.mod_add_mod step interval 1).symm
  rcases Nat.eq_or_lt_of_le hLess with hFull | hPart
  · rw [hFull, Nat.mod_self] at hMod
    contradiction
  · rw [hMod, Nat.mod_eq_of_lt hPart]

/-
  When beacons are due, all entries are to be renewed; when
  they are not, entries are only one step older.
-/
theorem Refreshed.beaconsSent
    {setup : Setup}
    (hLasting : setup.Lasting)
    {s : Simulation γ}
    (hSound : s.Sound)
    (hSetup : s.setup = setup)
    (hSize : s.nodes.size = setup.nodeCount.toNat)
    (hLossless : Losses.Lossless s.losses)
    (hNear :
      ∀ (index : Nat) (node : Node),
        s.nodes[index]? = some node →
          ∀ n ∈ node.connection.neighbors.entries,
            ∃ other, other < setup.nodeCount.toNat ∧
              setup.inRange index other = true ∧
              n.address = addressOf other)
    (hRefreshed : s.Refreshed setup)
    (hEvents : s.events.toList = []) :
    s.ticked.beaconsSent.Refreshed setup := by
  have hNodes : s.ticked.beaconsSent.nodes = s.nodes :=
    (Prod.mk.inj (beaconsSent_frame s.ticked)).2
  intro index node hNode n hMem
  rw [hNodes] at hNode
  by_cases hDue :
    (s.steps + 1) % setup.beaconInterval.toNat = 0
  · have hInterval : setup.beaconInterval ≠ 0 := by
      intro hZero
      have hPos := hLasting.interval
      rw [hZero] at hPos
      contradiction
    have hBeacons :
        s.ticked.beaconsSent =
          (List.range s.nodes.size).foldl
            Simulation.beacon s.ticked := by
      unfold Simulation.beaconsSent isDue
      rw [show s.ticked.setup = setup from hSetup]
      exact if_pos (decide_eq_true ⟨hInterval, hDue⟩)
    obtain ⟨-, hHeard⟩ :=
      heard_of_beacons (s := s.ticked)
        (((Next.tick s).move hSound).sound hSound) hLossless
        (List.range s.nodes.size)
    rw [show s.ticked.setup = setup from hSetup] at hHeard
    rcases hNear index node hNode n hMem with
      ⟨other, hOther, hRange, hAddress⟩
    rw [← hSize] at hOther
    apply Or.inr
    rw [hAddress, hBeacons]
    exact hHeard index other
      (Array.getElem?_eq_some_iff.mp hNode).1 hOther
      (List.mem_range.mpr hOther) hRange
  · have hBeacons : s.ticked.beaconsSent = s.ticked := by
      unfold Simulation.beaconsSent isDue
      rw [show s.ticked.setup = setup from hSetup]
      exact if_neg (by
        rw [decide_eq_true_eq]
        exact fun hBoth => hDue hBoth.2)
    rw [hBeacons]
    apply Or.inl
    change _ ≤ ((s.steps + 1) % _) * _
    rw [mod_add_one_of_ne hLasting.interval hDue]
    exact hRefreshed.age_ticked_le hEvents hNode hMem

/- Until readings are sent, there is gossip only. -/
theorem Gossip.beaconsSent
    {setup : Setup}
    (hLasting : setup.Lasting)
    {s : Simulation γ}
    (hGossip : s.Gossip setup)
    (hRefreshed : s.Refreshed setup)
    (hEvents : s.events.toList = []) :
    s.ticked.beaconsSent.Gossip setup ∧
      s.ticked.beaconsSent.Refreshed setup := by
  have hTicked := hGossip.ticked hRefreshed hEvents
  constructor
  · unfold Simulation.beaconsSent
    split
    · exact hTicked.beacons hLasting _
    · exact hTicked
  · apply Refreshed.beaconsSent hLasting hGossip.sound
      hGossip.setup_eq hGossip.size hGossip.lossless _
      hRefreshed hEvents
    intro index node hNode n hMem
    exact ((hGossip.tables index node hNode).entries n
      hMem).2

/- A step without readings begins with gossip only. -/
theorem Gossip.begun
    {setup : Setup}
    (hLasting : setup.Lasting)
    (hSilent : setup.messageInterval = 0)
    {s : Simulation γ}
    (hGossip : s.Gossip setup)
    (hRefreshed : s.Refreshed setup)
    (hEvents : s.events.toList = []) :
    s.begun.Gossip setup ∧ s.begun.Refreshed setup := by
  have hBeacons :=
    hGossip.beaconsSent hLasting hRefreshed hEvents
  have hBegun : s.begun = s.ticked.beaconsSent := by
    unfold Simulation.begun readingsSent isDue
    rw [hBeacons.1.setup_eq, hSilent]
    exact if_neg (by simp)
  rw [hBegun]
  exact hBeacons

------------------------------------------------------------
-- Runs
------------------------------------------------------------

omit [LossSource γ] in
/- At the start, nobody has heard anything. -/
theorem entries_firstNode
    (setup : Setup)
    (index : Nat) :
    (firstNode setup index).connection.neighbors.entries =
      [] := by
  unfold firstNode
  split <;> rfl

theorem local_firstNode
    (setup : Setup)
    (index : Nat) :
    (firstNode setup index).connection.neighbors.Local setup
      index := by
  have hNone := entries_firstNode setup index
  refine
    { nodup := ?_
      entries := ?_
      capacity := ?_
      lifetime := ?_ }
  · unfold NeighborTable.addresses
    rw [hNone]
    exact List.nodup_nil
  · intro n hMem
    rw [hNone] at hMem
    contradiction
  · unfold firstNode
    split <;> rfl
  · unfold firstNode
    split <;> rfl

omit [LossSource γ] in
/- Every node is to announce the metric that it has. -/
theorem lastPledge_start
    (setup : Setup)
    (losses : γ)
    {index : Nat}
    (hIndex : index < setup.nodeCount.toNat) :
    (start setup losses).lastPledge index =
      some (firstNode setup index).connection.metric := by
  unfold lastPledge
  rw [outbox_start, firstRequests, List.filterMap_append,
    if_pos (Nat.zero_lt_of_lt hIndex)]
  by_cases hZero : index = 0
  · subst hZero
    have hSink :
        [Request.announce 0 Metric.sink].filterMap
            (pledgeOf 0) =
          [Metric.sink] := by
      simp [pledgeOf]
    rw [hSink, List.getLast?_append]
    rfl
  · have hNone :
        [Request.announce 0 Metric.sink].filterMap
            (pledgeOf index) =
          [] := by
      simp [pledgeOf, Ne.symm hZero]
    have hOpened :
        (firstNode setup index).connection.metric =
          Metric.unreachable := by
      unfold firstNode
      rw [if_neg hZero]
      rfl
    rw [hNone, List.append_nil, hOpened]
    apply getLast?_of_forall_eq
    · refine List.mem_filterMap.mpr
        ⟨.announce index Metric.unreachable, ?_, ?_⟩
      · refine List.mem_flatMap.mpr
          ⟨index, List.mem_range.mpr hIndex, ?_⟩
        exact List.mem_cons_self
      · exact if_pos rfl
    · intro metric hMem
      rcases List.mem_filterMap.mp hMem with
        ⟨request, hRequest, hPledge⟩
      rcases List.mem_flatMap.mp hRequest with
        ⟨other, -, hOpening⟩
      simp only [openingRequests, List.mem_cons,
        List.not_mem_nil, or_false] at hOpening
      rcases hOpening with rfl | rfl
      · simp only [pledgeOf, Option.ite_none_right_eq_some,
          Option.some.injEq] at hPledge
        exact hPledge.2.symm
      · contradiction

/- A run starts with gossip only. -/
theorem gossip_start
    (setup : Setup)
    {losses : γ}
    (hLossless : Losses.Lossless losses) :
    (start setup losses).Gossip setup ∧
      (start setup losses).Refreshed setup := by
  have hFirst :
      ∀ (index : Nat) (node : Node),
        (start setup losses).nodes[index]? = some node →
          index < setup.nodeCount.toNat ∧
            node = firstNode setup index := by
    intro index node hNode
    rw [nodes_start] at hNode
    split at hNode
    next hIndex =>
      exact ⟨hIndex, (Option.some.inj hNode).symm⟩
    next => contradiction
  have hUnheard :
      ∀ (index : Nat) (node : Node),
        (start setup losses).nodes[index]? = some node →
          node.connection.neighbors.entries = [] := by
    intro index node hNode
    rw [(hFirst index node hNode).2]
    exact entries_firstNode setup index
  constructor
  · refine
      { sound := sound_start setup losses
        setup_eq := by rw [start_frame]; rfl
        size := size_nodes_start setup losses
        lossless := by rw [start_frame]; exact hLossless
        requests := ?_
        events := ?_
        order := ?_
        tables := ?_
        ages := ?_
        beliefs := ?_ }
    · intro request hMem
      rw [outbox_start] at hMem
      exact (mem_firstRequests hMem).2
    · intro event hMem
      rw [events_start] at hMem
      contradiction
    · rw [events_start]
      exact List.Pairwise.nil
    · intro index node hNode
      rw [(hFirst index node hNode).2]
      exact local_firstNode setup index
    · intro index node hNode n hMem
      rw [hUnheard index node hNode] at hMem
      contradiction
    · intro listener sender node other _ hOther _
      rcases hFirst sender other hOther with ⟨hSender, rfl⟩
      unfold belief
      rw [lastPledge_start setup losses hSender]
      rfl
  · intro index node hNode n hMem
    rw [hUnheard index node hNode] at hMem
    contradiction

/-
  Without losses and readings, there is gossip only.  After
  a step that does not run out of turns, nothing waits.
-/
theorem gossip_run
    {setup : Setup}
    (hLasting : setup.Lasting)
    (hSilent : setup.messageInterval = 0)
    {losses : γ}
    (hLossless : Losses.Lossless losses)
    {steps : Nat}
    (hTurns :
      ∀ m, m < steps →
        ¬ (run m (start setup losses)).RunsOut) :
    (run steps (start setup losses)).Gossip setup ∧
      (run steps (start setup losses)).Refreshed setup ∧
      (run steps (start setup losses)).events.toList = [] ∧
      (0 < steps →
        (run steps (start setup losses)).outbox.toList =
          []) := by
  induction steps with
  | zero =>
      rcases gossip_start setup hLossless with
        ⟨hGossip, hRefreshed⟩
      refine
        ⟨hGossip, hRefreshed, events_start setup losses, ?_⟩
      intro hLess
      contradiction
  | succ steps ih =>
      rcases ih (fun m hLess =>
        hTurns m (Nat.lt_succ_of_lt hLess)) with
        ⟨hGossip, hRefreshed, hEvents, -⟩
      have hQuiet := hTurns steps (Nat.lt_succ_self steps)
      rw [RunsOut, Decidable.not_not, turn?_eq_none_iff,
        ← run_succ] at hQuiet
      rcases hGossip.begun hLasting hSilent hRefreshed hEvents
        with ⟨hBegun, hNew⟩
      rcases hBegun.pump hLasting hNew turnsPerStep with
        ⟨hPumped, hPumpedNew⟩
      rw [← step_eq_pump, ← run_succ] at hPumped hPumpedNew
      exact ⟨hPumped, hPumpedNew, hQuiet.2, fun _ => hQuiet.1⟩

end Runs

end Simulation

end CollectionTree
