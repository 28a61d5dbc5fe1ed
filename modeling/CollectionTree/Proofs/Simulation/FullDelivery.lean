import CollectionTree.Proofs.Simulation.ScheduleRuns
import CollectionTree.Simulation.Report

/-
  A line that loses nothing delivers all that it can route.

  Key definitions include:
    * `Cargo.unvisited`
    * `Simulation.Unheard`
    * `Simulation.DeliversAll`

  Key theorems include:
    * `Simulation.Unheard.report`
    * `Simulation.resting_of_first_step`
    * `Simulation.lossless_line_delivers_all`

  In the first step readings are sent before anything is
  heard, so they are all refused.  Routes are known from the
  end of that step on, and they are never lost again.
-/

namespace CollectionTree

------------------------------------------------------------
-- Nodes That No Packet Came To
------------------------------------------------------------

/- The cargo of a node that no packet came to. -/
def Cargo.unvisited
    (setup : Setup)
    (seqno : UInt8) : Cargo :=
  { recent :=
      RecentPackets.empty setup.collect.recentPackets.toNat
    seqno := seqno
    busyDrops := 0
    ttlDrops := 0
    duplicatesDropped := 0
    received := Queue.empty }

open Simulation in
/- Such a node awaits any packet. -/
theorem Node.punctual_of_unvisited
    {setup : Setup}
    (hFew : setup.collect.recentPackets.toNat ≤ 255)
    {node : Node}
    {own : UInt8}
    (hCargo : node.cargo = Cargo.unvisited setup own)
    {index : Nat}
    {seqno : UInt8}
    (hOwn : index ≠ 0 → own = seqno)
    (step : Nat) :
    node.Punctual ⟨setup, seqno, step⟩ Stage.rest index := by
  have hRecent :
      node.connection.recent =
        RecentPackets.empty
          setup.collect.recentPackets.toNat :=
    congrArg Cargo.recent hCargo
  have hSeqno : node.connection.seqno = own :=
    congrArg Cargo.seqno hCargo
  have hReceived : node.received = Queue.empty :=
    congrArg Cargo.received hCargo
  refine
    { short := ?_
      awaits := ?_
      seqno := ?_
      busyDrops := congrArg Cargo.busyDrops hCargo
      ttlDrops := congrArg Cargo.ttlDrops hCargo
      duplicatesDropped :=
        congrArg Cargo.duplicatesDropped hCargo
      deliveries := ?_ }
  · rw [hRecent]
    exact RecentPackets.short_empty hFew
  · intro origin _ _
    rw [hRecent]
    exact RecentPackets.awaits_empty _ _ _
  · intro hOther _
    rw [Round.awaited_rest _ (Nat.le_refl index), hSeqno]
    exact hOwn hOther
  · intro d hMem
    unfold deliveries at hMem
    rw [hReceived] at hMem
    contradiction

namespace Simulation

theorem cargo_firstNode
    (setup : Setup)
    (index : Nat) :
    (firstNode setup index).cargo =
      Cargo.unvisited setup 0 := by
  unfold firstNode
  split <;> rfl

variable {γ : Type} [LossSource γ]

------------------------------------------------------------
-- Gossip Is Not About Packets
------------------------------------------------------------

theorem Gossip.agenda_eq_nil
    {setup : Setup}
    {s : Simulation γ}
    (hGossip : s.Gossip setup) :
    s.agenda = [] := by
  unfold agenda
  rw [Request.expected_of_routings hGossip.requests,
    List.append_nil]
  apply filter_of_routings
  intro event hMem
  rcases hGossip.events event hMem with
    hTick | ⟨sender, metric, -, -, hTold⟩
  · rw [hTick]
    rfl
  · rw [hTold]
    rfl

theorem Gossip.sameCargo_turn
    {setup : Setup}
    {s t : Simulation γ}
    (hGossip : s.Gossip setup)
    (hTurn : s.turn? = some t) :
    SameCargo s t := by
  have hNoUnicast :
      ∀ sender handover,
        Request.unicast sender handover ∈ s.outbox.toList →
          s.receiver? sender handover.nextHop =
            some (sender - 1) := by
    intro sender handover hMem
    have hRouting := hGossip.requests _ hMem
    contradiction
  rcases cargo_of_turn hGossip.sound hGossip.lossless
    hNoUnicast hTurn with
    hSame | ⟨index, event, node, next, hPackets, hDispatched⟩
  · exact hSame
  · rcases agenda_of_dispatched hDispatched hPackets with
      ⟨rest, hSome, -⟩
    rw [hGossip.agenda_eq_nil] at hSome
    contradiction

/- While nodes gossip, they stay as packets left them. -/
theorem Gossip.onSchedule_pump
    {setup : Setup}
    (hLasting : setup.Lasting)
    {r : Round}
    {g : Stage}
    {s : Simulation γ}
    (hGossip : s.Gossip setup)
    (hRefreshed : s.Refreshed setup)
    (hOn : s.OnSchedule r g)
    (budget : Nat) :
    (s.pump budget).OnSchedule r g := by
  induction budget generalizing s with
  | zero => exact hOn
  | succ budget ih =>
      unfold Simulation.pump
      cases hTurn : s.turn? with
      | none => exact hOn
      | some next =>
          obtain ⟨hNext, hNew⟩ :=
            hGossip.turn hLasting hRefreshed hTurn
          exact
            ih hNext hNew
              (hOn.of_sameCargo (hGossip.sameCargo_turn hTurn))

/- A reading that is refused is not heard by others. -/
theorem Gossip.of_refused
    {setup : Setup}
    {s t : Simulation γ}
    (hGossip : s.Gossip setup)
    (hRefreshed : s.Refreshed setup)
    {index : Nat}
    {node : Node}
    (hNode : s.nodes[index]? = some node)
    (hNodes :
      t.nodes =
        s.nodes.setIfInBounds index
          { node with
            connection :=
              node.connection.countOriginated.countNoRoute })
    {bursts : UInt8}
    (hOutbox :
      t.outbox.toList =
        s.outbox.toList ++ [.listen index bursts])
    (hEvents : t.events.toList = s.events.toList)
    (hSetup : t.setup = s.setup)
    (hSteps : t.steps = s.steps)
    (hLossless : Losses.Lossless t.losses)
    (hSound : t.Sound) :
    t.Gossip setup ∧ t.Refreshed setup := by
  have hRoutes : SameRoutes s t := by
    intro other changed hChanged
    rcases node_cases hNodes hChanged with
      ⟨rfl, rfl⟩ | ⟨-, hOld⟩
    · exact ⟨node, hNode, rfl, rfl⟩
    · exact ⟨changed, hOld, rfl, rfl⟩
  have hMore :
      t.events.toList = s.events.toList ++ [] := by
    rw [hEvents, List.append_nil]
  have hTimely :=
    hGossip.timely.of_more hRoutes.tables hSteps hMore
      (by simp)
  refine
    ⟨{ sound := hSound
       setup_eq := hSetup.trans hGossip.setup_eq
       size := ?_
       lossless := hLossless
       requests := ?_
       events := ?_
       order := ?_
       tables := ?_
       ages := hTimely.1.ages
       beliefs := ?_ }, hTimely.2 hRefreshed⟩
  · rw [hNodes, Array.size_setIfInBounds]
    exact hGossip.size
  · intro request hMem
    rw [hOutbox, List.mem_append, List.mem_singleton] at hMem
    rcases hMem with hOld | rfl
    · exact hGossip.requests request hOld
    · rfl
  · rw [hEvents]
    exact hGossip.events
  · rw [hEvents]
    exact hGossip.order
  · intro other changed hChanged
    rcases hRoutes other changed hChanged with
      ⟨before, hBefore, hTable, -⟩
    rw [hTable]
    exact hGossip.tables other before hBefore
  · intro listener sender own other hOwn hOther hRange
    rcases hRoutes listener own hOwn with
      ⟨ownBefore, hOwnBefore, hTable, -⟩
    rcases hRoutes sender other hOther with
      ⟨otherBefore, hOtherBefore, -, hMetric⟩
    have hBelief :=
      hGossip.beliefs listener sender ownBefore otherBefore
        hOwnBefore hOtherBefore hRange
    unfold belief lastPledge lastNews at hBelief ⊢
    rw [hEvents, hOutbox, List.filterMap_append, hTable,
      hMetric]
    exact (congrArg (fun pledges =>
      (List.getLast? pledges).or _) (List.append_nil _)).trans
        hBelief

------------------------------------------------------------
-- Before Anything Is Heard
------------------------------------------------------------

/-
  Nodes know of nobody and had no packets.  Those before a
  place, but for the sink, sent a reading that was refused.
-/
structure Unheard
    (setup : Setup)
    (place : Nat)
    (s : Simulation γ) : Prop where
  gossip : s.Gossip setup
  refreshed : s.Refreshed setup
  tables :
    ∀ (index : Nat) (node : Node),
      s.nodes[index]? = some node →
        node.connection.neighbors.entries = []
  cargo :
    ∀ (index : Nat) (node : Node),
      s.nodes[index]? = some node →
        node.cargo =
          Cargo.unvisited setup
            (if 0 < index ∧ index < place then 1 else 0)
  balance :
    s.traffic.messagesSent = s.traffic.messagesNoRoute

section Unheard

variable
  {setup : Setup}
  {losses : γ}
  {s : Simulation γ}

/- A node that is not the sink has its reading refused. -/
theorem Unheard.report
    (hLine : setup.LosslessLine)
    (hLossless : Losses.Lossless losses)
    (hReaches : Reaches (start setup losses) s)
    {place : Nat}
    (hUnheard : s.Unheard setup place)
    (hPlace : place < setup.nodeCount.toNat) :
    (s.report place).Unheard setup (place + 1) := by
  have hOnLine := onLine_of_reaches hLine hLossless hReaches
  have hSound := hOnLine.sound
  have hGossip := hUnheard.gossip
  have hNode :=
    Array.getElem?_eq_getElem (hGossip.size ▸ hPlace)
  have hOthers :
      ∀ index, index ≠ place →
        ((0 < index ∧ index < place + 1) ↔
          (0 < index ∧ index < place)) := by
    intro index hOther
    omega
  rcases report_cases (hSound.ready place) with
    ⟨hSame, hSilent⟩ |
    ⟨node, next, requests, reply, hReported⟩
  · have hIdle :=
      idle_of_agenda hOnLine.agree hNode (by
        intro event hMem
        rw [hGossip.agenda_eq_nil] at hMem
        contradiction)
    have hSink : place = 0 := by
      rcases hSilent _ hNode with hRole | hBusy
      · exact (hSound.ready place _ hNode).role_iff.mp hRole
      · rw [hIdle] at hBusy
        contradiction
    subst hSink
    rw [hSame]
    refine { hUnheard with cargo := ?_ }
    intro index node hFound
    rw [hUnheard.cargo index node hFound,
      if_neg (by omega), if_neg (by omega)]
  · have hFound := hReported.found
    have hOther : place ≠ 0 := by
      intro hZero
      exact hReported.role
        ((hSound.ready place node hFound).role_iff.mpr hZero)
    have hRefused :
        next =
            { node with
              connection :=
                node.connection.countOriginated.countNoRoute } ∧
          requests =
            [ .listen place
                node.connection.config.noRouteListenBursts ] ∧
          reply = .sent .droppedNoRoute := by
      have hReporting := hReported.reporting
      cases hReporting with
      | dropped => exact ⟨rfl, rfl, rfl⟩
      | handedOver n hBest =>
          have hMem :=
            (NeighborTable.mem_and_hasRoute_of_best hBest).1
          rw [hUnheard.tables place node hFound] at hMem
          contradiction
    obtain ⟨rfl, rfl, rfl⟩ := hRefused
    have hNext :=
      hGossip.of_refused hUnheard.refreshed hFound
        hReported.nodes hReported.outbox hReported.events
        hReported.setup
        (Prod.mk.inj (report_frame s place)).2
        (by rw [losses_report]; exact hGossip.lossless)
        (hSound.of_reported hReported)
    refine
      { gossip := hNext.1
        refreshed := hNext.2
        tables := ?_
        cargo := ?_
        balance := ?_ }
    · intro index changed hChanged
      rcases node_cases hReported.nodes hChanged with
        ⟨rfl, rfl⟩ | ⟨-, hOld⟩
      · exact hUnheard.tables index node hFound
      · exact hUnheard.tables index changed hOld
    · intro index changed hChanged
      rcases node_cases hReported.nodes hChanged with
        ⟨rfl, rfl⟩ | ⟨hNe, hOld⟩
      · have hBefore := hUnheard.cargo index node hFound
        rw [if_neg (by omega)] at hBefore
        rw [if_pos (by omega)]
        exact
          congrArg
            (fun cargo : Cargo =>
              { cargo with seqno := cargo.seqno + 1 })
            hBefore
      · rw [hUnheard.cargo index changed hOld]
        simp only [hOthers index hNe]
    · rw [hReported.traffic]
      exact congrArg (· + 1) hUnheard.balance

theorem Unheard.reports
    (hLine : setup.LosslessLine)
    (hLossless : Losses.Lossless losses)
    (hReaches : Reaches (start setup losses) s)
    {place : Nat}
    (hUnheard : s.Unheard setup place)
    {more : Nat}
    (hCount : place + more = setup.nodeCount.toNat) :
    ((List.range' place more).foldl Simulation.report
      s).Unheard setup setup.nodeCount.toNat := by
  induction more generalizing s place with
  | zero =>
      obtain rfl : place = setup.nodeCount.toNat := by
        omega
      exact hUnheard
  | succ more ih =>
      rw [List.range'_succ]
      exact
        ih (hReaches.tail (.report s place))
          (hUnheard.report hLine hLossless hReaches (by omega))
          (by omega)

/- All nodes or none of them sent a reading. -/
theorem Unheard.onSchedule
    (hFew : setup.collect.recentPackets.toNat ≤ 255)
    {place : Nat}
    (hUnheard : s.Unheard setup place)
    (hPlace : place = 0 ∨ place = setup.nodeCount.toNat) :
    ∃ seqno, ∀ step,
      s.OnSchedule ⟨setup, seqno, step⟩ Stage.rest := by
  refine ⟨if 0 < place then 1 else 0, fun step => ?_⟩
  have hDeliveries : s.deliveries = [] := by
    unfold deliveries
    cases hNode : s.nodes[0]? with
    | none => rfl
    | some node =>
        exact
          congrArg (fun cargo => cargo.received.toList)
            (hUnheard.cargo 0 node hNode)
  refine
    { agenda := ?_
      nodes := ?_
      balance := ?_ }
  · rw [hUnheard.gossip.agenda_eq_nil, Round.agenda_rest]
  · intro index node hNode
    apply Node.punctual_of_unvisited hFew
      (hUnheard.cargo index node hNode)
    intro hOther
    have hIndex := hUnheard.gossip.lt_of_node hNode
    apply if_congr ?_ rfl rfl
    omega
  · rw [hDeliveries, hUnheard.gossip.agenda_eq_nil]
    exact hUnheard.balance

end Unheard

------------------------------------------------------------
-- The First Step
------------------------------------------------------------

section FirstStep

variable
  {setup : Setup}
  {losses : γ}

theorem unheard_start
    (hLossless : Losses.Lossless losses) :
    (start setup losses).Unheard setup 0 := by
  have hFirst :
      ∀ (index : Nat) (node : Node),
        (start setup losses).nodes[index]? = some node →
          node = firstNode setup index := by
    intro index node hNode
    rw [nodes_start] at hNode
    split at hNode
    · exact (Option.some.inj hNode).symm
    · contradiction
  obtain ⟨hGossip, hRefreshed⟩ := gossip_start setup hLossless
  refine
    { gossip := hGossip
      refreshed := hRefreshed
      tables := ?_
      cargo := ?_
      balance := ?_ }
  · intro index node hNode
    rw [hFirst index node hNode]
    exact entries_firstNode setup index
  · intro index node hNode
    rw [hFirst index node hNode, if_neg (by omega)]
    exact cargo_firstNode setup index
  · rw [traffic_start]
    rfl

theorem unheard_beaconsSent
    (hLasting : setup.Lasting)
    (hLossless : Losses.Lossless losses) :
    (start setup losses).ticked.beaconsSent.Unheard setup
      0 := by
  have hStart : (start setup losses).Unheard setup 0 :=
    unheard_start hLossless
  have hEvents := events_start setup losses
  have hFrame :=
    beaconsSent_frame (start setup losses).ticked
  have hNodes :
      (start setup losses).ticked.beaconsSent.nodes =
        (start setup losses).nodes :=
    (Prod.mk.inj hFrame).2
  have hSent :
      (start
          setup
            losses).ticked.beaconsSent.traffic.messagesSent =
        (start setup losses).traffic.messagesSent :=
    (Prod.mk.inj (Prod.mk.inj (Prod.mk.inj hFrame).1).2).2
  obtain ⟨hGossip, hRefreshed⟩ :=
    hStart.gossip.beaconsSent hLasting hStart.refreshed
      hEvents
  exact
    { gossip := hGossip
      refreshed := hRefreshed
      tables := by rw [hNodes]; exact hStart.tables
      cargo := by rw [hNodes]; exact hStart.cargo
      balance := by
        rw [hSent, messagesNoRoute_beaconsSent]
        exact hStart.balance }

/- After the first step, all nodes have routes. -/
theorem resting_of_first_step
    (hLine : setup.LosslessLine)
    (hLossless : Losses.Lossless losses)
    (hTurns : ¬ (start setup losses).RunsOut) :
    (start setup losses).step.Resting setup := by
  have hLasting := hLine.lasting
  let s := start setup losses
  let now := s.ticked.beaconsSent
  have hNow : now.Unheard setup 0 :=
    unheard_beaconsSent hLasting hLossless
  have hReachesNow : Reaches (start setup losses) now :=
    (Relation.ReflTransGen.single (.tick s)).trans
      (reaches_beaconsSent s.ticked)
  have hBegun :
      ∃ place, s.begun.Unheard setup place ∧
        (place = 0 ∨ place = setup.nodeCount.toNat) := by
    by_cases hDue : now.isDue now.setup.messageInterval = true
    · have hReported :
          s.begun =
            (List.range' 0 now.nodes.size).foldl
              Simulation.report now := by
        rw [← List.range_eq_range']
        exact if_pos hDue
      rw [hNow.gossip.size] at hReported
      refine ⟨setup.nodeCount.toNat, ?_, Or.inr rfl⟩
      rw [hReported]
      exact
        hNow.reports hLine hLossless hReachesNow
          (Nat.zero_add _)
    · have hSame : s.begun = now := if_neg hDue
      rw [hSame]
      exact ⟨0, hNow, Or.inl rfl⟩
  rcases hBegun with ⟨place, hUnheard, hPlace⟩
  rcases hUnheard.onSchedule hLine.forgetting hPlace with
    ⟨seqno, hOn⟩
  obtain ⟨hGossip, hRefreshed⟩ :=
    hUnheard.gossip.pump hLasting hUnheard.refreshed
      turnsPerStep
  rw [RunsOut, Decidable.not_not,
    turn?_eq_none_iff] at hTurns
  have hQuiet : s.step.Quiet setup :=
    { gossip := hGossip
      outbox := hTurns.1
      events := hTurns.2 }
  exact
    { outbox := hTurns.1
      events := hTurns.2
      underway :=
        ⟨seqno, fun step =>
          { flowing := hQuiet.flowing hRefreshed hLine
            schedule :=
              hUnheard.gossip.onSchedule_pump hLasting
                hUnheard.refreshed (hOn step)
                turnsPerStep }⟩ }

end FirstStep

------------------------------------------------------------
-- Full Delivery
------------------------------------------------------------

/-
  After a number of steps, all readings that were not
  refused have been received, over as many hops as their
  nodes are away.  Readings were refused in the first step
  only, and no node dropped any packet.
-/
structure DeliversAll
    (setup : Setup)
    (steps : Nat)
    (s : Simulation γ) : Prop where
  delivered :
    (run steps s).reportOf.messagesDelivered +
        (run steps s).traffic.messagesNoRoute =
      (run steps s).traffic.messagesSent
  refused :
    ∀ reading ∈ readingsIn (entriesOfSteps steps s),
      reading.reply = .sent .droppedNoRoute →
        reading.step = 1
  noMoreRefused :
    1 ≤ steps →
      (run steps s).traffic.messagesNoRoute =
        (run 1 s).traffic.messagesNoRoute
  undropped :
    ∀ (index : Nat) (node : Node),
      (run steps s).nodes[index]? = some node →
        node.connection.stats.busyDrops = 0 ∧
          node.connection.stats.ttlDrops = 0 ∧
          node.connection.stats.duplicatesDropped = 0
  hops :
    ∀ d ∈ (run steps s).deliveries, d.CameAllTheWay setup

section Delivery

variable
  {setup : Setup}
  {losses : γ}

/- The schedule at rest accounts for all readings. -/
theorem OnSchedule.deliversAll
    {seqno : UInt8}
    {step : Nat}
    {s : Simulation γ}
    {steps : Nat}
    (hOn :
      (run steps s).OnSchedule ⟨setup, seqno, step⟩
        Stage.rest)
    (hRefused :
      ∀ reading ∈ readingsIn (entriesOfSteps steps s),
        reading.reply = .sent .droppedNoRoute →
          reading.step = 1)
    (hNoRoute :
      1 ≤ steps →
        (run steps s).traffic.messagesNoRoute =
          (run 1 s).traffic.messagesNoRoute) :
    s.DeliversAll setup steps := by
  refine
    { delivered := ?_
      refused := hRefused
      noMoreRefused := hNoRoute
      undropped := ?_
      hops := ?_ }
  · have hNone : (run steps s).agenda = [] := by
      rw [hOn.agenda, Round.agenda_rest]
    have hBalance := hOn.balance
    rw [hNone, List.countP_nil, Nat.add_zero,
      Nat.add_comm] at hBalance
    exact hBalance.symm
  · intro index node hNode
    have hPunctual := hOn.nodes index node hNode
    exact
      ⟨hPunctual.busyDrops, hPunctual.ttlDrops,
        hPunctual.duplicatesDropped⟩
  · intro d hMem
    unfold deliveries at hMem
    cases hNode : (run steps s).nodes[0]? with
    | none =>
        rw [hNode] at hMem
        contradiction
    | some node =>
        rw [hNode] at hMem
        exact (hOn.nodes 0 node hNode).deliveries d hMem

theorem deliversAll_of_turns
    (hLine : setup.LosslessLine)
    (hLossless : Losses.Lossless losses)
    {steps : Nat}
    (hTurns :
      ∀ m, m < steps →
        ¬ (run m (start setup losses)).RunsOut) :
    (start setup losses).DeliversAll setup steps := by
  cases steps with
  | zero =>
      have hStart : (start setup losses).Unheard setup 0 :=
        unheard_start hLossless
      rcases hStart.onSchedule hLine.forgetting (Or.inl rfl)
        with ⟨seqno, hOn⟩
      have hNow :
          (run 0 (start setup losses)).OnSchedule
            ⟨setup, seqno, 0⟩ Stage.rest :=
        hOn 0
      apply hNow.deliversAll
      · intro reading hMem
        contradiction
      · intro hSome
        contradiction
  | succ steps =>
      have hFirst :=
        resting_of_first_step hLine hLossless
          (hTurns 0 (Nat.zero_lt_succ steps))
      obtain ⟨hResting, hNoRoute, hNone⟩ :=
        hFirst.run hLine hLossless (reaches_step _)
          (fun m hLess =>
            hTurns (m + 1) (Nat.succ_lt_succ hLess))
      rcases hResting.underway with ⟨seqno, hUnderway⟩
      have hNow :
          (run (steps + 1) (start setup losses)).OnSchedule
            ⟨setup, seqno, 0⟩ Stage.rest :=
        (hUnderway 0).schedule
      apply hNow.deliversAll
      · intro reading hMem hDropped
        rw [entriesOfSteps, readingsIn_append,
          readingsIn_append, readingsIn_turns,
          List.append_nil, List.mem_append] at hMem
        rcases hMem with hEarly | hLate
        · have hStep :=
            (distinct_beginning (start setup losses)).2
              reading hEarly
          rw [hStep, start_frame]
          rfl
        · exact absurd hDropped (hNone reading hLate)
      · intro _
        exact hNoRoute

end Delivery

/-
  A line of up to sixteen nodes that loses nothing is
  accepted.  As long as no step runs out of turns, it
  delivers every reading but those of the first step, which
  find no route yet.
-/
theorem lossless_line_delivers_all
    {setup : Setup}
    (hLine : setup.LosslessLine) :
    ∃ s, new? setup = .ok s ∧
      ∀ steps,
        (∀ m, m < steps → ¬ (run m s).RunsOut) →
          s.DeliversAll setup steps := by
  refine ⟨_, new?_eq_ok_iff.mpr ⟨hLine.check, rfl⟩, ?_⟩
  intro steps hTurns
  exact
    deliversAll_of_turns hLine
      (Losses.lossless_ofSeed hLine.loss setup.seed) hTurns

/- Two of six readings come too early on a line of three. -/
theorem lossless_line_delivers_all_of_three :
    let setup : Setup :=
      { Setup.standard with
        nodeCount := 3
        linkLoss := 0.0
        beaconInterval := 1
        messageInterval := 1 }
    ∃ s,
      new? setup = .ok s ∧
        (run 3 s).traffic.messagesSent = 6 ∧
        (run 3 s).traffic.messagesNoRoute = 2 ∧
        (run 3 s).deliveries.map
            (fun d => d.hops.toNat) =
          [1, 2, 1, 2] ∧
        setup.LosslessLine ∧
        (∀ m, m < 3 → ¬ (run m s).RunsOut) ∧
        s.DeliversAll setup 3 := by
  intro setup
  have hLine : setup.LosslessLine :=
    { topology := rfl
      range := rfl
      loss := by decide +kernel
      several := by decide
      few := by decide
      hops := by decide
      room := by decide
      remembering := by decide
      forgetting := by decide
      messages := by decide
      beacons := by decide
      lifetime := by decide }
  rcases lossless_line_delivers_all hLine with
    ⟨s, hNew, hAll⟩
  have hStart := (new?_eq_ok_iff.mp hNew).2
  have hTurns : ∀ m, m < 3 → ¬ (run m s).RunsOut := by
    have hEnded :
        ∀ m, m < 3 →
          (run (m + 1)
            (start setup
              (SeededLosses.ofSeed setup.linkLoss
                setup.seed))).turn?.isNone = true := by
      decide +kernel
    intro m hLess
    rw [not_runsOut_iff, hStart]
    exact Option.isNone_iff_eq_none.mp (hEnded m hLess)
  refine
    ⟨s, hNew, ?_, ?_, ?_, hLine, hTurns, hAll 3 hTurns⟩
  · rw [hStart]
    decide +kernel
  · rw [hStart]
    decide +kernel
  · rw [hStart]
    decide +kernel

end Simulation

end CollectionTree
