import CollectionTree.Proofs.Simulation.Retransmission
import CollectionTree.Proofs.Simulation.Rumors

/-
  Nodes send to nodes in range, so that without losses the
  first transmission of every packet is acknowledged.

  Key definitions include:
    * `Simulation.RespectsTopology`
    * `Simulation.Unfailing`
    * `Simulation.ServesAtOnce`
    * `Simulation.packetsServed`

  Key theorems include:
    * `Simulation.Vicinal.canReach`
    * `Simulation.Vicinal.respectsTopology`
    * `Simulation.Reliable.servesAtOnce`
    * `Simulation.Reliable.next`
    * `Simulation.Reliable.transmissions_turns`
    * `Simulation.packets_stay_in_range`
-/

namespace CollectionTree

------------------------------------------------------------
-- Failures That Nodes Count
------------------------------------------------------------

namespace Node

theorem Rerouted.txFailed_eq
    {index : Nat}
    {node next : Node}
    {d : Connection}
    {requests : List Request}
    (hRerouted : Rerouted index node d next requests) :
    next.connection.stats.txFailed = d.stats.txFailed := by
  cases hRerouted <;> rfl

/- A node counts a failure only when it is told of one. -/
theorem Handling.txFailed_eq
    {index : Nat}
    {node next : Node}
    {event : Event}
    {requests : List Request}
    (hHandling : Handling index node event next requests)
    (hAcked :
      ∀ receiver outcome transmissions,
        event = .sent receiver outcome transmissions →
          outcome = .acked) :
    next.connection.stats.txFailed =
      node.connection.stats.txFailed := by
  cases hHandling with
  | echoed => rfl
  | heard sender metric _ next requests hRerouted =>
      exact hRerouted.txFailed_eq
  | aged time next requests hRerouted =>
      exact hRerouted.txFailed_eq
  | concluded receiver outcome transmissions next requests
      hRerouted =>
      rw [hRerouted.txFailed_eq]
      unfold Connection.concluded
      rw [if_pos (hAcked receiver outcome transmissions rfl)]
  | received sender packet outcome hReception =>
      cases hReception <;> rfl

theorem Reporting.txFailed_eq
    {index : Nat}
    {node next : Node}
    {packet : Packet}
    {requests : List Request}
    {reply : Reply}
    (hReporting :
      Reporting index node packet next requests reply) :
    next.connection.stats.txFailed =
      node.connection.stats.txFailed := by
  cases hReporting <;> rfl

end Node

namespace Simulation

variable {γ : Type}

------------------------------------------------------------
-- Nodes in Range
------------------------------------------------------------

/-
  All that a node knows, and all that it has packets for, is
  the address of another node in range.
-/
structure RespectsTopology
    (s : Simulation γ) : Prop where
  nodup :
    ∀ (index : Nat) (node : Node),
      s.nodes[index]? = some node →
        node.connection.neighbors.addresses.Nodup
  tables :
    ∀ (index : Nat) (node : Node),
      s.nodes[index]? = some node →
        ∀ a ∈ node.connection.neighbors.addresses,
          ∃ other, other ≠ index ∧ s.CanReach index a other
  requests :
    ∀ (sender : Nat) (handover : Handover),
      .unicast sender handover ∈ s.outbox.toList →
        ∃ other, other ≠ sender ∧
          s.CanReach sender handover.nextHop other

/- A node that is near can be reached, and is another one. -/
theorem Vicinal.canReach
    {setup : Setup}
    {s : Simulation γ}
    (hVicinal : s.Vicinal setup)
    (hFew : setup.nodeCount.toNat ≤ 255)
    {index : Nat}
    {a : Address}
    (hNear : setup.Near index a) :
    ∃ other, other ≠ index ∧ s.CanReach index a other := by
  rcases hNear with ⟨other, hOther, hRange, hAddress⟩
  refine ⟨other, ?_, ?_⟩
  · rintro rfl
    rw [setup.inRange_self] at hRange
    contradiction
  · exact
      { exists_node := hVicinal.size.symm ▸ hOther
        addressed := Nat.lt_of_lt_of_le hOther hFew
        address := hAddress
        inRange := hVicinal.setup_eq.symm ▸ hRange }

theorem Vicinal.respectsTopology
    {setup : Setup}
    {s : Simulation γ}
    (hVicinal : s.Vicinal setup)
    (hFew : setup.nodeCount.toNat ≤ 255) :
    s.RespectsTopology where
  nodup := fun index node hNode =>
    (hVicinal.tables index node hNode).nodup
  tables := fun index node hNode a hMem =>
    hVicinal.canReach hFew
      ((hVicinal.tables index node hNode).near a hMem)
  requests := fun sender handover hMem =>
    hVicinal.canReach hFew
      (hVicinal.requests (.unicast sender handover) hMem
        handover.nextHop rfl)

------------------------------------------------------------
-- Without Failures
------------------------------------------------------------

section Failures

variable [LossSource γ]

/-
  Nothing was lost so far, and nothing will be: senders are
  told of acknowledged first transmissions only.
-/
structure Unfailing
    (s : Simulation γ) : Prop where
  lossless : Losses.Lossless s.losses
  timeouts : s.traffic.timeouts = 0
  acked :
    ∀ event ∈ s.events.toList,
      ∀ receiver outcome transmissions,
        event.2 = .sent receiver outcome transmissions →
          outcome = .acked ∧ transmissions = 1
  txFailed :
    ∀ (index : Nat) (node : Node),
      s.nodes[index]? = some node →
        node.connection.stats.txFailed = 0

/- Without losses the first round trip succeeds. -/
theorem firstSuccess_of_lossless
    {losses : γ}
    (hLossless : Losses.Lossless losses) :
    Losses.FirstSuccess losses 1 :=
  .zero ⟨hLossless.first, hLossless.rest.first⟩

/- Nodes stay as they are, and no failures are told of. -/
theorem Unfailing.of_nodes_eq
    {s t : Simulation γ}
    (hUnfailing : s.Unfailing)
    (hLossless : Losses.Lossless t.losses)
    (hTimeouts : t.traffic.timeouts = s.traffic.timeouts)
    (hNodes : t.nodes = s.nodes)
    {more : List (Nat × Event)}
    (hEvents : t.events.toList = s.events.toList ++ more)
    (hMore :
      ∀ event ∈ more,
        ∀ receiver outcome transmissions,
          event.2 = .sent receiver outcome transmissions →
            outcome = .acked ∧ transmissions = 1) :
    t.Unfailing where
  lossless := hLossless
  timeouts := hTimeouts.trans hUnfailing.timeouts
  acked := by
    intro event hMem
    rw [hEvents, List.mem_append] at hMem
    rcases hMem with hOld | hNew
    · exact hUnfailing.acked event hOld
    · exact hMore event hNew
  txFailed := hNodes ▸ hUnfailing.txFailed

/- What is on the air is about routes. -/
theorem Unfailing.aired
    {s t : Simulation γ}
    (hUnfailing : s.Unfailing)
    (hLossless : Losses.Lossless t.losses)
    (hAirs : Airs s t) :
    t.Unfailing := by
  rcases hAirs.events with ⟨more, hEvents, hMore⟩
  refine hUnfailing.of_nodes_eq hLossless hAirs.timeouts
    hAirs.nodes hEvents ?_
  intro event hMem receiver outcome transmissions hSent
  have hRouting := (hMore event hMem).2
  rw [hSent] at hRouting
  contradiction

/- One node counts as many failures as before. -/
theorem Unfailing.of_set
    {s t : Simulation γ}
    (hUnfailing : s.Unfailing)
    (hLossless : Losses.Lossless t.losses)
    (hTimeouts : t.traffic.timeouts = s.traffic.timeouts)
    {index : Nat}
    {node next : Node}
    (hNode : s.nodes[index]? = some node)
    (hNodes : t.nodes = s.nodes.setIfInBounds index next)
    (hSame :
      next.connection.stats.txFailed =
        node.connection.stats.txFailed)
    (hEvents :
      ∀ event ∈ t.events.toList,
        event ∈ s.events.toList) :
    t.Unfailing where
  lossless := hLossless
  timeouts := hTimeouts.trans hUnfailing.timeouts
  acked := fun event hMem =>
    hUnfailing.acked event (hEvents event hMem)
  txFailed := by
    intro other last hLast
    rcases node_cases hNodes hLast with
      ⟨rfl, rfl⟩ | ⟨-, hOld⟩
    · exact hSame.trans
        (hUnfailing.txFailed other node hNode)
    · exact hUnfailing.txFailed other last hOld

theorem Unfailing.dispatched
    {s t : Simulation γ}
    (hUnfailing : s.Unfailing)
    {index : Nat}
    {event : Event}
    {node next : Node}
    (hDispatched : Dispatched s t index event node next) :
    t.Unfailing := by
  have hTold :
      ∀ receiver outcome transmissions,
        event = .sent receiver outcome transmissions →
          outcome = .acked := by
    intro receiver outcome transmissions hSent
    have hMem : (index, event) ∈ s.events.toList := by
      rw [hDispatched.events]
      exact List.mem_cons_self
    exact (hUnfailing.acked (index, event) hMem receiver
      outcome transmissions hSent).1
  refine hUnfailing.of_set
    (hDispatched.losses ▸ hUnfailing.lossless)
    (congrArg Traffic.timeouts hDispatched.traffic)
    hDispatched.found hDispatched.nodes
    (hDispatched.handling.txFailed_eq hTold) ?_
  intro other hMem
  rw [hDispatched.events]
  exact List.mem_cons_of_mem _ hMem

omit [LossSource γ] in
theorem timeouts_countReading
    (s : Simulation γ)
    (reply : Reply) :
    (s.countReading reply).traffic.timeouts =
      s.traffic.timeouts := by
  unfold countReading
  split <;> rfl

theorem Unfailing.reported
    {s : Simulation γ}
    (hUnfailing : s.Unfailing)
    {index : Nat}
    {node next : Node}
    {requests : List Request}
    {reply : Reply}
    (hReported :
      Reported s (s.report index) index node next requests
        reply) :
    (s.report index).Unfailing := by
  refine hUnfailing.of_set
    (losses_report s index ▸ hUnfailing.lossless) ?_
    hReported.found hReported.nodes
    hReported.reporting.txFailed_eq ?_
  · rw [hReported.traffic]
    exact timeouts_countReading s reply
  · intro event hMem
    exact hReported.events ▸ hMem

------------------------------------------------------------
-- Reliable Simulations
------------------------------------------------------------

/- Packets are for nodes in range, and nothing gets lost. -/
structure Reliable
    (setup : Setup)
    (s : Simulation γ) : Prop where
  few : setup.nodeCount.toNat ≤ 255
  sound : s.Sound
  vicinal : s.Vicinal setup
  unfailing : s.Unfailing

/-
  The next packet is transmitted once, and acknowledged.
-/
def ServesAtOnce
    (s : Simulation γ) : Prop :=
  ∀ (sender : Nat) (handover : Handover)
      (outbox : Queue Request),
    s.outbox.toList =
        .unicast sender handover :: outbox.toList →
      ∃ receiver,
        Transmits { s with outbox := outbox }
          (serve { s with outbox := outbox }
            (.unicast sender handover))
          sender handover
          [ (receiver,
              .received (addressOf sender)
                handover.packet) ]
          .acked 1 0

theorem Reliable.servesAtOnce
    {setup : Setup}
    {s : Simulation γ}
    (hReliable : s.Reliable setup) :
    s.ServesAtOnce := by
  intro sender handover outbox hOutbox
  have hMem : .unicast sender handover ∈ s.outbox.toList := by
    rw [hOutbox]
    exact List.mem_cons_self
  have hTopology :=
    hReliable.vicinal.respectsTopology hReliable.few
  rcases hTopology.requests sender handover hMem with
    ⟨receiver, -, hReach⟩
  exact
    ⟨receiver,
      transmits_acked (s := { s with outbox := outbox })
        { hReach with }
        (firstSuccess_of_lossless
          hReliable.unfailing.lossless)
        (transmissionBudget_pos _)⟩

theorem Reliable.unfailing_serve
    {setup : Setup}
    {s : Simulation γ}
    (hReliable : s.Reliable setup)
    {request : Request}
    {outbox : Queue Request}
    (hOutbox :
      s.outbox.toList = request :: outbox.toList) :
    (serve { s with outbox := outbox } request).Unfailing := by
  have hUnfailing := hReliable.unfailing
  have hLossless :
      Losses.Lossless
        (serve { s with outbox := outbox } request).losses :=
    Losses.Lossless.serve (s := { s with outbox := outbox })
      hUnfailing.lossless request
  cases request with
  | announce sender metric =>
      exact hUnfailing.aired hLossless
        (airs_broadcast { s with outbox := outbox } sender
          metric).of_outbox
  | listen listener bursts =>
      have hListener : listener < s.nodes.size := by
        apply hReliable.sound.requests (.listen listener bursts)
        rw [hOutbox]
        exact List.mem_cons_self
      exact hUnfailing.aired hLossless
        (airs_serveListen
          (s := { s with outbox := outbox }) hListener
          bursts.toNat).of_outbox
  | unicast sender handover =>
      rcases hReliable.servesAtOnce sender handover outbox
        hOutbox with ⟨receiver, hTransmits⟩
      rcases hTransmits.events with
        ⟨reported, hReported, hEvents⟩
      have hOnce : reported = 1 :=
        UInt8.toNat_inj.mp hReported
      rw [hTransmits.rest] at hLossless ⊢
      rw [List.append_assoc] at hEvents
      refine hUnfailing.of_nodes_eq hLossless rfl rfl
        hEvents ?_
      intro event hMem address outcome transmissions hSent
      rw [List.singleton_append, List.mem_cons,
        List.mem_singleton] at hMem
      rcases hMem with rfl | rfl
      · contradiction
      · rw [Event.sent.injEq] at hSent
        obtain ⟨-, rfl, rfl⟩ := hSent
        exact ⟨rfl, hOnce⟩

theorem Reliable.next
    {setup : Setup}
    {s t : Simulation γ}
    (hReliable : s.Reliable setup)
    (hNext : Next s t) :
    t.Reliable setup := by
  have hSound := hReliable.sound
  have hUnfailing := hReliable.unfailing
  refine
    { few := hReliable.few
      sound := (hNext.move hSound).sound hSound
      vicinal := hReliable.vicinal.next hSound hNext
      unfailing := ?_ }
  cases hNext with
  | tick =>
      exact hUnfailing.aired hUnfailing.lossless
        (airs_ticked s)
  | beacon index =>
      exact hUnfailing.aired
        (hUnfailing.lossless.beacon index)
        (airs_beacon s index)
  | report index =>
      rcases report_cases (hSound.ready index) with
        ⟨hSame, -⟩ |
        ⟨node, next, requests, reply, hReported⟩
      · rw [hSame]
        exact hUnfailing
      · exact hUnfailing.reported hReported
  | turn _ hTurn =>
      rcases turn_cases hSound hTurn with
        ⟨request, outbox, hOutbox, rfl⟩ |
        ⟨index, event, node, next, hDispatched⟩
      · exact hReliable.unfailing_serve hOutbox
      · exact hUnfailing.dispatched hDispatched

theorem Reliable.reaches
    {setup : Setup}
    {s t : Simulation γ}
    (hReliable : s.Reliable setup)
    (hReaches : Reaches s t) :
    t.Reliable setup := by
  induction hReaches with
  | refl => exact hReliable
  | tail _ hNext ih => exact ih.next hNext

theorem reliable_start
    {setup : Setup}
    (hCheck : setup.check = .ok ())
    {losses : γ}
    (hLossless : Losses.Lossless losses) :
    (start setup losses).Reliable setup where
  few := (bounds_of_check hCheck).2.1
  sound := sound_start setup losses
  vicinal := vicinal_start setup losses
  unfailing :=
    { lossless := by
        rw [start_frame]
        exact hLossless
      timeouts := by
        rw [traffic_start]
        rfl
      acked := by
        intro event hMem
        rw [events_start] at hMem
        contradiction
      txFailed := by
        intro index node hNode
        rw [nodes_start] at hNode
        split at hNode
        next =>
          rw [← Option.some.inj hNode]
          unfold firstNode
          split <;> rfl
        next => contradiction }

------------------------------------------------------------
-- Packets That Were Served
------------------------------------------------------------

omit [LossSource γ] in
/- The packet that the next turn delivers, and its sender. -/
def packetsOfTurn
    (s : Simulation γ) : List (Nat × Handover) :=
  match s.outbox.toList with
  | .unicast sender handover :: _ => [(sender, handover)]
  | _ => []

/- The packets of a number of turns. -/
def packetsOfTurns :
    Nat → Simulation γ → List (Nat × Handover)
  | 0, _ => []
  | turns + 1, s =>
      match s.turn? with
      | none => []
      | some next =>
          s.packetsOfTurn ++ packetsOfTurns turns next

/- The packets of a number of steps. -/
def packetsOfSteps :
    Nat → Simulation γ → List (Nat × Handover)
  | 0, _ => []
  | steps + 1, s =>
      packetsOfTurns turnsPerStep s.begun ++
        packetsOfSteps steps s.step

/-
  The packets of a number of steps and of a number of turns
  of the step after them, in the order they were served.
-/
def packetsServed
    (steps turns : Nat)
    (s : Simulation γ) : List (Nat × Handover) :=
  packetsOfSteps steps s ++
    packetsOfTurns turns (run steps s).begun

/- Only a turn that serves a packet transmits, and once. -/
theorem Reliable.transmissions_turn
    {setup : Setup}
    {s t : Simulation γ}
    (hReliable : s.Reliable setup)
    (hTurn : s.turn? = some t) :
    t.traffic.transmissions =
      s.traffic.transmissions + s.packetsOfTurn.length := by
  unfold packetsOfTurn
  rcases turn_cases hReliable.sound hTurn with
    ⟨request, outbox, hOutbox, rfl⟩ |
    ⟨index, event, node, next, hDispatched⟩
  · rw [hOutbox]
    cases request with
    | announce sender metric => rfl
    | listen listener bursts => rfl
    | unicast sender handover =>
        rcases hReliable.servesAtOnce sender handover outbox
          hOutbox with ⟨receiver, hTransmits⟩
        rw [hTransmits.rest]
        rfl
  · rw [hDispatched.outbox, hDispatched.traffic]
    rfl

theorem Reliable.transmissions_turns
    {setup : Setup}
    {s : Simulation γ}
    (hReliable : s.Reliable setup)
    (turns : Nat) :
    (s.pump turns).traffic.transmissions =
      s.traffic.transmissions +
        (packetsOfTurns turns s).length := by
  induction turns generalizing s with
  | zero => rfl
  | succ turns ih =>
      unfold pump packetsOfTurns
      cases hTurn : s.turn? with
      | none => rfl
      | some next =>
          simp only
          rw [ih (hReliable.next (.turn s next hTurn)),
            hReliable.transmissions_turn hTurn,
            List.length_append, Nat.add_assoc]

/- Beacons and readings are no transmissions of packets. -/
theorem transmissions_begun
    (s : Simulation γ) :
    s.begun.traffic.transmissions =
      s.traffic.transmissions := by
  have hBeacon :
      ∀ (s : Simulation γ) (index : Nat),
        (s.beacon index).traffic.transmissions =
          s.traffic.transmissions := by
    intro s index
    unfold beacon
    cases s.announced? index <;> rfl
  have hReport :
      ∀ (s : Simulation γ) (index : Nat),
        (s.report index).traffic.transmissions =
          s.traffic.transmissions := by
    intro s index
    unfold report
    split
    · rfl
    · split
      · rfl
      · simp only
        unfold countReading
        split <;> rw [perform_frame]
  let count (s : Simulation γ) := s.traffic.transmissions
  have hBeacons :
      s.ticked.beaconsSent.traffic.transmissions =
        s.traffic.transmissions := by
    unfold beaconsSent
    split
    · exact foldl_preserves count hBeacon _ s.ticked
    · rfl
  rw [← hBeacons]
  unfold begun readingsSent
  split
  · exact foldl_preserves count hReport _ _
  · rfl

theorem Reliable.transmissions_steps
    {setup : Setup}
    {s : Simulation γ}
    (hReliable : s.Reliable setup)
    (steps : Nat) :
    (run steps s).traffic.transmissions =
      s.traffic.transmissions +
        (packetsOfSteps steps s).length := by
  induction steps generalizing s with
  | zero => rfl
  | succ steps ih =>
      have hBegun := hReliable.reaches (reaches_begun s)
      have hTurns := hBegun.transmissions_turns turnsPerStep
      rw [transmissions_begun] at hTurns
      rw [run, ih (hReliable.reaches (reaches_step s)),
        step_eq_pump, hTurns, packetsOfSteps,
        List.length_append, Nat.add_assoc]
      rfl

theorem Reliable.transmissions_eq
    {setup : Setup}
    {s : Simulation γ}
    (hReliable : s.Reliable setup)
    (steps turns : Nat) :
    ((run steps s).begun.pump turns).traffic.transmissions =
      s.traffic.transmissions +
        (packetsServed steps turns s).length := by
  have hBegun :=
    hReliable.reaches
      ((reaches_run steps s).trans
        (reaches_begun (run steps s)))
  rw [hBegun.transmissions_turns, transmissions_begun,
    hReliable.transmissions_steps, packetsServed,
    List.length_append, Nat.add_assoc]

end Failures

/-
  Whatever gets lost, nodes know of nodes in range only, and
  send to them only.  When nothing gets lost, every packet
  is acknowledged at its first transmission.
-/
theorem packets_stay_in_range
    {setup : Setup}
    {s : Simulation SeededLosses}
    (hNew : new? setup = .ok s) :
    (∀ (δ : Type) [LossSource δ] (losses : δ)
        (t : Simulation δ),
      Reaches (start setup losses) t →
        t.RespectsTopology) ∧
      ((setup.linkLoss == 0.0) = true →
        (∀ t, Reaches s t →
            t.Unfailing ∧ t.ServesAtOnce) ∧
          ∀ steps turns,
            ((run steps s).begun.pump
                turns).traffic.transmissions =
              (packetsServed steps turns s).length) := by
  obtain ⟨hCheck, rfl⟩ := new?_eq_ok_iff.mp hNew
  have hFew := (bounds_of_check hCheck).2.1
  constructor
  · intro δ _ losses t hReaches
    exact (vicinal_of_reaches hReaches).respectsTopology hFew
  · intro hZero
    have hReliable :=
      reliable_start hCheck
        (Losses.lossless_ofSeed hZero setup.seed)
    constructor
    · intro t hReaches
      have hHeld := hReliable.reaches hReaches
      exact ⟨hHeld.unfailing, hHeld.servesAtOnce⟩
    · intro steps turns
      rw [hReliable.transmissions_eq, traffic_start]
      exact Nat.zero_add _

/- Two readings of three nodes make three hops in a step. -/
theorem packets_stay_in_range_of_three :
    let setup : Setup :=
      { Setup.standard with
        nodeCount := 3
        linkLoss := 0.0
        beaconInterval := 1
        messageInterval := 1 }
    ∃ s, new? setup = .ok s ∧
      (setup.linkLoss == 0.0) = true ∧
      (run 2 s).RespectsTopology ∧
      ((run 2 s).Unfailing ∧ (run 2 s).ServesAtOnce) ∧
      ((run 2 s).begun.pump 0).traffic.transmissions = 3 := by
  intro setup
  let s :=
    start setup
      (SeededLosses.ofSeed setup.linkLoss setup.seed)
  have hNew : new? setup = .ok s :=
    new?_eq_ok_iff.mpr
      ⟨check_eq_ok_of_isOk (by decide +kernel), rfl⟩
  have hZero : (setup.linkLoss == 0.0) = true := by
    decide +kernel
  have hServed : (packetsServed 2 0 s).length = 3 := by
    decide +kernel
  rcases packets_stay_in_range hNew with ⟨hRange, hAcked⟩
  rcases hAcked hZero with ⟨hFirst, hCount⟩
  exact
    ⟨s, hNew, hZero,
      hRange _ _ (run 2 s) (reaches_run 2 s),
      hFirst (run 2 s) (reaches_run 2 s),
      (hCount 2 0).trans hServed⟩

end Simulation

end CollectionTree
