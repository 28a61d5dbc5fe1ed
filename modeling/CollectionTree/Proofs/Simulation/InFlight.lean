import CollectionTree.Proofs.Simulation.Accounts
import CollectionTree.Proofs.Simulation.Clock

/-
  A connection, its transport and the radio agree on whether
  a packet of the node is on its way.

  Key definitions include:
    * `Simulation.unicastsFrom`
    * `Simulation.conclusionsFor`
    * `Simulation.FlightsAgree`
    * `Simulation.InFlightAgreement`

  Key theorems include:
    * `Simulation.Move.flightsAgree`
    * `Simulation.allIdle_run`
    * `Simulation.messagesSent_run`
    * `Simulation.in_flight_agreement`

  A packet on its way is in one of two places: its request
  waits to be served, or its outcome waits to be told to the
  node.  Since nothing else waits for the node then, the
  flag is cleared when it should be and not before.
-/

namespace CollectionTree

------------------------------------------------------------
-- No Refusals
------------------------------------------------------------

namespace Node

/- What an operation at a node comes to. -/
def outcomeOf
    (node : Node)
    (operation : Operation) : Outcome :=
  node.connection.perform (node.answer operation) operation

/- Bringing the metric up to date is no transmission. -/
theorem not_refused_thenUpdate
    (d : Connection)
    (handover : Handover) :
    .refuse handover ∉ (d.thenUpdate []).effects := by
  intro hMem
  unfold Connection.thenUpdate at hMem
  rcases Connection.updateMetric_cases d with
    ⟨-, hEq⟩ | ⟨-, -, hEq⟩
  · rw [hEq] at hMem
    contradiction
  · rw [hEq] at hMem
    simp only [List.nil_append, List.mem_singleton] at hMem
    contradiction

/- The transport refuses no packet that a node passes on. -/
theorem Ready.not_refused_handle
    {index : Nat}
    {node : Node}
    (hReady : node.Ready index)
    (event : Event)
    (handover : Handover) :
    .refuse handover ∉
      ((Simulation.prepare node event).outcomeOf
        (.handle event)).effects := by
  have hOpen := hReady.isOpen
  cases event with
  | received sender packet =>
      have hReception := hReady.reception sender packet
      intro hMem
      change .refuse handover ∈
        (node.connection.receive node.sendAnswer sender
          packet).effects at hMem
      generalize
        node.connection.receive node.sendAnswer sender
          packet = outcome at hReception hMem
      cases hReception with
      | refused _ _ _ _ _ _ _ _ failure hAnswer =>
          contradiction
      | delivered =>
          rw [Connection.deliver, List.mem_singleton] at hMem
          contradiction
      | relayed =>
          rw [List.mem_singleton] at hMem
          contradiction
      | _ => contradiction
  | sent receiver outcome transmissions =>
      change .refuse handover ∉
        (node.connection.concludeTransmission receiver
          outcome transmissions).effects
      rw [Connection.concludeTransmission_eq hOpen]
      exact not_refused_thenUpdate _ handover
  | announced sender metric =>
      change .refuse handover ∉
        (node.connection.hear sender metric).effects
      by_cases hOwn : sender = node.connection.address
      · unfold Connection.hear
        rw [if_pos (Or.inr hOwn)]
        exact List.not_mem_nil
      · rw [Connection.hear_eq hOpen hOwn]
        exact not_refused_thenUpdate _ handover
  | elapsed time =>
      change .refuse handover ∉
        (node.connection.tick time).effects
      rw [Connection.tick_eq hOpen hReady.coherent]
      exact not_refused_thenUpdate _ handover

/-
  The transport refuses no packet that a node originates
  while nothing is on its way.
-/
theorem Ready.not_refused_send
    {index : Nat}
    {node : Node}
    (hReady : node.Ready index)
    (hIdle : node.connection.forwarding = false)
    (payload : List UInt8)
    (maxRexmit : UInt8)
    (handover : Handover) :
    .refuse handover ∉
      (node.outcomeOf (.send payload maxRexmit)).effects := by
  have hSending :=
    Connection.sending hReady.isOpen node.sendAnswer payload
      maxRexmit
  intro hMem
  change .refuse handover ∈
    (node.connection.send node.sendAnswer payload
      maxRexmit).effects at hMem
  generalize
    node.connection.send node.sendAnswer payload maxRexmit =
      outcome at hSending hMem
  cases hSending with
  | refused _ n hBest failure hAnswer =>
      rw [hReady.sendAnswer hIdle] at hAnswer
      contradiction
  | delivered =>
      rw [Connection.deliver, List.mem_singleton] at hMem
      contradiction
  | dropped =>
      rw [List.mem_singleton] at hMem
      contradiction
  | handedOver =>
      rw [List.mem_singleton] at hMem
      contradiction

end Node

namespace Simulation

variable {γ : Type}

------------------------------------------------------------
-- Packets of One Node
------------------------------------------------------------

/- Whether a request is to deliver a packet of a node. -/
def isUnicastFrom
    (index : Nat)
    (request : Request) : Bool :=
  request.isUnicast && request.node == index

/- Whether an event tells a node how a transmission ended. -/
def isConclusionFor
    (index : Nat)
    (event : Nat × Event) : Bool :=
  event.2.isConclusion && event.1 == index

/- How many packets of a node wait to be transmitted. -/
def unicastsFrom
    (s : Simulation γ)
    (index : Nat) : Nat :=
  s.outbox.toList.countP (isUnicastFrom index)

/- How many outcomes wait to be told to a node. -/
def conclusionsFor
    (s : Simulation γ)
    (index : Nat) : Nat :=
  s.events.toList.countP (isConclusionFor index)

/-
  A packet that is on its way, as a node sees it, waits in
  one place, and others do not wait.
-/
def FlightsAgree
    (s : Simulation γ) : Prop :=
  ∀ (index : Nat) (node : Node),
    s.nodes[index]? = some node →
      s.unicastsFrom index + s.conclusionsFor index =
        node.flying

theorem flying_le_one
    (node : Node) :
    node.flying ≤ 1 :=
  Bool.toNat_le _

/- What a node asks for is asked for by no other node. -/
theorem countP_isUnicastFrom
    {requests : List Request}
    {index : Nat}
    (hOwn : ∀ request ∈ requests, request.node = index)
    (other : Nat) :
    requests.countP (isUnicastFrom other) =
      if index = other then
        requests.countP Request.isUnicast
      else
        0 := by
  by_cases hSame : index = other
  · rw [if_pos hSame]
    apply List.countP_congr
    intro request hMem
    simp [isUnicastFrom, hOwn request hMem, hSame]
  · rw [if_neg hSame, List.countP_eq_zero]
    intro request hMem
    simp [isUnicastFrom, hOwn request hMem, hSame]

theorem Airs.conclusionsFor_eq
    {s t : Simulation γ}
    (hAirs : Airs s t)
    (index : Nat) :
    t.conclusionsFor index = s.conclusionsFor index := by
  obtain ⟨more, hEvents, hMore⟩ := hAirs.events
  have hNone : more.countP (isConclusionFor index) = 0 := by
    rw [List.countP_eq_zero]
    intro event hMem
    have hRouting := (hMore event hMem).2
    simp [isConclusionFor,
      Event.not_isConclusion_of_isRouting hRouting]
  unfold conclusionsFor
  rw [hEvents, List.countP_append, hNone, Nat.add_zero]

/- A packet that was transmitted becomes an outcome. -/
theorem flights_of_transmitted
    {s t : Simulation γ}
    {sender : Nat}
    {handover : Handover}
    (arrivals : List (Nat × Event))
    {outcome : TxOutcome}
    {transmissions : UInt8}
    (hOutbox :
      s.outbox.toList =
        .unicast sender handover :: t.outbox.toList)
    (hEvents :
      t.events.toList =
        s.events.toList ++
          (arrivals ++
            [ (sender,
                .sent handover.nextHop outcome
                  transmissions) ]))
    (hArrivals :
      ∀ event ∈ arrivals, event.2.isConclusion = false)
    (index : Nat) :
    t.unicastsFrom index + t.conclusionsFor index =
      s.unicastsFrom index + s.conclusionsFor index := by
  have hNone : arrivals.countP (isConclusionFor index) = 0 := by
    rw [List.countP_eq_zero]
    intro event hMem
    simp [isConclusionFor, hArrivals event hMem]
  have hUnicasts :
      s.unicastsFrom index =
        t.unicastsFrom index +
          if sender = index then 1 else 0 := by
    unfold unicastsFrom
    rw [hOutbox, List.countP_cons]
    simp [isUnicastFrom, Request.isUnicast, Request.node]
  have hConclusions :
      t.conclusionsFor index =
        s.conclusionsFor index +
          if sender = index then 1 else 0 := by
    unfold conclusionsFor
    rw [hEvents, List.countP_append, List.countP_append,
      hNone, List.countP_singleton]
    simp [isConclusionFor, Event.isConclusion]
  omega

/-
  An outcome that is told to a node clears the flag that was
  set for it, and a packet that is handed over sets it.
-/
theorem FlightsAgree.of_dispatched
    {s t : Simulation γ}
    (hAgree : s.FlightsAgree)
    {own : Nat}
    {event : Event}
    {node next : Node}
    (hDispatched : Dispatched s t own event node next) :
    t.FlightsAgree := by
  intro index changed hChanged
  have hNode := hDispatched.found
  have hHandling := hDispatched.handling
  have hRequests :
      t.unicastsFrom index =
        if own = index then
          t.outbox.toList.countP Request.isUnicast
        else
          0 :=
    countP_isUnicastFrom
      (fun request hMem => hHandling.node_of_mem hMem)
      index
  have hNone : s.unicastsFrom index = 0 := by
    unfold unicastsFrom
    rw [hDispatched.outbox]
    rfl
  have hConclusions :
      s.conclusionsFor index =
        t.conclusionsFor index +
          if own = index then
            event.isConclusion.toNat
          else
            0 := by
    unfold conclusionsFor
    rw [hDispatched.events, List.countP_cons]
    cases hConclusion : event.isConclusion <;>
      simp [isConclusionFor, hConclusion]
  rcases node_cases hDispatched.nodes hChanged with
    ⟨rfl, rfl⟩ | ⟨hOther, hOld⟩
  · have hBefore := hAgree index node hNode
    have hAfter := hHandling.counts.flying
    have hOne := flying_le_one node
    simp only [if_true] at hRequests hConclusions
    cases hConclusion : event.isConclusion with
    | true =>
        simp only [hConclusion, if_true,
          Bool.toNat_true] at hConclusions hAfter
        omega
    | false =>
        simp only [hConclusion, Bool.false_eq_true,
          if_false, Bool.toNat_false]
          at hConclusions hAfter
        omega
  · rw [if_neg (Ne.symm hOther)] at hRequests hConclusions
    have hBefore := hAgree index changed hOld
    omega

theorem FlightsAgree.of_reported
    {s t : Simulation γ}
    (hAgree : s.FlightsAgree)
    {own : Nat}
    {node next : Node}
    {requests : List Request}
    {reply : Reply}
    (hReported :
      Reported s t own node next requests reply) :
    t.FlightsAgree := by
  intro index changed hChanged
  have hRequests :
      t.unicastsFrom index =
        s.unicastsFrom index +
          if own = index then
            requests.countP Request.isUnicast
          else
            0 := by
    unfold unicastsFrom
    rw [hReported.outbox, List.countP_append,
      countP_isUnicastFrom (fun request hMem =>
        hReported.reporting.node_of_mem hMem)]
  have hConclusions :
      t.conclusionsFor index = s.conclusionsFor index := by
    unfold conclusionsFor
    rw [hReported.events]
  rcases node_cases hReported.nodes hChanged with
    ⟨rfl, rfl⟩ | ⟨hOther, hOld⟩
  · have hBefore := hAgree index node hReported.found
    have hAfter :=
      (hReported.reporting.counts hReported.idle).flying
    rw [if_pos rfl] at hRequests
    omega
  · rw [if_neg (Ne.symm hOther)] at hRequests
    have hBefore := hAgree index changed hOld
    omega

theorem Move.flightsAgree
    {s t : Simulation γ}
    (hMove : Move s t)
    (hAgree : s.FlightsAgree) :
    t.FlightsAgree := by
  cases hMove with
  | aired hAirs hOutbox =>
      intro index changed hChanged
      rw [hAirs.nodes] at hChanged
      rw [hAirs.conclusionsFor_eq, unicastsFrom, hOutbox]
      exact hAgree index changed hChanged
  | served request hRouting hOutbox hAirs =>
      intro index changed hChanged
      rw [hAirs.nodes] at hChanged
      have hBefore := hAgree index changed hChanged
      unfold unicastsFrom at hBefore
      rw [hOutbox, List.countP_cons_of_neg
        (by simp [isUnicastFrom, hRouting])] at hBefore
      rw [hAirs.conclusionsFor_eq]
      exact hBefore
  | delivered sender handover receiver transmissions hOutbox
      _ hEvents _ hNodes =>
      intro index changed hChanged
      rw [hNodes] at hChanged
      rw [flights_of_transmitted
        [ (receiver,
            .received (addressOf sender) handover.packet) ]
        hOutbox hEvents (by simp [Event.isConclusion])]
      exact hAgree index changed hChanged
  | lost sender handover transmissions hOutbox hEvents _
      hNodes =>
      intro index changed hChanged
      rw [hNodes] at hChanged
      rw [flights_of_transmitted [] hOutbox hEvents
        (by simp)]
      exact hAgree index changed hChanged
  | handled index event node next hDispatched =>
      exact hAgree.of_dispatched hDispatched
  | reported index node next requests reply hReported =>
      exact hAgree.of_reported hReported

theorem flightsAgree_of_reaches
    [LossSource γ]
    {setup : Setup}
    {losses : γ}
    {s : Simulation γ}
    (hReaches : Reaches (start setup losses) s) :
    s.FlightsAgree := by
  have hStart : (start setup losses).FlightsAgree := by
    intro index node hNode
    have hUnicasts :
        (start setup losses).unicastsFrom index = 0 := by
      unfold unicastsFrom
      rw [outbox_start, List.countP_eq_zero]
      intro request hMem
      simp [isUnicastFrom, (mem_firstRequests hMem).2]
    have hConclusions :
        (start setup losses).conclusionsFor index = 0 := by
      unfold conclusionsFor
      rw [events_start]
      rfl
    rw [nodes_start] at hNode
    split at hNode
    · rw [← Option.some.inj hNode, hUnicasts, hConclusions]
      exact (counts_firstNode setup index).2.2.2.2.2.symm
    · contradiction
  exact
    (hReaches.invariant
      (fun _ _ _ hAgree hMove => hMove.flightsAgree hAgree)
      (sound_start setup losses) hStart).2

------------------------------------------------------------
-- Idle Nodes
------------------------------------------------------------

/- No node has a packet on its way. -/
def AllIdle
    (s : Simulation γ) : Prop :=
  ∀ (index : Nat) (node : Node),
    s.nodes[index]? = some node →
      node.connection.forwarding = false

/- A node is free again when nothing waits to be done. -/
theorem FlightsAgree.allIdle
    {s : Simulation γ}
    (hAgree : s.FlightsAgree)
    (hOutbox : s.outbox.toList = [])
    (hEvents : s.events.toList = []) :
    s.AllIdle := by
  intro index node hNode
  have hFlying := hAgree index node hNode
  unfold unicastsFrom conclusionsFor at hFlying
  rw [hOutbox, hEvents] at hFlying
  exact Bool.toNat_eq_zero.mp hFlying.symm

section Turns

variable [LossSource γ]

------------------------------------------------------------
-- Readings of a Step
------------------------------------------------------------

/- All nodes but the sink send a reading if they are idle. -/
theorem messagesSent_reports
    {s : Simulation γ}
    (hSound : s.Sound)
    (hIdle : s.AllIdle)
    {count : Nat}
    (hCount : count ≤ s.nodes.size) :
    ((List.range count).foldl report
        s).traffic.messagesSent =
        s.traffic.messagesSent + (count - 1) ∧
      ∀ index, count ≤ index →
        ((List.range count).foldl report s).nodes[index]? =
          s.nodes[index]? := by
  induction count with
  | zero =>
      constructor
      · rfl
      · intro index _
        rfl
  | succ count ih =>
      obtain ⟨hSent, hRest⟩ := ih (Nat.le_of_succ_le hCount)
      have hReaches :
          Reaches s ((List.range count).foldl report s) :=
        reaches_foldl .report _ s
      have hSoundNow := hReaches.sound hSound
      have hNode := Array.getElem?_eq_getElem hCount
      have hNow := (hRest count (Nat.le_refl count)).trans hNode
      have hReady := hSound.ready count _ hNode
      rw [List.range_succ, List.foldl_append,
        List.foldl_cons, List.foldl_nil]
      generalize (List.range count).foldl report s = t
        at hSent hRest hReaches hSoundNow hNow
      rcases report_cases (hSoundNow.ready count) with
        ⟨hSame, hSilent⟩ |
        ⟨node, next, requests, reply, hReported⟩
      · have hSink : s.nodes[count].connection.role = .sink := by
          rcases hSilent _ hNow with hSink | hBusy
          · exact hSink
          · rw [hIdle count _ hNode] at hBusy
            contradiction
        have hZero := hReady.role_iff.mp hSink
        rw [hSame]
        constructor
        · omega
        · intro index hIndex
          exact hRest index (by omega)
      · have hSame : node = s.nodes[count] :=
          Option.some.inj (hReported.found.symm.trans hNow)
        have hOther : count ≠ 0 := by
          intro hZero
          have hSink := hReady.role_iff.mpr hZero
          exact hReported.role (hSame ▸ hSink)
        obtain ⟨⟨status, hReply⟩, -⟩ :=
          hReported.reporting.counts hReported.idle
        have hOne :
            (t.report count).traffic.messagesSent =
              t.traffic.messagesSent + 1 := by
          rw [hReported.traffic, hReply]
          exact (traffic_countReading t status).1
        constructor
        · omega
        · intro index hIndex
          rw [hReported.nodes,
            Array.getElem?_setIfInBounds_ne (by omega)]
          exact hRest index (by omega)

------------------------------------------------------------
-- Readings of a Run
------------------------------------------------------------

/- A step sends readings when they are due. -/
theorem messagesSent_step
    {s : Simulation γ}
    (hSound : s.Sound)
    (hIdle : s.AllIdle) :
    s.step.traffic.messagesSent =
      s.traffic.messagesSent +
        if s.setup.messageInterval ≠ 0 ∧
            (s.steps + 1) % s.setup.messageInterval.toNat =
              0 then
          s.nodes.size - 1
        else
          0 := by
  have hPump := clock_pump turnsPerStep s.begun
  have hBeacons := beaconsSent_frame s.ticked
  have hNodes : s.ticked.beaconsSent.nodes = s.nodes :=
    (Prod.mk.inj hBeacons).2
  have hClock := (Prod.mk.inj hBeacons).1
  have hSetup :
      s.ticked.beaconsSent.setup = s.setup :=
    (Prod.mk.inj hClock).1
  have hSteps : s.ticked.beaconsSent.steps = s.steps + 1 :=
    (Prod.mk.inj (Prod.mk.inj hClock).2).1
  have hSent :
      s.ticked.beaconsSent.traffic.messagesSent =
        s.traffic.messagesSent :=
    (Prod.mk.inj (Prod.mk.inj hClock).2).2
  have hReaches : Reaches s s.ticked.beaconsSent :=
    .head (.tick s) (reaches_beaconsSent s.ticked)
  have hSoundNow := hReaches.sound hSound
  have hIdleNow : s.ticked.beaconsSent.AllIdle := by
    unfold AllIdle
    rw [hNodes]
    exact hIdle
  rw [step_eq_pump,
    (Prod.mk.inj (Prod.mk.inj hPump).2).2]
  unfold begun readingsSent isDue
  rw [hSetup, hSteps]
  split
  next hDue =>
    rw [decide_eq_true_eq] at hDue
    rw [if_pos hDue, atEachNode, hNodes,
      (messagesSent_reports hSoundNow hIdleNow
        (Nat.le_of_eq (congrArg _ hNodes.symm))).1, hSent]
  next hNotDue =>
    rw [decide_eq_true_eq] at hNotDue
    rw [if_neg hNotDue, hSent, Nat.add_zero]

/- Nodes are idle between steps that do not run out. -/
theorem allIdle_run
    (setup : Setup)
    (losses : γ)
    {steps : Nat}
    (hTurns :
      ∀ m, m < steps →
        ¬ (run m (start setup losses)).RunsOut) :
    (run steps (start setup losses)).AllIdle := by
  have hAgree :=
    flightsAgree_of_reaches
      (reaches_run steps (start setup losses))
  cases steps with
  | zero =>
      intro index node hNode
      rw [run, nodes_start] at hNode
      split at hNode
      · rw [← Option.some.inj hNode]
        exact Bool.toNat_eq_zero.mp
          (counts_firstNode setup index).2.2.2.2.2
      · contradiction
  | succ steps =>
      have hEnded := hTurns steps (Nat.lt_succ_self steps)
      rw [RunsOut, Decidable.not_not, turn?_eq_none_iff,
        ← run_succ] at hEnded
      exact hAgree.allIdle hEnded.1 hEnded.2

/-
  As long as no step runs out of turns, every node but the
  sink sends each of its readings.
-/
theorem messagesSent_run
    (setup : Setup)
    (losses : γ)
    {steps : Nat}
    (hTurns :
      ∀ m, m < steps →
        ¬ (run m (start setup losses)).RunsOut)
    (hInterval : setup.messageInterval ≠ 0) :
    (run steps (start setup losses)).traffic.messagesSent =
      (setup.nodeCount.toNat - 1) *
        (steps / setup.messageInterval.toNat) := by
  induction steps with
  | zero =>
      rw [Nat.zero_div, Nat.mul_zero, run, traffic_start]
      rfl
  | succ steps ih =>
      have hBefore := ih (fun m hLess =>
        hTurns m (Nat.lt_succ_of_lt hLess))
      have hReaches := reaches_run steps (start setup losses)
      have hSound :=
        hReaches.sound (sound_start setup losses)
      have hSize :=
        hReaches.size_nodes (sound_start setup losses)
      rw [size_nodes_start] at hSize
      obtain ⟨hSetup, hSteps⟩ :=
        clock_run steps (start setup losses)
      have hIdle :=
        allIdle_run setup losses (fun m hLess =>
          hTurns m (Nat.lt_succ_of_lt hLess))
      have hFirst :
          (start setup losses).setup = setup ∧
            (start setup losses).steps = 0 := by
        rw [start_frame]
        exact ⟨rfl, rfl⟩
      rw [run_succ, messagesSent_step hSound hIdle, hBefore,
        hSetup, hSteps, hSize, hFirst.1, hFirst.2,
        Nat.zero_add, Nat.succ_div, Nat.mul_add]
      by_cases hDue :
        (steps + 1) % setup.messageInterval.toNat = 0
      · rw [if_pos ⟨hInterval, hDue⟩,
          if_pos (Nat.dvd_of_mod_eq_zero hDue), Nat.mul_one]
      · rw [if_neg (fun hBoth => hDue hBoth.2),
          if_neg (fun hDivides =>
            hDue (Nat.mod_eq_zero_of_dvd hDivides)),
          Nat.mul_zero]

end Turns

------------------------------------------------------------
-- Agreement
------------------------------------------------------------

/-
  All accounts of packets on their way agree, and so the
  transport refuses nothing and tells every outcome.
-/
structure InFlightAgreement
    (s : Simulation γ) : Prop where
  flags :
    ∀ (index : Nat) (node : Node),
      s.nodes[index]? = some node →
        node.connection.forwarding = node.inFlight
  places :
    ∀ (index : Nat) (node : Node),
      s.nodes[index]? = some node →
        s.unicastsFrom index + s.conclusionsFor index =
          if node.inFlight then 1 else 0
  passed_on :
    ∀ (index : Nat) (node : Node),
      s.nodes[index]? = some node →
        ∀ (event : Event) (handover : Handover),
          .refuse handover ∉
            ((prepare node event).outcomeOf
              (.handle event)).effects
  originated :
    ∀ (index : Nat) (node : Node),
      s.nodes[index]? = some node →
        node.connection.forwarding = false →
        ∀ (payload : List UInt8) (maxRexmit : UInt8)
          (handover : Handover),
          .refuse handover ∉
            (node.outcomeOf
              (.send payload maxRexmit)).effects
  readings :
    s.traffic.messagesSent = s.total Node.originated
  outcomes :
    s.total Node.outcomes + (s.unicasts + s.conclusions) +
        s.traffic.messagesNoRoute =
      s.total Node.forwarded + s.traffic.messagesSent

/-
  At every point of a run, the flags of each node and what
  waits for it in the queues agree.  When no step runs out
  of turns, every node but the sink has sent a reading each
  time that one was due.
-/
theorem in_flight_agreement
    [LossSource γ]
    (setup : Setup)
    (losses : γ) :
    (∀ s, Reaches (start setup losses) s →
        s.InFlightAgreement) ∧
      ∀ steps,
        (∀ m, m < steps →
          ¬ (run m (start setup losses)).RunsOut) →
        setup.messageInterval ≠ 0 →
          (run steps
              (start setup losses)).traffic.messagesSent =
            (setup.nodeCount.toNat - 1) *
              (steps / setup.messageInterval.toNat) := by
  constructor
  · intro s hReaches
    have hSound :=
      hReaches.sound (sound_start setup losses)
    have hBalanced := balanced_of_reaches hReaches
    have hAgree := flightsAgree_of_reaches hReaches
    refine
      { flags := ?_
        places := ?_
        passed_on := ?_
        originated := ?_
        readings := hBalanced.readings
        outcomes := ?_ }
    · intro index node hNode
      exact (hSound.ready index node hNode).agree
    · intro index node hNode
      rw [hAgree index node hNode, Node.flying,
        (hSound.ready index node hNode).agree]
      cases node.inFlight <;> rfl
    · intro index node hNode event handover
      exact
        (hSound.ready index node hNode).not_refused_handle
          event handover
    · intro index node hNode hIdle payload maxRexmit
      exact
        (hSound.ready index node hNode).not_refused_send
          hIdle payload maxRexmit
    · rw [← Nat.add_assoc]
      exact hBalanced.transmissions
  · intro steps hTurns hInterval
    exact messagesSent_run setup losses hTurns hInterval

/- One of two nodes has a reading on its way to the other. -/
theorem in_flight_agreement_of_two :
    let setup : Setup :=
      { Setup.standard with
        nodeCount := 2
        beaconInterval := 1
        messageInterval := 1 }
    let losses := SeededLosses.ofSeed setup.linkLoss 42
    let s := (run 1 (start setup losses)).begun.pump 1
    s.unicastsFrom 1 = 0 ∧
      s.conclusionsFor 1 = 1 ∧
      s.InFlightAgreement ∧
      (run 2 (start setup losses)).traffic.messagesSent =
        (setup.nodeCount.toNat - 1) *
          (2 / setup.messageInterval.toNat) := by
  intro setup losses s
  have hCounts :
      s.unicastsFrom 1 = 0 ∧ s.conclusionsFor 1 = 1 := by
    decide +kernel
  have hTurns :
      ∀ m, m < 2 → ¬ (run m (start setup losses)).RunsOut := by
    have hQuiet :
        ∀ m, m < 2 →
          (run m (start setup losses)).step.turn?.isNone =
            true := by
      decide +kernel
    intro m hLess
    rw [RunsOut, Decidable.not_not]
    exact Option.isNone_iff_eq_none.mp (hQuiet m hLess)
  have hInterval : setup.messageInterval ≠ 0 := by
    decide
  rcases in_flight_agreement setup losses with
    ⟨hAlways, hReadings⟩
  have hReaches : Reaches (start setup losses) s :=
    reaches_turns 1 1 _
  exact
    ⟨hCounts.1, hCounts.2, hAlways s hReaches,
      hReadings 2 hTurns hInterval⟩

end Simulation

end CollectionTree
