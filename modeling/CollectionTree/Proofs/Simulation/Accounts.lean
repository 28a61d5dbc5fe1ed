import CollectionTree.Proofs.Simulation.Start
import Mathlib.Algebra.Ring.Nat

/-
  What is counted at the nodes of a simulation, and what
  waits in its queues.

  Key definitions include:
    * `Node.drops`
    * `Node.outcomes`
    * `Node.EventCounts`
    * `Node.ReadingCounts`
    * `Simulation.total`
    * `Simulation.unicasts`
    * `Simulation.arrivals`
    * `Simulation.conclusions`
    * `Simulation.Balanced`

  Key theorems include:
    * `Node.Handling.counts`
    * `Node.Reporting.counts`
    * `Simulation.total_of_set`
    * `Simulation.Move.balanced`
    * `Simulation.balanced_of_reaches`

  Every way through an event or a reading shows in the
  counts of its node: a packet that comes in is received,
  dropped or handed over, and only once.
-/

namespace CollectionTree

------------------------------------------------------------
-- Events
------------------------------------------------------------

/- Whether an event is the arrival of a packet. -/
def Event.isArrival : Event → Bool
  | .received _ _ => true
  | _ => false

/- Whether an event tells how a transmission ended. -/
def Event.isConclusion : Event → Bool
  | .sent _ _ _ => true
  | _ => false

theorem Event.not_isArrival_of_isRouting
    {event : Event}
    (hRouting : event.isRouting = true) :
    event.isArrival = false := by
  cases event <;> first | rfl | contradiction

theorem Event.not_isConclusion_of_isRouting
    {event : Event}
    (hRouting : event.isRouting = true) :
    event.isConclusion = false := by
  cases event <;> first | rfl | contradiction

theorem Event.not_isConclusion_of_isArrival
    {event : Event}
    (hArrival : event.isArrival = true) :
    event.isConclusion = false := by
  cases event with
  | received _ _ => rfl
  | _ => contradiction

namespace Node

------------------------------------------------------------
-- Counts of a Node
------------------------------------------------------------

/- How many packets the node originated. -/
def originated
    (node : Node) : Nat :=
  node.connection.stats.originated

/- How many packets the node passed on. -/
def forwarded
    (node : Node) : Nat :=
  node.connection.stats.forwarded

/- How many packets found no next hop at the node. -/
def noRouteDrops
    (node : Node) : Nat :=
  node.connection.stats.noRouteDrops

/- How many packets the node dropped, for any reason. -/
def drops
    (node : Node) : Nat :=
  node.connection.stats.duplicatesDropped +
    node.connection.stats.ttlDrops +
    node.connection.stats.noRouteDrops +
    node.connection.stats.busyDrops

/- How many transmissions of the node have ended. -/
def outcomes
    (node : Node) : Nat :=
  node.connection.stats.txOk +
    node.connection.stats.txFailed

/- How many packets the application received. -/
def arrived
    (node : Node) : Nat :=
  node.deliveries.length

/- How many packets are on their way, as the node sees it. -/
def flying
    (node : Node) : Nat :=
  node.connection.forwarding.toNat

------------------------------------------------------------
-- Settled Events
------------------------------------------------------------

/-
  What an event adds to the counts of its node: a packet
  that arrives is received, dropped or handed over.
-/
structure EventCounts
    (node : Node)
    (event : Event)
    (next : Node)
    (requests : List Request) : Prop where
  originated : next.originated = node.originated
  packets :
    next.arrived + next.drops +
        requests.countP Request.isUnicast =
      node.arrived + node.drops + event.isArrival.toNat
  outcomes :
    next.outcomes =
      node.outcomes + event.isConclusion.toNat
  forwarded :
    next.forwarded =
      node.forwarded + requests.countP Request.isUnicast
  noRouteDrops : node.noRouteDrops ≤ next.noRouteDrops
  flying :
    next.flying =
      (if event.isConclusion then 0 else node.flying) +
        requests.countP Request.isUnicast

/- Routes do not count. -/
theorem Rerouted.counts
    {index : Nat}
    {node next : Node}
    {d : Connection}
    {requests : List Request}
    (hRerouted : Rerouted index node d next requests)
    (time : Duration) :
    ({ node with connection := d } : Node).EventCounts
      (.elapsed time) next requests := by
  cases hRerouted with
  | kept _ =>
      exact
        { originated := rfl
          packets := rfl
          outcomes := rfl
          forwarded := rfl
          noRouteDrops := Nat.le_refl _
          flying := rfl }
  | changed _ _ =>
      exact
        { originated := rfl
          packets := rfl
          outcomes := rfl
          forwarded := rfl
          noRouteDrops := Nat.le_refl _
          flying := rfl }

/- A transmission has ended, and nothing is on its way. -/
theorem Rerouted.counts_concluded
    {index : Nat}
    {node next : Node}
    {receiver : Address}
    {outcome : TxOutcome}
    {transmissions : UInt8}
    {requests : List Request}
    (hRerouted :
      Rerouted index node.finish
        (node.connection.concluded receiver outcome
          transmissions)
        next requests) :
    node.EventCounts (.sent receiver outcome transmissions)
      next requests := by
  have hCounts := hRerouted.counts Duration.zero
  unfold Connection.concluded at hCounts
  by_cases hAcked : outcome = .acked
  · rw [if_pos hAcked] at hCounts
    refine
      { originated := hCounts.originated
        packets := hCounts.packets
        outcomes := ?_
        forwarded := hCounts.forwarded
        noRouteDrops := hCounts.noRouteDrops
        flying := hCounts.flying }
    rw [hCounts.outcomes]
    exact Nat.add_right_comm _ 1 _
  · rw [if_neg hAcked] at hCounts
    exact
      { originated := hCounts.originated
        packets := hCounts.packets
        outcomes := hCounts.outcomes
        forwarded := hCounts.forwarded
        noRouteDrops := hCounts.noRouteDrops
        flying := hCounts.flying }

/- A packet that is dropped is counted once. -/
theorem counts_dropped
    {node next : Node}
    (sender : Address)
    (packet : Packet)
    (hOriginated : next.originated = node.originated)
    (hArrived : next.arrived = node.arrived)
    (hDrops : next.drops = node.drops + 1)
    (hOutcomes : next.outcomes = node.outcomes)
    (hForwarded : next.forwarded = node.forwarded)
    (hNoRoute : node.noRouteDrops ≤ next.noRouteDrops)
    (hFlying : next.flying = node.flying) :
    node.EventCounts (.received sender packet) next [] :=
  { originated := hOriginated
    packets := by
      rw [hArrived, hDrops]
      rfl
    outcomes := hOutcomes
    forwarded := hForwarded
    noRouteDrops := hNoRoute
    flying := hFlying }

/- A packet that arrives ends up in one place. -/
theorem counts_received
    (index : Nat)
    {node : Node}
    {sender : Address}
    {packet : Packet}
    {outcome : Outcome}
    (hReception :
      node.connection.Reception (.ok ()) sender packet
        outcome) :
    node.EventCounts (.received sender packet)
      (node.carriedOut index outcome).1
      (node.carriedOut index outcome).2 := by
  have hSame : node.noRouteDrops ≤ node.noRouteDrops :=
    Nat.le_refl _
  have hMore : node.noRouteDrops ≤ node.noRouteDrops + 1 :=
    Nat.le_succ _
  cases hReception with
  | duplicate =>
      refine counts_dropped sender packet rfl rfl ?_ rfl rfl
        hSame rfl
      unfold drops
      dsimp only [carriedOut, carryOutAll]
      omega
  | expired =>
      refine counts_dropped sender packet rfl rfl ?_ rfl rfl
        hSame rfl
      unfold drops
      dsimp only [carriedOut, carryOutAll, Connection.remember]
      omega
  | busy =>
      exact counts_dropped sender packet rfl rfl rfl rfl rfl
        hSame rfl
  | disconnected =>
      exact counts_dropped sender packet rfl rfl
        (Nat.add_right_comm _ 1 _) rfl rfl hMore rfl
  | unrouted =>
      exact counts_dropped sender packet rfl rfl
        (Nat.add_right_comm _ 1 _) rfl rfl hMore rfl
  | refused _ _ _ _ _ _ _ _ failure hAnswer => contradiction
  | delivered =>
      refine
        { originated := rfl
          packets := ?_
          outcomes := rfl
          forwarded := rfl
          noRouteDrops := hSame
          flying := rfl }
      have hArrived :
          (node.received.push
              (Connection.delivery packet)).toList.length =
            node.arrived + 1 := by
        rw [Queue.toList_push, List.length_append]
        rfl
      exact
        (congrArg (· + node.drops) hArrived).trans
          (Nat.add_right_comm _ 1 _)
  | relayed _ _ _ _ hIdle =>
      refine
        { originated := rfl
          packets := rfl
          outcomes := rfl
          forwarded := rfl
          noRouteDrops := hSame
          flying := ?_ }
      have hZero : node.flying = 0 := by
        rw [flying, hIdle]
        rfl
      exact (congrArg (· + 1) hZero).symm

theorem Handling.counts
    {index : Nat}
    {node next : Node}
    {event : Event}
    {requests : List Request}
    (hHandling : Handling index node event next requests) :
    node.EventCounts event next requests := by
  cases hHandling with
  | echoed =>
      exact
        { originated := rfl
          packets := rfl
          outcomes := rfl
          forwarded := rfl
          noRouteDrops := Nat.le_refl _
          flying := rfl }
  | heard _ _ _ next requests hRerouted =>
      have hCounts := hRerouted.counts Duration.zero
      exact { hCounts with }
  | aged time next requests hRerouted =>
      exact { hRerouted.counts time with }
  | concluded receiver outcome transmissions next requests
      hRerouted => exact hRerouted.counts_concluded
  | received sender packet outcome hReception =>
      exact counts_received index hReception

------------------------------------------------------------
-- Settled Readings
------------------------------------------------------------

/- How many readings found no next hop, by a reply. -/
def unrouted : Reply → Nat
  | .sent .droppedNoRoute => 1
  | _ => 0

/-
  What a reading adds to the counts of its node: it is
  dropped or handed over.
-/
structure ReadingCounts
    (node next : Node)
    (requests : List Request)
    (reply : Reply) : Prop where
  sent : ∃ status, reply = .sent status
  originated : next.originated = node.originated + 1
  packets :
    next.arrived + next.drops +
        requests.countP Request.isUnicast =
      node.arrived + node.drops + 1
  outcomes : next.outcomes = node.outcomes
  forwarded : next.forwarded = node.forwarded
  handover :
    requests.countP Request.isUnicast + unrouted reply = 1
  noRouteDrops :
    next.noRouteDrops = node.noRouteDrops + unrouted reply
  flying :
    next.flying =
      node.flying + requests.countP Request.isUnicast

theorem Reporting.counts
    {index : Nat}
    {node next : Node}
    {packet : Packet}
    {requests : List Request}
    {reply : Reply}
    (hReporting :
      Reporting index node packet next requests reply)
    (hIdle : node.connection.forwarding = false) :
    node.ReadingCounts next requests reply := by
  cases hReporting with
  | dropped =>
      exact
        { sent := ⟨_, rfl⟩
          originated := rfl
          packets := by
            unfold drops
            dsimp only [Connection.countOriginated,
              Connection.countNoRoute]
            exact congrArg (node.arrived + ·)
              (Nat.add_right_comm _ 1 _)
          outcomes := rfl
          forwarded := rfl
          handover := rfl
          noRouteDrops := rfl
          flying := rfl }
  | handedOver n =>
      have hZero : node.flying = 0 := by
        rw [flying, hIdle]
        rfl
      exact
        { sent := ⟨_, rfl⟩
          originated := rfl
          packets := rfl
          outcomes := rfl
          forwarded := rfl
          handover := rfl
          noRouteDrops := rfl
          flying := (congrArg (· + 1) hZero).symm }

end Node

namespace Simulation

variable {γ : Type}

------------------------------------------------------------
-- Totals
------------------------------------------------------------

/- A count of nodes, added up over all of them. -/
def total
    (s : Simulation γ)
    (count : Node → Nat) : Nat :=
  (s.nodes.toList.map count).sum

/- What a total becomes when one node is replaced. -/
theorem sum_set
    {nodes : List Node}
    {index : Nat}
    {node : Node}
    (hNode : nodes[index]? = some node)
    (next : Node)
    (count : Node → Nat) :
    ((nodes.set index next).map count).sum + count node =
      (nodes.map count).sum + count next := by
  induction nodes generalizing index with
  | nil => contradiction
  | cons first rest ih =>
      cases index with
      | zero =>
          rw [List.getElem?_cons_zero,
            Option.some.injEq] at hNode
          subst hNode
          simp only [List.set_cons_zero, List.map_cons,
            List.sum_cons]
          omega
      | succ index =>
          rw [List.getElem?_cons_succ] at hNode
          have hRest := ih hNode
          simp only [List.set_cons_succ, List.map_cons,
            List.sum_cons]
          omega

theorem total_of_set
    {s t : Simulation γ}
    {index : Nat}
    {node next : Node}
    (hNode : s.nodes[index]? = some node)
    (hNodes : t.nodes = s.nodes.setIfInBounds index next)
    (count : Node → Nat) :
    t.total count + count node =
      s.total count + count next := by
  unfold total
  rw [hNodes, Array.toList_setIfInBounds]
  exact sum_set (Array.getElem?_toList ▸ hNode) next count

theorem total_of_nodes_eq
    {s t : Simulation γ}
    (hNodes : t.nodes = s.nodes)
    (count : Node → Nat) :
    t.total count = s.total count := by
  rw [total, total, hNodes]

------------------------------------------------------------
-- Queues
------------------------------------------------------------

/- How many packets wait to be transmitted. -/
def unicasts
    (s : Simulation γ) : Nat :=
  s.outbox.toList.countP Request.isUnicast

/- How many packets wait to be taken by a node. -/
def arrivals
    (s : Simulation γ) : Nat :=
  s.events.toList.countP (fun event => event.2.isArrival)

/- How many nodes wait to be told of their transmission. -/
def conclusions
    (s : Simulation γ) : Nat :=
  s.events.toList.countP
    (fun event => event.2.isConclusion)

/- Events about routes are not counted. -/
theorem Airs.arrivals_eq
    {s t : Simulation γ}
    (hAirs : Airs s t) :
    t.arrivals = s.arrivals := by
  obtain ⟨more, hEvents, hMore⟩ := hAirs.events
  have hNone :
      more.countP (fun event => event.2.isArrival) = 0 := by
    rw [List.countP_eq_zero]
    intro event hMem
    rw [Event.not_isArrival_of_isRouting
      (hMore event hMem).2]
    simp
  unfold arrivals
  rw [hEvents, List.countP_append, hNone, Nat.add_zero]

theorem Airs.conclusions_eq
    {s t : Simulation γ}
    (hAirs : Airs s t) :
    t.conclusions = s.conclusions := by
  obtain ⟨more, hEvents, hMore⟩ := hAirs.events
  have hNone :
      more.countP (fun event => event.2.isConclusion) =
        0 := by
    rw [List.countP_eq_zero]
    intro event hMem
    rw [Event.not_isConclusion_of_isRouting
      (hMore event hMem).2]
    simp
  unfold conclusions
  rw [hEvents, List.countP_append, hNone, Nat.add_zero]

/- The counts of readings after one more was sent. -/
theorem traffic_countReading
    (s : Simulation γ)
    (status : SendStatus) :
    (s.countReading (.sent status)).traffic.messagesSent =
        s.traffic.messagesSent + 1 ∧
      (s.countReading
          (.sent status)).traffic.messagesNoRoute =
        s.traffic.messagesNoRoute +
          Node.unrouted (.sent status) ∧
      (s.countReading (.sent status)).traffic.timeouts =
        s.traffic.timeouts := by
  cases status <;> exact ⟨rfl, rfl, rfl⟩

------------------------------------------------------------
-- Balanced Simulations
------------------------------------------------------------

/-
  All readings and all transmissions are accounted for, at
  the nodes or in the queues.
-/
structure Balanced
    (s : Simulation γ) : Prop where
  readings :
    s.traffic.messagesSent = s.total Node.originated
  packets :
    s.traffic.messagesSent =
      s.total Node.arrived + s.total Node.drops +
        s.traffic.timeouts + s.unicasts + s.arrivals
  transmissions :
    s.total Node.outcomes + s.unicasts + s.conclusions +
        s.traffic.messagesNoRoute =
      s.total Node.forwarded + s.traffic.messagesSent
  unrouted :
    s.traffic.messagesNoRoute ≤ s.total Node.noRouteDrops

/- Whatever is on the air is balanced. -/
theorem Balanced.of_airs
    {s t : Simulation γ}
    (hBalanced : s.Balanced)
    (hAirs : Airs s t)
    (hUnicasts : t.unicasts = s.unicasts) :
    t.Balanced := by
  have hTotal := total_of_nodes_eq hAirs.nodes
  have hArrivals := hAirs.arrivals_eq
  have hConclusions := hAirs.conclusions_eq
  constructor
  · rw [hAirs.messagesSent, hTotal]
    exact hBalanced.readings
  · rw [hAirs.messagesSent, hTotal, hTotal, hAirs.timeouts,
      hUnicasts, hArrivals]
    exact hBalanced.packets
  · rw [hAirs.messagesSent, hAirs.messagesNoRoute, hTotal,
      hTotal, hUnicasts, hConclusions]
    exact hBalanced.transmissions
  · rw [hAirs.messagesNoRoute, hTotal]
    exact hBalanced.unrouted

/- A transmission becomes an outcome, whatever becomes of it. -/
theorem Balanced.of_transmitted
    {s t : Simulation γ}
    (hBefore : s.Balanced)
    {sender : Nat}
    {handover : Handover}
    {outcome : TxOutcome}
    {transmissions : UInt8}
    {arrivals : List (Nat × Event)}
    (hOutbox :
      s.outbox.toList =
        .unicast sender handover :: t.outbox.toList)
    (hEvents :
      t.events.toList =
        s.events.toList ++
          (arrivals ++
            [ (sender,
                .sent handover.nextHop outcome
                  transmissions) ]))
    (hArrivals : ∀ event ∈ arrivals, event.2.isArrival = true)
    (hNodes : t.nodes = s.nodes)
    (hSent :
      t.traffic.messagesSent = s.traffic.messagesSent)
    (hNoRoute :
      t.traffic.messagesNoRoute = s.traffic.messagesNoRoute)
    (hOnce :
      t.traffic.timeouts + arrivals.length =
        s.traffic.timeouts + 1) :
    t.Balanced := by
  have hReadings := hBefore.readings
  have hPackets := hBefore.packets
  have hTransmissions := hBefore.transmissions
  have hUnrouted := hBefore.unrouted
  have hTotal := total_of_nodes_eq hNodes
  have hUnicasts : s.unicasts = t.unicasts + 1 := by
    unfold unicasts
    rw [hOutbox]
    exact List.countP_cons_of_pos rfl
  have hArrived :
      t.arrivals = s.arrivals + arrivals.length := by
    have hAll :
        arrivals.countP (fun event => event.2.isArrival) =
          arrivals.length :=
      List.countP_eq_length.mpr hArrivals
    unfold Simulation.arrivals
    rw [hEvents, List.countP_append, List.countP_append, hAll]
    rfl
  have hConclusions : t.conclusions = s.conclusions + 1 := by
    have hNone :
        arrivals.countP (fun event => event.2.isConclusion) =
          0 := by
      rw [List.countP_eq_zero]
      intro event hMem
      simp [Event.not_isConclusion_of_isArrival
        (hArrivals event hMem)]
    unfold conclusions
    rw [hEvents, List.countP_append, List.countP_append,
      hNone]
    rfl
  constructor <;> simp only [hTotal] <;> omega

theorem Balanced.of_dispatched
    {s t : Simulation γ}
    (hBefore : s.Balanced)
    {index : Nat}
    {event : Event}
    {node next : Node}
    (hDispatched : Dispatched s t index event node next) :
    t.Balanced := by
  have hReadings := hBefore.readings
  have hPackets := hBefore.packets
  have hTransmissions := hBefore.transmissions
  have hUnrouted := hBefore.unrouted
  have hTotal :=
    total_of_set hDispatched.found hDispatched.nodes
  have hUnicasts :
      t.unicasts =
        t.outbox.toList.countP Request.isUnicast := rfl
  have hNone : s.unicasts = 0 := by
    unfold unicasts
    rw [hDispatched.outbox]
    rfl
  have hArrivals :
      s.arrivals = t.arrivals + event.isArrival.toNat := by
    unfold arrivals
    rw [hDispatched.events, List.countP_cons]
    cases event.isArrival <;> rfl
  have hConclusions :
      s.conclusions =
        t.conclusions + event.isConclusion.toNat := by
    unfold conclusions
    rw [hDispatched.events, List.countP_cons]
    cases event.isConclusion <;> rfl
  have hOriginated := hTotal Node.originated
  have hArrived := hTotal Node.arrived
  have hDrops := hTotal Node.drops
  have hOutcomes := hTotal Node.outcomes
  have hForwarded := hTotal Node.forwarded
  have hNoRoute := hTotal Node.noRouteDrops
  obtain ⟨h₁, h₂, h₃, h₄, h₅, -⟩ :=
    hDispatched.handling.counts
  constructor <;> rw [hDispatched.traffic] <;> omega

theorem Balanced.of_reported
    {s t : Simulation γ}
    (hBefore : s.Balanced)
    {index : Nat}
    {node next : Node}
    {requests : List Request}
    {reply : Reply}
    (hReported :
      Reported s t index node next requests reply) :
    t.Balanced := by
  have hReadings := hBefore.readings
  have hPackets := hBefore.packets
  have hTransmissions := hBefore.transmissions
  have hUnrouted := hBefore.unrouted
  have hTotal := total_of_set hReported.found hReported.nodes
  have hTraffic := hReported.traffic
  have hUnicasts :
      t.unicasts =
        s.unicasts + requests.countP Request.isUnicast := by
    unfold unicasts
    rw [hReported.outbox, List.countP_append]
  have hArrivals : t.arrivals = s.arrivals := by
    unfold arrivals
    rw [hReported.events]
  have hConclusions : t.conclusions = s.conclusions := by
    unfold conclusions
    rw [hReported.events]
  have hOriginated := hTotal Node.originated
  have hArrived := hTotal Node.arrived
  have hDrops := hTotal Node.drops
  have hOutcomes := hTotal Node.outcomes
  have hForwarded := hTotal Node.forwarded
  have hNoRoute := hTotal Node.noRouteDrops
  obtain ⟨⟨status, rfl⟩, h₁, h₂, h₃, h₄, h₅, h₆, -⟩ :=
    hReported.reporting.counts hReported.idle
  obtain ⟨hSent, hUnroutedSent, hTimeouts⟩ :=
    traffic_countReading s status
  rw [← hTraffic] at hSent hUnroutedSent hTimeouts
  constructor <;> omega

/- One unit moves from one place to another, or none does. -/
theorem Move.balanced
    {s t : Simulation γ}
    (hMove : Move s t)
    (hBefore : s.Balanced) :
    t.Balanced := by
  cases hMove with
  | aired hAirs hOutbox =>
      apply hBefore.of_airs hAirs
      unfold unicasts
      rw [hOutbox]
  | served request hRouting hOutbox hAirs =>
      apply hBefore.of_airs hAirs
      unfold unicasts
      rw [hOutbox, List.countP_cons_of_neg (by simp [hRouting])]
  | delivered sender handover index transmissions hOutbox _
      hEvents _ hNodes hSent hNoRoute hTimeouts =>
      have hArrival :
          ∀ event ∈
              [ (index,
                  Event.received (addressOf sender)
                    handover.packet) ],
            event.2.isArrival = true := by
        simp [Event.isArrival]
      exact hBefore.of_transmitted hOutbox hEvents hArrival
        hNodes hSent hNoRoute (by rw [hTimeouts]; rfl)
  | lost sender handover transmissions hOutbox hEvents _
      hNodes hSent hNoRoute hTimeouts =>
      have hNothing :
          ∀ event ∈ ([] : List (Nat × Event)),
            event.2.isArrival = true := by
        simp
      exact hBefore.of_transmitted hOutbox hEvents hNothing
        hNodes hSent hNoRoute hTimeouts
  | handled index event node next hDispatched =>
      exact hBefore.of_dispatched hDispatched
  | reported index node next requests reply hReported =>
      exact hBefore.of_reported hReported

------------------------------------------------------------
-- Balanced Runs
------------------------------------------------------------

theorem total_eq_zero
    {s : Simulation γ}
    {count : Node → Nat}
    (hZero :
      ∀ (index : Nat) (node : Node),
        s.nodes[index]? = some node → count node = 0) :
    s.total count = 0 := by
  unfold total
  rw [List.sum_eq_zero_iff_forall_eq_nat]
  intro n hMem
  rcases List.mem_map.mp hMem with ⟨node, hNode, rfl⟩
  rcases List.getElem?_of_mem hNode with ⟨index, hIndex⟩
  exact hZero index node (Array.getElem?_toList ▸ hIndex)

/- Nothing was counted yet at a node that was just opened. -/
theorem counts_firstNode
    (setup : Setup)
    (index : Nat) :
    (firstNode setup index).originated = 0 ∧
      (firstNode setup index).arrived = 0 ∧
      (firstNode setup index).drops = 0 ∧
      (firstNode setup index).outcomes = 0 ∧
      (firstNode setup index).forwarded = 0 ∧
      (firstNode setup index).flying = 0 := by
  unfold firstNode
  split <;> exact ⟨rfl, rfl, rfl, rfl, rfl, rfl⟩

theorem unicasts_start
    (setup : Setup)
    (losses : γ) :
    (start setup losses).unicasts = 0 := by
  unfold unicasts
  rw [outbox_start, List.countP_eq_zero]
  intro request hMem
  rw [(mem_firstRequests hMem).2]
  simp

theorem balanced_start
    (setup : Setup)
    (losses : γ) :
    (start setup losses).Balanced := by
  have hFirst :
      ∀ (index : Nat) (node : Node),
        (start setup losses).nodes[index]? = some node →
          node = firstNode setup index := by
    intro index node hNode
    rw [nodes_start] at hNode
    split at hNode
    · exact (Option.some.inj hNode).symm
    · contradiction
  have hOriginated :
      (start setup losses).total Node.originated = 0 :=
    total_eq_zero (fun index node hNode =>
      hFirst index node hNode ▸
        (counts_firstNode setup index).1)
  have hArrived :
      (start setup losses).total Node.arrived = 0 :=
    total_eq_zero (fun index node hNode =>
      hFirst index node hNode ▸
        (counts_firstNode setup index).2.1)
  have hDrops : (start setup losses).total Node.drops = 0 :=
    total_eq_zero (fun index node hNode =>
      hFirst index node hNode ▸
        (counts_firstNode setup index).2.2.1)
  have hOutcomes :
      (start setup losses).total Node.outcomes = 0 :=
    total_eq_zero (fun index node hNode =>
      hFirst index node hNode ▸
        (counts_firstNode setup index).2.2.2.1)
  have hForwarded :
      (start setup losses).total Node.forwarded = 0 :=
    total_eq_zero (fun index node hNode =>
      hFirst index node hNode ▸
        (counts_firstNode setup index).2.2.2.2.1)
  have hUnicasts := unicasts_start setup losses
  have hTraffic := traffic_start setup losses
  have hArrivals : (start setup losses).arrivals = 0 := by
    unfold arrivals
    rw [events_start]
    rfl
  have hConclusions :
      (start setup losses).conclusions = 0 := by
    unfold conclusions
    rw [events_start]
    rfl
  constructor
  · rw [hTraffic, hOriginated]
    rfl
  · rw [hTraffic, hArrived, hDrops, hUnicasts, hArrivals]
    rfl
  · rw [hTraffic, hOutcomes, hForwarded, hUnicasts,
      hConclusions]
    rfl
  · rw [hTraffic]
    exact Nat.zero_le _

theorem balanced_of_reaches
    [LossSource γ]
    {setup : Setup}
    {losses : γ}
    {s : Simulation γ}
    (hReaches : Reaches (start setup losses) s) :
    s.Balanced :=
  (hReaches.invariant
    (fun _ _ _ hBalanced hMove => hMove.balanced hBalanced)
    (sound_start setup losses)
    (balanced_start setup losses)).2

end Simulation

end CollectionTree
