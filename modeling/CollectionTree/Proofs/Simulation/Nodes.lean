import CollectionTree.Proofs.Connection.Coherence
import CollectionTree.Proofs.Connection.Steps
import CollectionTree.Simulation

/-
  What an event or a reading does at a node of a simulation.

  Key definitions include:
    * `Node.Ready`
    * `Node.Rerouted`
    * `Node.Handling`
    * `Node.Reporting`

  Key theorems include:
    * `Node.handling`
    * `Node.reporting`
    * `Node.Handling.ready`
    * `Node.Reporting.ready`

  The transport of a ready node takes a packet whenever the
  connection has one to hand over, because both sides keep
  the same account of whether a packet is on its way.
-/

namespace CollectionTree

------------------------------------------------------------
-- Operations of an Open Connection
------------------------------------------------------------

namespace Connection

/-
  A coherent connection could bring its metric up to date
  whenever time passes: without dropped entries there is
  nothing to change.
-/
theorem tick_eq
    {c : Connection}
    (hOpen : c.isOpen = true)
    (hCoherent : c.Coherent)
    (time : Duration) :
    c.tick time = (c.aged time).thenUpdate [] := by
  have hListening : ¬ (!c.isOpen) = true := by
    simp [hOpen]
  unfold tick
  rw [if_neg hListening]
  by_cases hDropped :
      (c.neighbors.tick time).1.isEmpty = true
  · simp only [hDropped, if_true]
    have hSame :
        (c.aged time).role = .sink ∨
          (c.aged time).routeMetric =
            (c.aged time).metric := by
      by_cases hSink : c.role = .sink
      · exact Or.inl hSink
      · apply Or.inr
        refine Eq.trans ?_ (hCoherent.metric hSink).symm
        exact routeMetric_eq_of_routeCosts_eq
          (NeighborTable.routeCosts_tick hDropped)
    rcases updateMetric_cases (c.aged time) with
      ⟨-, hEq⟩ | ⟨hRole, hChanged, -⟩
    · unfold thenUpdate
      rw [hEq]
      rfl
    · rcases hSame with hSink | hSame
      · exact absurd hSink hRole
      · exact absurd hSame hChanged
  · simp only [hDropped]
    rfl

end Connection

------------------------------------------------------------
-- Requests and Events
------------------------------------------------------------

/- The index of the node that makes a request. -/
def Request.node : Request → Nat
  | .unicast sender _ => sender
  | .announce sender _ => sender
  | .listen listener _ => listener

/- Whether a request is to deliver a packet. -/
def Request.isUnicast : Request → Bool
  | .unicast _ _ => true
  | _ => false

/- Whether an event is about routes and not about packets. -/
def Event.isRouting : Event → Bool
  | .announced _ _ => true
  | .elapsed _ => true
  | _ => false

namespace Node

------------------------------------------------------------
-- Ready Nodes
------------------------------------------------------------

/-
  A node that takes part in the tree: it is open, announces
  its metric, is the sink exactly at index zero, and agrees
  with its transport on whether a packet is on its way.
-/
structure Ready
    (index : Nat)
    (node : Node) : Prop where
  address :
    node.connection.address = Simulation.addressOf index
  isOpen : node.connection.isOpen = true
  channel : node.channel.isSome = true
  announced :
    node.announced = some node.connection.metric
  role_iff : node.connection.role = .sink ↔ index = 0
  coherent : node.connection.Coherent
  agree : node.connection.forwarding = node.inFlight

/- The transport refuses only what is not handed to it. -/
theorem Ready.sendAnswer
    {index : Nat}
    {node : Node}
    (hReady : node.Ready index)
    (hIdle : node.connection.forwarding = false) :
    node.sendAnswer = .ok () := by
  have hChannel : node.channel.isNone = false := by
    rw [← Option.not_isSome, hReady.channel]
    rfl
  have hFlight : node.inFlight = false := by
    rw [← hReady.agree, hIdle]
  unfold Node.sendAnswer
  simp [hChannel, hFlight]

------------------------------------------------------------
-- Changes of Routes
------------------------------------------------------------

/-
  What becomes of a node when it brings the metric of a
  connection up to date, and what it asks of the radio.
-/
inductive Rerouted
    (index : Nat)
    (node : Node)
    (d : Connection) :
    Node → List Request → Prop
  | kept
      (hSame :
        d.role = .sink ∨ d.routeMetric = d.metric) :
      Rerouted index node d
        { node with connection := d } []
  | changed
      (hRole : d.role ≠ .sink)
      (hChanged : d.routeMetric ≠ d.metric) :
      Rerouted index node d
        { node with
          connection := d.withRouteMetric
          announced := some d.routeMetric }
        [.announce index d.routeMetric]

/- Carry out what an operation of the connection asks for. -/
def carriedOut
    (index : Nat)
    (node : Node)
    (outcome : Outcome) : Node × List Request :=
  carryOutAll index
    { node with connection := outcome.connection }
    outcome.effects

theorem rerouted
    (index : Nat)
    (node : Node)
    (hAnnounced : node.announced.isSome = true)
    (d : Connection) :
    Rerouted index node d
      (node.carriedOut index (d.thenUpdate [])).1
      (node.carriedOut index (d.thenUpdate [])).2 := by
  have hSome : node.announced.isNone = false := by
    rw [← Option.not_isSome, hAnnounced]
    rfl
  rcases Connection.updateMetric_cases d with
    ⟨hSame, hEq⟩ | ⟨hRole, hChanged, hEq⟩
  · unfold carriedOut Connection.thenUpdate
    rw [hEq]
    exact .kept hSame
  · unfold carriedOut Connection.thenUpdate
    rw [hEq]
    have hCarry :
        carryOutAll index
            { node with connection := d.withRouteMetric }
            [.announce d.routeMetric] =
          ({ node with
              connection := d.withRouteMetric
              announced := some d.routeMetric },
            [.announce index d.routeMetric]) := by
      simp [carryOutAll, carryOut, hSome]
    simp only [List.nil_append, hCarry]
    exact .changed hRole hChanged

------------------------------------------------------------
-- Events
------------------------------------------------------------

theorem connection_prepare
    (node : Node)
    (event : Event) :
    (Simulation.prepare node event).connection =
      node.connection := by
  cases event <;> rfl

/-
  What becomes of a node that handles an event, and what it
  asks of the radio.
-/
inductive Handling
    (index : Nat)
    (node : Node) :
    Event → Node → List Request → Prop
  | echoed
      (sender : Address)
      (metric : Metric)
      (hOwn : sender = node.connection.address) :
      Handling index node (.announced sender metric) node []
  | heard
      (sender : Address)
      (metric : Metric)
      (hOther : sender ≠ node.connection.address)
      (next : Node)
      (requests : List Request)
      (hRerouted :
        Rerouted index node
          (node.connection.informed sender metric)
          next requests) :
      Handling index node (.announced sender metric)
        next requests
  | aged
      (time : Duration)
      (next : Node)
      (requests : List Request)
      (hRerouted :
        Rerouted index node (node.connection.aged time)
          next requests) :
      Handling index node (.elapsed time) next requests
  | concluded
      (receiver : Address)
      (outcome : TxOutcome)
      (transmissions : UInt8)
      (next : Node)
      (requests : List Request)
      (hRerouted :
        Rerouted index node.finish
          (node.connection.concluded receiver outcome
            transmissions)
          next requests) :
      Handling index node
        (.sent receiver outcome transmissions) next requests
  | received
      (sender : Address)
      (packet : Packet)
      (outcome : Outcome)
      (hReception :
        node.connection.Reception (.ok ()) sender packet
          outcome) :
      Handling index node (.received sender packet)
        (node.carriedOut index outcome).1
        (node.carriedOut index outcome).2

/- Whenever a ready node asks its transport, it accepts. -/
theorem Ready.reception
    {index : Nat}
    {node : Node}
    (hReady : node.Ready index)
    (sender : Address)
    (packet : Packet) :
    node.connection.Reception (.ok ()) sender packet
      (node.connection.receive node.sendAnswer sender
        packet) := by
  have hReception :=
    Connection.reception hReady.isOpen node.sendAnswer sender
      packet
  generalize
    node.connection.receive node.sendAnswer sender packet =
      outcome at hReception
  cases hReception with
  | duplicate hSeen => exact .duplicate hSeen
  | delivered hNew hRole => exact .delivered hNew hRole
  | expired hNew hRole hTtl =>
      exact .expired hNew hRole hTtl
  | disconnected hNew hRole hTtl hMetric =>
      exact .disconnected hNew hRole hTtl hMetric
  | busy hNew hRole hTtl hMetric hForwarding =>
      exact .busy hNew hRole hTtl hMetric hForwarding
  | unrouted hNew hRole hTtl hMetric hIdle hBest =>
      exact .unrouted hNew hRole hTtl hMetric hIdle hBest
  | refused hNew hRole hTtl hMetric hIdle n hBest hAway
      failure hAnswer =>
      rw [hReady.sendAnswer hIdle] at hAnswer
      contradiction
  | relayed hNew hRole hTtl hMetric hIdle n hBest hAway _ =>
      exact .relayed hNew hRole hTtl hMetric hIdle n hBest
        hAway rfl

/- A node handles an event after its transport has. -/
theorem handling
    {index : Nat}
    {node : Node}
    (hReady : node.Ready index)
    (event : Event) :
    Handling index node event
      ((Simulation.prepare node event).perform index
        (.handle event)).1
      ((Simulation.prepare node event).perform index
        (.handle event)).2.1 := by
  have hOpen := hReady.isOpen
  have hAnnounced : node.announced.isSome = true := by
    rw [hReady.announced]
    rfl
  cases event with
  | received sender packet =>
      exact .received sender packet _
        (hReady.reception sender packet)
  | sent receiver outcome transmissions =>
      refine .concluded receiver outcome transmissions _ _ ?_
      have hRerouted :=
        rerouted index node.finish hAnnounced
          (node.connection.concluded receiver outcome
            transmissions)
      rw [← Connection.concludeTransmission_eq hOpen]
        at hRerouted
      exact hRerouted
  | announced sender metric =>
      by_cases hOwn : sender = node.connection.address
      · have hSkip :
            node.connection.hear sender metric =
              node.connection.unchanged := by
          unfold Connection.hear
          rw [if_pos (Or.inr hOwn)]
        have hHandle :
            node.perform index
                (.handle (.announced sender metric)) =
              (node, [], .done) := by
          unfold perform
          rw [show
            node.connection.perform _
              (.handle (.announced sender metric)) =
                node.connection.hear sender metric from rfl,
            hSkip]
          rfl
        have hPrepare :
            Simulation.prepare node
              (.announced sender metric) = node := rfl
        rw [hPrepare, hHandle]
        exact .echoed sender metric hOwn
      · refine .heard sender metric hOwn _ _ ?_
        have hRerouted :=
          rerouted index node hAnnounced
            (node.connection.informed sender metric)
        rw [← Connection.hear_eq hOpen hOwn] at hRerouted
        exact hRerouted
  | elapsed time =>
      refine .aged time _ _ ?_
      have hRerouted :=
        rerouted index node hAnnounced
          (node.connection.aged time)
      rw [← Connection.tick_eq hOpen hReady.coherent]
        at hRerouted
      exact hRerouted

------------------------------------------------------------
-- Readings
------------------------------------------------------------

/-
  What becomes of a node, not the sink and with nothing on
  its way, that sends a reading.
-/
inductive Reporting
    (index : Nat)
    (node : Node)
    (packet : Packet) :
    Node → List Request → Reply → Prop
  | dropped
      (hBest : node.connection.neighbors.best = none) :
      Reporting index node packet
        { node with
          connection :=
            node.connection.countOriginated.countNoRoute }
        [.listen index
          node.connection.config.noRouteListenBursts]
        (.sent .droppedNoRoute)
  | handedOver
      (n : Neighbor)
      (hBest : node.connection.neighbors.best = some n) :
      Reporting index node packet
        { node with
          connection :=
            { node.connection.countOriginated with
              forwarding := true }
          inFlight := true }
        [.unicast index
          (node.connection.handover n.address packet)]
        (.sent (.forwarded n.address))

theorem reporting
    {index : Nat}
    {node : Node}
    (hReady : node.Ready index)
    (hRole : node.connection.role ≠ .sink)
    (hIdle : node.connection.forwarding = false)
    (payload : List UInt8)
    (maxRexmit : UInt8) :
    Reporting index node
      (node.connection.originate payload maxRexmit)
      (node.perform index (.send payload maxRexmit)).1
      (node.perform index (.send payload maxRexmit)).2.1
      (node.perform index (.send payload maxRexmit)).2.2 := by
  have hSending :=
    Connection.sending hReady.isOpen node.sendAnswer payload
      maxRexmit
  have hPerform :
      node.perform index (.send payload maxRexmit) =
        ((node.carriedOut index
            (node.connection.send node.sendAnswer payload
              maxRexmit)).1,
          (node.carriedOut index
            (node.connection.send node.sendAnswer payload
              maxRexmit)).2,
          (node.connection.send node.sendAnswer payload
            maxRexmit).reply) := rfl
  rw [hPerform]
  generalize
    node.connection.send node.sendAnswer payload maxRexmit =
      outcome at hSending
  cases hSending with
  | delivered hSink => exact absurd hSink hRole
  | dropped _ hBest => exact .dropped hBest
  | refused _ n hBest failure hAnswer =>
      rw [hReady.sendAnswer hIdle] at hAnswer
      contradiction
  | handedOver _ n hBest _ => exact .handedOver n hBest

------------------------------------------------------------
-- Nodes Stay Ready
------------------------------------------------------------

theorem Rerouted.connection_eq
    {index : Nat}
    {node next : Node}
    {d : Connection}
    {requests : List Request}
    (hRerouted : Rerouted index node d next requests) :
    next.connection = d.updateMetric.1 := by
  rcases Connection.updateMetric_cases d with
    ⟨hSame, hEq⟩ | ⟨hRole, hChanged, hEq⟩
  · rw [hEq]
    cases hRerouted with
    | kept _ => rfl
    | changed hRole hChanged =>
        rcases hSame with hSink | hSame
        · exact absurd hSink hRole
        · exact absurd hSame hChanged
  · rw [hEq]
    cases hRerouted with
    | kept hSame =>
        rcases hSame with hSink | hSame
        · exact absurd hSink hRole
        · exact absurd hSame hChanged
    | changed _ _ => rfl

/-
  A node with another connection in place is ready once the
  metric is up to date.
-/
theorem Rerouted.ready
    {index : Nat}
    {node next : Node}
    {d : Connection}
    {requests : List Request}
    (hRerouted : Rerouted index node d next requests)
    (hAddress : d.address = Simulation.addressOf index)
    (hOpen : d.isOpen = true)
    (hChannel : node.channel.isSome = true)
    (hAnnounced : node.announced = some d.metric)
    (hRole : d.role = .sink ↔ index = 0)
    (hAgree : d.forwarding = node.inFlight)
    (hCoherent : d.updateMetric.1.Coherent) :
    next.Ready index := by
  have hConnection := hRerouted.connection_eq
  rw [← hConnection] at hCoherent
  cases hRerouted with
  | kept hSame =>
      exact
        { address := hAddress
          isOpen := hOpen
          channel := hChannel
          announced := hAnnounced
          role_iff := hRole
          coherent := hCoherent
          agree := hAgree }
  | changed hOther hChanged =>
      refine
        { address := hAddress
          isOpen := hOpen
          channel := hChannel
          announced := rfl
          role_iff := ?_
          coherent := hCoherent
          agree := hAgree }
      constructor
      · intro hSink
        exact absurd hSink (Connection.roleOf_ne_sink _)
      · intro hZero
        exact absurd (hRole.mpr hZero) hOther

/- What a coherent connection keeps with another table. -/
theorem Ready.coherent_withNeighbors
    {index : Nat}
    {node : Node}
    (hReady : node.Ready index)
    {d : Connection}
    (hMetric : d.metric = node.connection.metric)
    (hRole : d.role = node.connection.role)
    (hLinks : d.neighbors.Positive) :
    d.updateMetric.1.Coherent :=
  hReady.coherent.withNeighbors hMetric hRole hLinks []

theorem Handling.ready
    {index : Nat}
    {node next : Node}
    {event : Event}
    {requests : List Request}
    (hHandling : Handling index node event next requests)
    (hReady : node.Ready index) :
    next.Ready index := by
  have hLinks := hReady.coherent.links
  cases hHandling with
  | echoed sender metric hOwn => exact hReady
  | heard sender metric hOther next requests hRerouted =>
      exact hRerouted.ready hReady.address hReady.isOpen
        hReady.channel hReady.announced hReady.role_iff
        hReady.agree
        (hReady.coherent_withNeighbors rfl rfl
          (Connection.positive_noteAnnounced hLinks sender
            metric))
  | aged time next requests hRerouted =>
      exact hRerouted.ready hReady.address hReady.isOpen
        hReady.channel hReady.announced hReady.role_iff
        hReady.agree
        (hReady.coherent_withNeighbors rfl rfl
          (hLinks.tick time))
  | concluded receiver outcome transmissions next requests
      hRerouted =>
      have hSent :=
        Connection.toNat_max_one_pos transmissions
      unfold Connection.concluded at hRerouted
      by_cases hAcked : outcome = .acked
      · rw [if_pos hAcked] at hRerouted
        exact hRerouted.ready hReady.address hReady.isOpen
          hReady.channel hReady.announced hReady.role_iff rfl
          (hReady.coherent_withNeighbors rfl rfl
            (Connection.positive_noteAcknowledged hLinks
              receiver hSent))
      · rw [if_neg hAcked] at hRerouted
        exact hRerouted.ready hReady.address hReady.isOpen
          hReady.channel hReady.announced hReady.role_iff rfl
          (hReady.coherent_withNeighbors rfl rfl
            (Connection.positive_recordFailure hLinks
              receiver hSent))
  | received sender packet outcome hReception =>
      have hRoute : outcome.connection.route =
          node.connection.route := by
        cases hReception <;> rfl
      have hCoherent := hReady.coherent.of_route_eq hRoute
      cases hReception with
      | refused _ _ _ _ _ _ _ _ failure hAnswer =>
          contradiction
      | relayed =>
          exact
            { address := hReady.address
              isOpen := hReady.isOpen
              channel := hReady.channel
              announced := hReady.announced
              role_iff := hReady.role_iff
              coherent := hCoherent
              agree := rfl }
      | _ =>
          exact
            { address := hReady.address
              isOpen := hReady.isOpen
              channel := hReady.channel
              announced := hReady.announced
              role_iff := hReady.role_iff
              coherent := hCoherent
              agree := hReady.agree }

theorem Reporting.ready
    {index : Nat}
    {node next : Node}
    {packet : Packet}
    {requests : List Request}
    {reply : Reply}
    (hReporting :
      Reporting index node packet next requests reply)
    (hReady : node.Ready index) :
    next.Ready index := by
  cases hReporting with
  | dropped hBest =>
      exact
        { address := hReady.address
          isOpen := hReady.isOpen
          channel := hReady.channel
          announced := hReady.announced
          role_iff := hReady.role_iff
          coherent := hReady.coherent.of_route_eq rfl
          agree := hReady.agree }
  | handedOver n hBest =>
      exact
        { address := hReady.address
          isOpen := hReady.isOpen
          channel := hReady.channel
          announced := hReady.announced
          role_iff := hReady.role_iff
          coherent := hReady.coherent.of_route_eq rfl
          agree := rfl }

------------------------------------------------------------
-- Requests Come From the Node
------------------------------------------------------------

theorem Rerouted.node_of_mem
    {index : Nat}
    {node next : Node}
    {d : Connection}
    {requests : List Request}
    (hRerouted : Rerouted index node d next requests)
    {request : Request}
    (hMem : request ∈ requests) :
    request.node = index ∧ request.isUnicast = false := by
  cases hRerouted with
  | kept => contradiction
  | changed =>
      rw [List.mem_singleton] at hMem
      subst hMem
      exact ⟨rfl, rfl⟩

theorem Handling.node_of_mem
    {index : Nat}
    {node next : Node}
    {event : Event}
    {requests : List Request}
    (hHandling : Handling index node event next requests)
    {request : Request}
    (hMem : request ∈ requests) :
    request.node = index := by
  cases hHandling with
  | echoed => contradiction
  | heard sender metric hOther next requests hRerouted =>
      exact (hRerouted.node_of_mem hMem).1
  | aged time next requests hRerouted =>
      exact (hRerouted.node_of_mem hMem).1
  | concluded receiver outcome transmissions next requests
      hRerouted =>
      exact (hRerouted.node_of_mem hMem).1
  | received sender packet outcome hReception =>
      cases hReception with
      | refused _ _ _ _ _ _ _ _ failure hAnswer =>
          contradiction
      | relayed =>
          rw [show (carriedOut index node _).2 =
            [Request.unicast index _] from rfl,
            List.mem_singleton] at hMem
          subst hMem
          rfl
      | _ => contradiction

theorem Reporting.node_of_mem
    {index : Nat}
    {node next : Node}
    {packet : Packet}
    {requests : List Request}
    {reply : Reply}
    (hReporting :
      Reporting index node packet next requests reply)
    {request : Request}
    (hMem : request ∈ requests) :
    request.node = index := by
  cases hReporting with
  | dropped =>
      rw [List.mem_singleton] at hMem
      subst hMem
      rfl
  | handedOver =>
      rw [List.mem_singleton] at hMem
      subst hMem
      rfl

end Node

end CollectionTree
