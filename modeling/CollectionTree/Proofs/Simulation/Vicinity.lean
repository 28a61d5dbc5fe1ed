import CollectionTree.Proofs.Connection.Learning
import CollectionTree.Proofs.Simulation.Clock

/-
  Nodes know of nodes in range only.

  Key definitions include:
    * `Setup.Near`
    * `NeighborTable.Vicinal`
    * `Simulation.IsNews`
    * `Simulation.Adds`
    * `Simulation.Served`
    * `Simulation.Vicinal`

  Key theorems include:
    * `Node.Handling.neighbors_eq`
    * `Simulation.broadcast_news`
    * `Simulation.serveListen_news`
    * `Simulation.served_of_outbox`
    * `Simulation.served_or_dispatched`
    * `Simulation.Vicinal.next`
    * `Simulation.vicinal_of_reaches`

  An address gets into a table because a node with it was
  heard, or acknowledged a packet.  The radio lets a node
  hear and reach nodes in range only, so all that is in a
  table, in a queue or in a request is the address of a node
  in range.
-/

namespace CollectionTree

/- An address of a node that a node can hear. -/
def Setup.Near
    (setup : Setup)
    (index : Nat)
    (a : Address) : Prop :=
  ∃ other, other < setup.nodeCount.toNat ∧
    setup.inRange index other = true ∧
    a = Simulation.addressOf other

/- The address of the node that an event tells of. -/
def Event.subject? : Event → Option Address
  | .announced sender _ => some sender
  | .sent receiver _ _ => some receiver
  | _ => none

/- The address that a request has a packet for. -/
def Request.nextHop? : Request → Option Address
  | .unicast _ handover => some handover.nextHop
  | _ => none

------------------------------------------------------------
-- Tables
------------------------------------------------------------

/- A table holds nodes in range, each of them once. -/
structure NeighborTable.Vicinal
    (setup : Setup)
    (index : Nat)
    (t : NeighborTable) : Prop where
  nodup : t.addresses.Nodup
  near : ∀ a ∈ t.addresses, setup.Near index a
  lifetime :
    t.lifetime =
      Duration.ofSeconds
        setup.collect.neighborLifetime.toNat 0

/- Time adds no addresses. -/
theorem NeighborTable.addresses_tick_sublist
    (t : NeighborTable)
    (elapsed : Duration) :
    (t.tick elapsed).2.addresses.Sublist t.addresses := by
  have hAged :
      (t.entries.map (fun n => n.aged elapsed)).map
          Neighbor.address =
        t.addresses := by
    rw [List.map_map]
    rfl
  rw [← hAged]
  exact List.filter_sublist.map Neighbor.address

/- The table after a node in range was heard or reached. -/
theorem NeighborTable.Vicinal.upsert
    {setup : Setup}
    {index : Nat}
    {t : NeighborTable}
    (hVicinal : t.Vicinal setup index)
    {newcomer : Neighbor}
    (hNear : setup.Near index newcomer.address)
    {change : Neighbor → Neighbor}
    (hKeep : ∀ n, (change n).address = n.address) :
    (t.upsert newcomer change).Vicinal setup index := by
  constructor
  · exact nodup_upsert hVicinal.nodup newcomer hKeep
  · intro a hMem
    rcases addresses_upsert t newcomer hKeep with
      hSame | ⟨-, hMore⟩
    · exact hVicinal.near a (hSame ▸ hMem)
    · rw [hMore, List.mem_append] at hMem
      rcases hMem with hOld | hNew
      · exact hVicinal.near a hOld
      · rw [List.mem_singleton.mp hNew]
        exact hNear
  · exact (lifetime_upsert t _ _).trans hVicinal.lifetime

/- A table stays vicinal when an event tells of near nodes. -/
theorem Connection.vicinal_neighborsAfter
    {setup : Setup}
    {index : Nat}
    {c : Connection}
    (hVicinal : c.neighbors.Vicinal setup index)
    {event : Event}
    (hNear :
      ∀ a, event.subject? = some a → setup.Near index a) :
    (c.neighborsAfter event).Vicinal setup index := by
  cases event with
  | received sender packet => exact hVicinal
  | sent receiver outcome transmissions =>
      unfold neighborsAfter
      by_cases hAcked : outcome = .acked
      · simp only [if_pos hAcked]
        rw [noteAcknowledged_eq_upsert]
        exact hVicinal.upsert (hNear receiver rfl)
          (fun _ => rfl)
      · simp only [if_neg hAcked]
        have hSame :
            (c.neighbors.recordFailure receiver
                (max transmissions 1)).2.addresses =
              c.neighbors.addresses := by
          apply NeighborTable.map_address_modifyEntry
          intro n
          rfl
        constructor
        · rw [hSame]
          exact hVicinal.nodup
        · rw [hSame]
          exact hVicinal.near
        · exact hVicinal.lifetime
  | announced sender metric =>
      unfold neighborsAfter
      by_cases hOwn : sender = c.address
      · simp only [if_pos hOwn]
        exact hVicinal
      · simp only [if_neg hOwn]
        rw [noteAnnounced_eq_upsert]
        exact hVicinal.upsert (hNear sender rfl)
          (fun _ => rfl)
  | elapsed time =>
      have hLess :=
        NeighborTable.addresses_tick_sublist c.neighbors time
      constructor
      · exact hVicinal.nodup.sublist hLess
      · intro a hMem
        exact hVicinal.near a (hLess.subset hMem)
      · exact hVicinal.lifetime

------------------------------------------------------------
-- Nodes
------------------------------------------------------------

namespace Node

theorem Rerouted.neighbors_eq
    {index : Nat}
    {node next : Node}
    {d : Connection}
    {requests : List Request}
    (hRerouted : Rerouted index node d next requests) :
    next.connection.neighbors = d.neighbors := by
  cases hRerouted <;> rfl

/- A ready node learns what an event tells it. -/
theorem Handling.neighbors_eq
    {index : Nat}
    {node next : Node}
    {event : Event}
    {requests : List Request}
    (hHandling : Handling index node event next requests) :
    next.connection.neighbors =
      node.connection.neighborsAfter event := by
  cases hHandling with
  | echoed sender metric hOwn => exact (if_pos hOwn).symm
  | heard sender metric hOther next requests hRerouted =>
      rw [hRerouted.neighbors_eq]
      exact (if_neg hOther).symm
  | aged time next requests hRerouted =>
      exact hRerouted.neighbors_eq
  | concluded receiver outcome transmissions next requests
      hRerouted =>
      rw [hRerouted.neighbors_eq]
      unfold Connection.concluded Connection.neighborsAfter
      by_cases hAcked : outcome = .acked
      · simp only [if_pos hAcked]
      · simp only [if_neg hAcked]
  | received sender packet outcome hReception =>
      cases hReception <;> rfl

theorem Reporting.neighbors_eq
    {index : Nat}
    {node next : Node}
    {packet : Packet}
    {requests : List Request}
    {reply : Reply}
    (hReporting :
      Reporting index node packet next requests reply) :
    next.connection.neighbors =
      node.connection.neighbors := by
  cases hReporting <;> rfl

theorem Rerouted.nextHop?_eq_none
    {index : Nat}
    {node next : Node}
    {d : Connection}
    {requests : List Request}
    (hRerouted : Rerouted index node d next requests)
    {request : Request}
    (hMem : request ∈ requests) :
    request.nextHop? = none := by
  cases hRerouted with
  | kept => contradiction
  | changed =>
      rw [List.mem_singleton] at hMem
      rw [hMem]
      rfl

theorem Handling.mem_addresses
    {index : Nat}
    {node next : Node}
    {event : Event}
    {requests : List Request}
    (hHandling : Handling index node event next requests)
    {request : Request}
    (hMem : request ∈ requests)
    {a : Address}
    (hNextHop : request.nextHop? = some a) :
    a ∈ node.connection.neighbors.addresses := by
  cases hHandling with
  | echoed => contradiction
  | heard _ _ _ _ _ hRerouted =>
      rw [hRerouted.nextHop?_eq_none hMem] at hNextHop
      contradiction
  | aged _ _ _ hRerouted =>
      rw [hRerouted.nextHop?_eq_none hMem] at hNextHop
      contradiction
  | concluded _ _ _ _ _ hRerouted =>
      rw [hRerouted.nextHop?_eq_none hMem] at hNextHop
      contradiction
  | received sender packet outcome hReception =>
      cases hReception with
      | refused _ _ _ _ _ _ _ _ failure hAnswer =>
          contradiction
      | relayed _ _ _ _ _ n hBest =>
          rw [show (carriedOut index node _).2 =
            [Request.unicast index _] from rfl,
            List.mem_singleton] at hMem
          subst hMem
          rw [← Option.some.inj hNextHop]
          exact NeighborTable.mem_addresses_of_best hBest
      | _ => contradiction

theorem Reporting.mem_addresses
    {index : Nat}
    {node next : Node}
    {packet : Packet}
    {requests : List Request}
    {reply : Reply}
    (hReporting :
      Reporting index node packet next requests reply)
    {request : Request}
    (hMem : request ∈ requests)
    {a : Address}
    (hNextHop : request.nextHop? = some a) :
    a ∈ node.connection.neighbors.addresses := by
  cases hReporting with
  | dropped =>
      rw [List.mem_singleton] at hMem
      subst hMem
      contradiction
  | handedOver n hBest =>
      rw [List.mem_singleton] at hMem
      subst hMem
      rw [← Option.some.inj hNextHop]
      exact NeighborTable.mem_addresses_of_best hBest

end Node

namespace Simulation

variable {γ : Type}

------------------------------------------------------------
-- News
------------------------------------------------------------

/- A node is told a metric by a node in range. -/
structure IsNews
    (s : Simulation γ)
    (sender : Nat)
    (metric : Metric)
    (event : Nat × Event) : Prop where
  listening : event.1 < s.nodes.size
  speaking : sender < s.nodes.size
  inRange : s.setup.inRange event.1 sender = true
  tells : event.2 = .announced (addressOf sender) metric

section News

variable [LossSource γ]

/- A broadcast tells nodes in range of its sender. -/
theorem broadcast_news
    {s : Simulation γ}
    {sender : Nat}
    (hSender : sender < s.nodes.size)
    (metric : Metric) :
    ∃ more,
      (s.broadcast sender metric).events.toList =
          s.events.toList ++ more ∧
        more.length ≤ s.nodes.size ∧
        ∀ event ∈ more, s.IsNews sender metric event := by
  have hHeard :=
    survivors_sublist (s.hearers sender) s.losses
  refine ⟨_, Queue.toList_pushAll _ _, ?_, ?_⟩
  · have hHearers :
        (s.hearers sender).length ≤ s.nodes.size := by
      unfold hearers
      apply Nat.le_trans (List.length_filter_le _ _)
      exact Nat.le_of_eq List.length_range
    rw [List.length_map]
    exact Nat.le_trans hHeard.length_le hHearers
  · intro event hMem
    rcases List.mem_map.mp hMem with ⟨index, hIndex, rfl⟩
    rcases mem_hearers.mp (hHeard.subset hIndex) with
      ⟨hBound, hRange⟩
    exact
      { listening := hBound
        speaking := hSender
        inRange := hRange
        tells := rfl }

/- Only a node that announces something has a beacon. -/
theorem beacon_news
    (s : Simulation γ)
    (index : Nat) :
    ∃ more,
      (s.beacon index).events.toList =
          s.events.toList ++ more ∧
        ∀ event ∈ more, ∃ metric,
          s.announced? index = some metric ∧
            s.IsNews index metric event := by
  unfold beacon
  cases hMetric : s.announced? index with
  | none => exact ⟨[], by simp, by simp⟩
  | some metric =>
      have hIndex : index < s.nodes.size := by
        unfold announced? at hMetric
        cases hNode : s.nodes[index]? with
        | none => simp [hNode] at hMetric
        | some node =>
            exact (Array.getElem?_eq_some_iff.mp hNode).1
      rcases broadcast_news hIndex metric with
        ⟨more, hEvents, -, hNews⟩
      refine ⟨more, hEvents, ?_⟩
      intro event hMem
      exact ⟨metric, rfl, hNews event hMem⟩

/- A listener is told of nodes in range that announce. -/
theorem serveListen_news
    {s : Simulation γ}
    {listener : Nat}
    (hListener : listener < s.nodes.size)
    (bursts : Nat) :
    ∃ more,
      (s.serveListen listener bursts).events.toList =
          s.events.toList ++ more ∧
        ∀ event ∈ more, ∃ sender metric,
          s.announced? sender = some metric ∧
            s.IsNews sender metric event := by
  refine ⟨_, Queue.toList_pushAll _ _, ?_⟩
  intro event hMem
  rcases List.mem_map.mp hMem with
    ⟨⟨sender, metric⟩, hHeard, rfl⟩
  have hBeacon :=
    (survivors_sublist
      (List.replicate bursts (s.audible listener)).flatten
      s.losses).subset hHeard
  rcases List.mem_flatten.mp hBeacon with
    ⟨burst, hBurst, hMember⟩
  rw [List.eq_of_mem_replicate hBurst] at hMember
  rcases List.mem_filterMap.mp hMember with
    ⟨index, hHearer, hMetric⟩
  rcases Option.map_eq_some_iff.mp hMetric with
    ⟨announced, hAnnounced, hEq⟩
  simp only [Prod.mk.injEq] at hEq
  obtain ⟨rfl, rfl⟩ := hEq
  obtain ⟨hSender, hRange⟩ := mem_hearers.mp hHearer
  rw [s.setup.inRange_comm] at hRange
  refine ⟨index, announced, hAnnounced, ?_⟩
  exact
    { listening := hListener
      speaking := hSender
      inRange := hRange
      tells := rfl }

end News

------------------------------------------------------------
-- Served Requests
------------------------------------------------------------

/-
  What serving a request adds to the events: what nodes in
  range are told, or what becomes of a packet.
-/
inductive Adds
    (s : Simulation γ) :
    Request → Nat × Event → Prop
  | spoken
      (sender : Nat)
      (metric : Metric)
      (event : Nat × Event)
      (hNews : s.IsNews sender metric event) :
      Adds s (.announce sender metric) event
  | heard
      (listener : Nat)
      (bursts : UInt8)
      (sender : Nat)
      (metric : Metric)
      (event : Nat × Event)
      (hMetric : s.announced? sender = some metric)
      (hNews : s.IsNews sender metric event) :
      Adds s (.listen listener bursts) event
  | received
      (sender : Nat)
      (handover : Handover)
      (index : Nat)
      (hReceiver :
        s.receiver? sender handover.nextHop = some index) :
      Adds s (.unicast sender handover)
        (index,
          .received (addressOf sender) handover.packet)
  | concluded
      (sender : Nat)
      (handover : Handover)
      (outcome : TxOutcome)
      (transmissions : UInt8) :
      Adds s (.unicast sender handover)
        (sender,
          .sent handover.nextHop outcome transmissions)

/- The first request in the queue was served. -/
structure Served
    (s t : Simulation γ)
    (request : Request) : Prop where
  outbox : s.outbox.toList = request :: t.outbox.toList
  events :
    ∃ more,
      t.events.toList = s.events.toList ++ more ∧
        ∀ event ∈ more, s.Adds request event
  setup : t.setup = s.setup
  nodes : t.nodes = s.nodes
  steps : t.steps = s.steps

theorem Served.mem
    {s t : Simulation γ}
    {request : Request}
    (hServed : Served s t request) :
    request ∈ s.outbox.toList := by
  rw [hServed.outbox]
  exact List.mem_cons_self

theorem Served.mem_of_mem
    {s t : Simulation γ}
    {request : Request}
    (hServed : Served s t request)
    {other : Request}
    (hMem : other ∈ t.outbox.toList) :
    other ∈ s.outbox.toList := by
  rw [hServed.outbox]
  exact List.mem_cons_of_mem request hMem

theorem served_of_outbox
    [LossSource γ]
    {s : Simulation γ}
    {request : Request}
    {outbox : Queue Request}
    (hOutbox :
      s.outbox.toList = request :: outbox.toList)
    (hNode : request.node < s.nodes.size) :
    Served s (serve { s with outbox := outbox } request)
      request := by
  have hClock :=
    clock_serve { s with outbox := outbox } request
  have hSetup := (Prod.mk.inj hClock).1
  have hSteps := (Prod.mk.inj (Prod.mk.inj hClock).2).1
  cases request with
  | announce sender metric =>
      rcases broadcast_news
        (s := { s with outbox := outbox }) hNode metric with
        ⟨more, hEvents, -, hNews⟩
      refine
        ⟨hOutbox, ⟨more, hEvents, ?_⟩, hSetup, rfl, hSteps⟩
      intro event hMem
      exact
        .spoken sender metric event
          { hNews event hMem with }
  | listen listener bursts =>
      rcases serveListen_news
        (s := { s with outbox := outbox }) hNode
        bursts.toNat with ⟨more, hEvents, hNews⟩
      refine
        ⟨hOutbox, ⟨more, hEvents, ?_⟩, hSetup, rfl, hSteps⟩
      intro event hMem
      rcases hNews event hMem with
        ⟨sender, metric, hMetric, hTells⟩
      exact
        .heard listener bursts sender metric event hMetric
          { hTells with }
  | unicast sender handover =>
      obtain ⟨-, hNodes, hSame, -⟩ :=
        serveUnicast_frame { s with outbox := outbox } sender
          handover
      have hRest :
          s.outbox.toList =
            .unicast sender handover ::
              (serve { s with outbox := outbox }
                (.unicast sender
                  handover)).outbox.toList := by
        rw [hOutbox]
        exact congrArg (_ :: Queue.toList ·) hSame.symm
      rcases serveUnicast_cases { s with outbox := outbox }
        sender handover with
        ⟨index, transmissions, hReceiver, hEvents, -⟩ |
        ⟨transmissions, hEvents, -⟩
      · refine
          ⟨hRest, ⟨_, hEvents, ?_⟩, hSetup, hNodes, hSteps⟩
        intro event hMem
        rw [List.mem_cons, List.mem_singleton] at hMem
        rcases hMem with rfl | rfl
        · exact .received sender handover index hReceiver
        · exact .concluded sender handover _ _
      · refine
          ⟨hRest, ⟨_, hEvents, ?_⟩, hSetup, hNodes, hSteps⟩
        intro event hMem
        rw [List.mem_singleton] at hMem
        subst hMem
        exact .concluded sender handover _ _

/- A turn serves a request, or hands an event to its node. -/
theorem served_or_dispatched
    [LossSource γ]
    {s t : Simulation γ}
    (hSound : s.Sound)
    (hTurn : s.turn? = some t) :
    (∃ request, Served s t request) ∨
      ∃ index event node next,
        Dispatched s t index event node next := by
  rcases turn_cases hSound hTurn with
    ⟨request, outbox, hOutbox, rfl⟩ | hDispatched
  · apply Or.inl
    refine ⟨request, served_of_outbox hOutbox ?_⟩
    apply hSound.requests request
    rw [hOutbox]
    exact List.mem_cons_self
  · exact Or.inr hDispatched

------------------------------------------------------------
-- Vicinal Simulations
------------------------------------------------------------

/-
  All tables are vicinal, packets are for nodes in range,
  and events tell of nodes in range.
-/
structure Vicinal
    (setup : Setup)
    (s : Simulation γ) : Prop where
  setup_eq : s.setup = setup
  size : s.nodes.size = setup.nodeCount.toNat
  tables :
    ∀ (index : Nat) (node : Node),
      s.nodes[index]? = some node →
        node.connection.neighbors.Vicinal setup index
  requests :
    ∀ request ∈ s.outbox.toList, ∀ a,
      request.nextHop? = some a →
        setup.Near request.node a
  events :
    ∀ event ∈ s.events.toList, ∀ a,
      event.2.subject? = some a →
        setup.Near event.1 a

/- News tell of the node that they come from. -/
theorem Vicinal.near_of_news
    {setup : Setup}
    {s : Simulation γ}
    (hVicinal : s.Vicinal setup)
    {sender : Nat}
    {metric : Metric}
    {event : Nat × Event}
    (hNews : s.IsNews sender metric event)
    {a : Address}
    (hSubject : event.2.subject? = some a) :
    setup.Near event.1 a := by
  rw [hNews.tells] at hSubject
  have hSender := hNews.speaking
  have hRange := hNews.inRange
  rw [hVicinal.size] at hSender
  rw [hVicinal.setup_eq] at hRange
  exact
    ⟨sender, hSender, hRange,
      (Option.some.inj hSubject).symm⟩

/- Nodes stay as they are, and events about near ones come. -/
theorem Vicinal.of_nodes_eq
    {setup : Setup}
    {s t : Simulation γ}
    (hVicinal : s.Vicinal setup)
    (hSetup : t.setup = s.setup)
    (hNodes : t.nodes = s.nodes)
    (hRequests :
      ∀ request ∈ t.outbox.toList,
        request ∈ s.outbox.toList)
    {more : List (Nat × Event)}
    (hEvents : t.events.toList = s.events.toList ++ more)
    (hMore :
      ∀ event ∈ more, ∀ a,
        event.2.subject? = some a →
          setup.Near event.1 a) :
    t.Vicinal setup := by
  constructor
  · exact hSetup.trans hVicinal.setup_eq
  · rw [hNodes]
    exact hVicinal.size
  · rw [hNodes]
    exact hVicinal.tables
  · intro request hMem
    exact hVicinal.requests request (hRequests request hMem)
  · intro event hMem
    rw [hEvents, List.mem_append] at hMem
    rcases hMem with hOld | hNew
    · exact hVicinal.events event hOld
    · exact hMore event hNew

/- One node has another table, and has packets for others. -/
theorem Vicinal.of_set
    {setup : Setup}
    {s t : Simulation γ}
    (hVicinal : s.Vicinal setup)
    {index : Nat}
    {next : Node}
    {requests : List Request}
    (hSetup : t.setup = s.setup)
    (hNodes : t.nodes = s.nodes.setIfInBounds index next)
    (hTable :
      next.connection.neighbors.Vicinal setup index)
    (hOutbox :
      t.outbox.toList = s.outbox.toList ++ requests)
    (hRequests :
      ∀ request ∈ requests, ∀ a,
        request.nextHop? = some a →
          setup.Near request.node a)
    (hEvents :
      ∀ event ∈ t.events.toList,
        event ∈ s.events.toList) :
    t.Vicinal setup := by
  constructor
  · exact hSetup.trans hVicinal.setup_eq
  · rw [hNodes, Array.size_setIfInBounds]
    exact hVicinal.size
  · intro other node hNode
    rcases node_cases hNodes hNode with
      ⟨rfl, rfl⟩ | ⟨-, hOld⟩
    · exact hTable
    · exact hVicinal.tables other node hOld
  · intro request hMem
    rw [hOutbox, List.mem_append] at hMem
    rcases hMem with hOld | hNew
    · exact hVicinal.requests request hOld
    · exact hRequests request hNew
  · intro event hMem
    exact hVicinal.events event (hEvents event hMem)

theorem Vicinal.of_dispatched
    {setup : Setup}
    {s t : Simulation γ}
    (hVicinal : s.Vicinal setup)
    {index : Nat}
    {event : Event}
    {node next : Node}
    (hDispatched : Dispatched s t index event node next) :
    t.Vicinal setup := by
  have hTable :=
    hVicinal.tables index node hDispatched.found
  have hHandling := hDispatched.handling
  have hMem : (index, event) ∈ s.events.toList := by
    rw [hDispatched.events]
    exact List.mem_cons_self
  have hOutbox :
      t.outbox.toList =
        s.outbox.toList ++ t.outbox.toList := by
    rw [hDispatched.outbox, List.nil_append]
  refine hVicinal.of_set hDispatched.setup hDispatched.nodes
    ?_ hOutbox ?_ ?_
  · rw [hHandling.neighbors_eq]
    exact Connection.vicinal_neighborsAfter hTable
      (hVicinal.events (index, event) hMem)
  · intro request hRequest a hNextHop
    rw [hHandling.node_of_mem hRequest]
    exact hTable.near a
      (hHandling.mem_addresses hRequest hNextHop)
  · intro other hOther
    rw [hDispatched.events]
    exact List.mem_cons_of_mem _ hOther

theorem Vicinal.of_reported
    {setup : Setup}
    {s t : Simulation γ}
    (hVicinal : s.Vicinal setup)
    {index : Nat}
    {node next : Node}
    {requests : List Request}
    {reply : Reply}
    (hReported :
      Reported s t index node next requests reply) :
    t.Vicinal setup := by
  have hTable := hVicinal.tables index node hReported.found
  have hReporting := hReported.reporting
  refine hVicinal.of_set hReported.setup hReported.nodes ?_
    hReported.outbox ?_ ?_
  · rw [hReporting.neighbors_eq]
    exact hTable
  · intro request hRequest a hNextHop
    rw [hReporting.node_of_mem hRequest]
    exact hTable.near a
      (hReporting.mem_addresses hRequest hNextHop)
  · intro event hMem
    rw [← hReported.events]
    exact hMem

/- What is added is about nodes in range. -/
theorem Vicinal.near_of_adds
    {setup : Setup}
    {s : Simulation γ}
    (hVicinal : s.Vicinal setup)
    {request : Request}
    (hMem : request ∈ s.outbox.toList)
    {event : Nat × Event}
    (hAdds : s.Adds request event)
    {a : Address}
    (hSubject : event.2.subject? = some a) :
    setup.Near event.1 a := by
  cases hAdds with
  | spoken _ _ _ hNews =>
      exact hVicinal.near_of_news hNews hSubject
  | heard _ _ _ _ _ _ hNews =>
      exact hVicinal.near_of_news hNews hSubject
  | received => contradiction
  | concluded sender handover =>
      rw [← Option.some.inj hSubject]
      exact hVicinal.requests _ hMem _ rfl

theorem Vicinal.served
    {setup : Setup}
    {s t : Simulation γ}
    (hVicinal : s.Vicinal setup)
    {request : Request}
    (hServed : Served s t request) :
    t.Vicinal setup := by
  obtain ⟨more, hEvents, hAdds⟩ := hServed.events
  refine hVicinal.of_nodes_eq hServed.setup hServed.nodes
    (fun other hMem => hServed.mem_of_mem hMem) hEvents ?_
  intro event hMem a hSubject
  exact
    hVicinal.near_of_adds hServed.mem (hAdds event hMem)
      hSubject

section Runs

variable [LossSource γ]

theorem Vicinal.next
    {setup : Setup}
    {s t : Simulation γ}
    (hVicinal : s.Vicinal setup)
    (hSound : s.Sound)
    (hNext : Next s t) :
    t.Vicinal setup := by
  cases hNext with
  | tick =>
      refine hVicinal.of_nodes_eq rfl rfl
        (fun request hMem => hMem)
        (Queue.toList_pushAll _ _) ?_
      intro event hMem a hSubject
      rcases List.mem_map.mp hMem with ⟨index, -, rfl⟩
      contradiction
  | beacon index =>
      rcases beacon_news s index with
        ⟨more, hEvents, hNews⟩
      obtain ⟨hSetup, hNodes, hOutbox, -⟩ :=
        beacon_frame s index
      refine hVicinal.of_nodes_eq hSetup hNodes ?_ hEvents ?_
      · intro request hMem
        exact hOutbox ▸ hMem
      · intro event hMem a hSubject
        rcases hNews event hMem with ⟨metric, -, hTells⟩
        exact hVicinal.near_of_news hTells hSubject
  | report index =>
      rcases report_cases (hSound.ready index) with
        ⟨hSame, -⟩ |
        ⟨node, next, requests, reply, hReported⟩
      · rw [hSame]
        exact hVicinal
      · exact hVicinal.of_reported hReported
  | turn _ hTurn =>
      rcases served_or_dispatched hSound hTurn with
        ⟨request, hServed⟩ |
        ⟨index, event, node, next, hDispatched⟩
      · exact hVicinal.served hServed
      · exact hVicinal.of_dispatched hDispatched

omit [LossSource γ] in
/- Nobody knows anybody at the start. -/
theorem vicinal_start
    (setup : Setup)
    (losses : γ) :
    (start setup losses).Vicinal setup := by
  constructor
  · rw [start_frame]
    rfl
  · exact size_nodes_start setup losses
  · intro index node hNode
    rw [nodes_start] at hNode
    split at hNode
    next =>
      have hFirst :
          (firstNode setup index).connection.neighbors =
            NeighborTable.empty
              setup.collect.neighborCapacity.toNat
              setup.collect.neighborLifetime.toNat := by
        unfold firstNode
        split <;> rfl
      rw [← Option.some.inj hNode, hFirst]
      exact
        { nodup := List.nodup_nil
          near := fun a hMem =>
            absurd hMem List.not_mem_nil
          lifetime := rfl }
    next => contradiction
  · intro request hMem a hNextHop
    rw [outbox_start] at hMem
    have hRouting := (mem_firstRequests hMem).2
    cases request with
    | unicast sender handover => contradiction
    | announce sender metric => contradiction
    | listen listener bursts => contradiction
  · intro event hMem
    rw [events_start] at hMem
    contradiction

/- In a run, nodes know of nodes in range only. -/
theorem vicinal_of_reaches
    {setup : Setup}
    {losses : γ}
    {s : Simulation γ}
    (hReaches : Reaches (start setup losses) s) :
    s.Vicinal setup := by
  induction hReaches with
  | refl => exact vicinal_start setup losses
  | tail hBefore hNext ih =>
      exact ih.next
        (Reaches.sound hBefore (sound_start setup losses))
        hNext

end Runs

end Simulation

end CollectionTree
