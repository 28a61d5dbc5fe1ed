import CollectionTree.Proofs.Simulation.Journal
import Mathlib.Data.List.Perm.Basic

/-
  The ways that packets take through a simulation.

  Key definitions include:
    * `Reading.packet`
    * `Simulation.underWay`
    * `Simulation.Configured`
    * `Simulation.Passage`

  Key theorems include:
    * `Simulation.configured_of_reaches`
    * `Simulation.Noted.passage`

  There is never more than one copy of a packet: it waits to
  be transmitted or to be taken by a node, and what is taken
  is received, passed on or forgotten.
-/

namespace CollectionTree

------------------------------------------------------------
-- Packets That Wait
------------------------------------------------------------

/- The packet that a reading is sent in. -/
def Reading.packet
    (setup : Setup)
    (nextHop : Address)
    (r : Reading) : Packet :=
  { originator := Simulation.addressOf r.index
    sender := Simulation.addressOf r.index
    receiver := nextHop
    seqno := r.seqno
    hops := 1
    ttl := setup.collect.maxHopLimit
    maxRexmit := setup.maxRexmit
    payload := r.payload }

/- The packet that an event brings to a node. -/
def Event.packet? : Event → Option Packet
  | .received _ packet => some packet
  | _ => none

/- The packets that some requests are about. -/
def packetsAsked
    (requests : List Request) : List Packet :=
  (requests.filterMap Request.handover?).map
    Handover.packet

/- The packets that some events bring. -/
def packetsBrought
    (events : List (Nat × Event)) : List Packet :=
  events.filterMap (fun event => event.2.packet?)

theorem packetsBrought_append
    (events more : List (Nat × Event)) :
    packetsBrought (events ++ more) =
      packetsBrought events ++ packetsBrought more :=
  List.filterMap_append

theorem packetsBrought_eq_nil
    {events : List (Nat × Event)}
    (hRouting :
      ∀ event ∈ events, event.2.isRouting = true) :
    packetsBrought events = [] := by
  unfold packetsBrought
  rw [List.filterMap_eq_nil_iff]
  intro event hMem
  have hEvent := hRouting event hMem
  cases hKind : event.2 with
  | received sender packet =>
      rw [hKind] at hEvent
      contradiction
  | _ => rfl

theorem packetsAsked_eq_nil
    {requests : List Request}
    (hNone : requests.filterMap Request.handover? = []) :
    packetsAsked requests = [] := by
  unfold packetsAsked
  rw [hNone]
  rfl

/- Bringing the metric up to date has to do with no packet. -/
theorem Node.Rerouted.packets
    {index : Nat}
    {node next : Node}
    {d : Connection}
    {requests : List Request}
    (hRerouted : Rerouted index node d next requests) :
    requests.filterMap Request.handover? = [] ∧
      next.received = node.received := by
  cases hRerouted with
  | kept => exact ⟨rfl, rfl⟩
  | changed => exact ⟨rfl, rfl⟩

namespace Simulation

variable {γ : Type}

/-
  The packets on their way: those that wait to be
  transmitted, and those that wait to be taken by a node.
-/
def underWay
    (s : Simulation γ) : List Packet :=
  packetsAsked s.outbox.toList ++
    packetsBrought s.events.toList

theorem underWay_of_airs
    {s t : Simulation γ}
    (hAirs : Airs s t)
    (hOutbox :
      packetsAsked t.outbox.toList =
        packetsAsked s.outbox.toList) :
    t.underWay = s.underWay := by
  rcases hAirs.events with ⟨more, hEvents, hMore⟩
  have hNone : packetsBrought more = [] :=
    packetsBrought_eq_nil
      (fun event hMem => (hMore event hMem).2)
  unfold underWay
  rw [hOutbox, hEvents, packetsBrought_append, hNone,
    List.append_nil]

/- A request for a packet and then its arrival are one. -/
theorem perm_of_transmitted
    {s t : Simulation γ}
    {sender : Nat}
    {handover : Handover}
    {more : List (Nat × Event)}
    (hOutbox :
      s.outbox.toList =
        .unicast sender handover :: t.outbox.toList)
    (hEvents :
      t.events.toList = s.events.toList ++ more) :
    (handover.packet :: t.underWay).Perm
      (s.underWay ++ packetsBrought more) := by
  unfold underWay
  rw [hOutbox, hEvents, packetsBrought_append,
    ← List.append_assoc]
  exact .refl _

theorem underWay_of_dispatched
    {s t : Simulation γ}
    {index : Nat}
    {event : Event}
    {node next : Node}
    (hDispatched : Dispatched s t index event node next) :
    s.underWay =
      event.packet?.toList ++
        packetsBrought t.events.toList := by
  unfold underWay packetsBrought
  rw [hDispatched.outbox, hDispatched.events,
    List.filterMap_cons]
  cases event.packet? <;> rfl

------------------------------------------------------------
-- Packets That Were Received
------------------------------------------------------------

theorem deliveries_of_nodes_eq
    {s t : Simulation γ}
    (hNodes : t.nodes = s.nodes) :
    t.deliveries = s.deliveries := by
  unfold deliveries
  rw [hNodes]

theorem deliveries_of_set
    {s t : Simulation γ}
    {index : Nat}
    {node next : Node}
    (hFound : s.nodes[index]? = some node)
    (hNodes : t.nodes = s.nodes.setIfInBounds index next)
    (hSame : next.received = node.received) :
    t.deliveries = s.deliveries := by
  have hSize := (Array.getElem?_eq_some_iff.mp hFound).1
  unfold deliveries
  rw [hNodes, Array.getElem?_setIfInBounds]
  by_cases hZero : index = 0
  · subst hZero
    rw [if_pos rfl, if_pos hSize, hFound]
    exact congrArg Queue.toList hSame
  · rw [if_neg hZero]

theorem deliveries_of_received
    {s t : Simulation γ}
    {node next : Node}
    {delivery : Delivery}
    (hFound : s.nodes[0]? = some node)
    (hNodes : t.nodes = s.nodes.setIfInBounds 0 next)
    (hReceived :
      next.received = node.received.push delivery) :
    t.deliveries = s.deliveries ++ [delivery] := by
  have hSize := (Array.getElem?_eq_some_iff.mp hFound).1
  unfold deliveries
  rw [hNodes, Array.getElem?_setIfInBounds, if_pos rfl,
    if_pos hSize, hFound]
  change next.received.toList = node.received.toList ++ _
  rw [hReceived, Queue.toList_push]

------------------------------------------------------------
-- The Settings of Nodes
------------------------------------------------------------

/- All nodes have the settings of the simulation. -/
def Configured
    (s : Simulation γ) : Prop :=
  ∀ (index : Nat) (node : Node),
    s.nodes[index]? = some node →
      node.connection.config = s.setup.collect

theorem Configured.of_set
    {s t : Simulation γ}
    (hConfigured : s.Configured)
    {index : Nat}
    {node next : Node}
    (hFound : s.nodes[index]? = some node)
    (hNodes : t.nodes = s.nodes.setIfInBounds index next)
    (hSetup : t.setup = s.setup)
    (hSame :
      next.connection.config = node.connection.config) :
    t.Configured := by
  intro other changed hChanged
  rw [hSetup]
  rcases node_cases hNodes hChanged with
    ⟨rfl, rfl⟩ | ⟨-, hOld⟩
  · rw [hSame]
    exact hConfigured other node hFound
  · exact hConfigured other changed hOld

theorem config_of_handling
    {index : Nat}
    {node next : Node}
    {event : Event}
    {requests : List Request}
    (hHandling :
      node.Handling index event next requests) :
    next.connection.config = node.connection.config := by
  cases hHandling with
  | echoed => rfl
  | heard _ _ _ _ _ hRerouted => cases hRerouted <;> rfl
  | aged _ _ _ hRerouted => cases hRerouted <;> rfl
  | concluded _ outcome _ _ _ hRerouted =>
      unfold Connection.concluded at hRerouted
      split at hRerouted <;> cases hRerouted <;> rfl
  | received sender packet outcome hReception =>
      cases hReception <;> rfl

theorem config_of_reporting
    {index : Nat}
    {node next : Node}
    {packet : Packet}
    {requests : List Request}
    {reply : Reply}
    (hReporting :
      node.Reporting index packet next requests reply) :
    next.connection.config = node.connection.config := by
  cases hReporting <;> rfl

theorem Move.configured
    {s t : Simulation γ}
    (hMove : Move s t)
    (hConfigured : s.Configured) :
    t.Configured := by
  have hSetup := hMove.setup_eq
  have hKept : t.nodes = s.nodes → t.Configured := by
    intro hNodes
    unfold Configured
    rw [hNodes, hSetup]
    exact hConfigured
  cases hMove with
  | aired hAirs _ => exact hKept hAirs.nodes
  | served _ _ _ hAirs => exact hKept hAirs.nodes
  | delivered _ _ _ _ _ _ _ _ hNodes => exact hKept hNodes
  | lost _ _ _ _ _ _ hNodes => exact hKept hNodes
  | handled index event node next hDispatched =>
      exact hConfigured.of_set hDispatched.found
        hDispatched.nodes hSetup
        (config_of_handling hDispatched.handling)
  | reported index node next requests reply hReported =>
      exact hConfigured.of_set hReported.found
        hReported.nodes hSetup
        (config_of_reporting hReported.reporting)

theorem configured_start
    (setup : Setup)
    (losses : γ) :
    (start setup losses).Configured := by
  intro index node hNode
  rw [nodes_start] at hNode
  split at hNode
  · rw [← Option.some.inj hNode, start_frame]
    unfold firstNode
    split <;> rfl
  · contradiction

theorem configured_of_reaches
    [LossSource γ]
    {setup : Setup}
    {losses : γ}
    {s : Simulation γ}
    (hReaches : Reaches (start setup losses) s) :
    s.Configured :=
  (hReaches.invariant
    (fun _ _ _ hConfigured hMove =>
      hMove.configured hConfigured)
    (sound_start setup losses)
    (configured_start setup losses)).2

------------------------------------------------------------
-- Passages
------------------------------------------------------------

/-
  What becomes of the packets on their way, and the entries
  that are made of it.
-/
inductive Passage
    (s t : Simulation γ) :
    List Entry → Prop
  | kept
      (hSame : t.underWay.Perm s.underWay)
      (hDeliveries : t.deliveries = s.deliveries) :
      Passage s t []
  | ended
      (packet : Packet)
      (hLeft : s.underWay.Perm (packet :: t.underWay))
      (hDeliveries : t.deliveries = s.deliveries) :
      Passage s t []
  | delivered
      (packet : Packet)
      (hLeft : s.underWay.Perm (packet :: t.underWay))
      (hDelivered :
        t.deliveries =
          s.deliveries ++ [Connection.delivery packet]) :
      Passage s t []
  | relayed
      (index : Nat)
      (packet : Packet)
      (handover : Handover)
      (rest : List Packet)
      (hFound : s.underWay.Perm (packet :: rest))
      (hTtl : ¬ packet.ttl ≤ 1)
      (hPacket :
        handover.packet =
          { Connection.advance packet with
            sender := addressOf index
            receiver := handover.nextHop })
      (hPassedOn :
        t.underWay.Perm (handover.packet :: rest))
      (hDeliveries : t.deliveries = s.deliveries) :
      Passage s t [.handed index handover]
  | unrouted
      (r : Reading)
      (hReply : r.reply = .sent .droppedNoRoute)
      (hSame : t.underWay = s.underWay)
      (hDeliveries : t.deliveries = s.deliveries) :
      Passage s t [.sent r]
  | originated
      (r : Reading)
      (handover : Handover)
      (hReply :
        r.reply = .sent (.forwarded handover.nextHop))
      (hPacket :
        handover.packet =
          r.packet s.setup handover.nextHop)
      (hAdded :
        t.underWay.Perm (handover.packet :: s.underWay))
      (hDeliveries : t.deliveries = s.deliveries) :
      Passage s t [.sent r, .handed r.index handover]

theorem passage_of_airs
    {s t : Simulation γ}
    (hAirs : Airs s t)
    (hOutbox :
      packetsAsked t.outbox.toList =
        packetsAsked s.outbox.toList) :
    Passage s t [] := by
  apply Passage.kept
  · rw [underWay_of_airs hAirs hOutbox]
  · exact deliveries_of_nodes_eq hAirs.nodes

/- An event that brings no packet leaves packets alone. -/
theorem passage_of_quiet
    {s t : Simulation γ}
    {index : Nat}
    {event : Event}
    {node next : Node}
    (hDispatched : Dispatched s t index event node next)
    (hNone : event.packet? = none)
    (hPackets :
      t.outbox.toList.filterMap Request.handover? = [] ∧
        next.received = node.received) :
    Passage s t
      (entriesOf index
        (t.outbox.toList.filterMap Request.handover?)) := by
  rw [hPackets.1]
  apply Passage.kept
  · rw [underWay_of_dispatched hDispatched, hNone, underWay,
      packetsAsked_eq_nil hPackets.1]
    exact .refl _
  · exact deliveries_of_set hDispatched.found
      hDispatched.nodes hPackets.2

/- A packet that a node takes, by what becomes of it. -/
theorem passage_of_received
    {s t : Simulation γ}
    {index : Nat}
    {sender : Address}
    {packet : Packet}
    {node next : Node}
    (hDispatched :
      Dispatched s t index (.received sender packet) node
        next)
    (hReady : node.Ready index) :
    Passage s t
      (entriesOf index
        (t.outbox.toList.filterMap Request.handover?)) := by
  have hBefore := underWay_of_dispatched hDispatched
  have hFound := hDispatched.found
  have hNodes := hDispatched.nodes
  have hHandling := hDispatched.handling
  -- A packet that is not passed on is on its way no more.
  have hGone :
      t.outbox.toList = [] →
        s.underWay.Perm (packet :: t.underWay) := by
    intro hNone
    rw [hBefore, underWay, hNone]
    exact .refl _
  generalize hRequests : t.outbox.toList = requests
    at hHandling hGone
  cases hHandling with
  | received _ _ outcome hReception =>
      cases hReception with
      | refused _ _ _ _ _ _ _ _ failure hAnswer =>
          contradiction
      | delivered hNew hRole =>
          have hZero := hReady.role_iff.mp hRole
          subst hZero
          exact .delivered packet (hGone rfl)
            (deliveries_of_received hFound hNodes rfl)
      | relayed hNew hRole hTtl hMetric hIdle n hBest hAway =>
          apply Passage.relayed index packet
            (node.connection.handover n.address
              (Connection.advance packet))
            (packetsBrought t.events.toList)
          · rw [hBefore]
            exact .refl _
          · exact hTtl
          · rw [← hReady.address]
            rfl
          · unfold underWay
            rw [hRequests]
            exact .refl _
          · exact deliveries_of_set hFound hNodes rfl
      | _ =>
          exact .ended packet (hGone rfl)
            (deliveries_of_set hFound hNodes rfl)

theorem passage_of_dispatched
    {s t : Simulation γ}
    (hSound : s.Sound)
    {index : Nat}
    {event : Event}
    {node next : Node}
    (hDispatched : Dispatched s t index event node next) :
    Passage s t
      (entriesOf index
        (t.outbox.toList.filterMap Request.handover?)) := by
  have hReady := hSound.ready index node hDispatched.found
  have hHandling := hDispatched.handling
  cases event with
  | received sender packet =>
      exact passage_of_received hDispatched hReady
  | announced sender metric =>
      apply passage_of_quiet hDispatched rfl
      generalize t.outbox.toList = requests at hHandling ⊢
      cases hHandling with
      | echoed => exact ⟨rfl, rfl⟩
      | heard _ _ _ _ _ hRerouted => exact hRerouted.packets
  | elapsed time =>
      apply passage_of_quiet hDispatched rfl
      generalize t.outbox.toList = requests at hHandling ⊢
      cases hHandling with
      | aged _ _ _ hRerouted => exact hRerouted.packets
  | sent receiver outcome transmissions =>
      apply passage_of_quiet hDispatched rfl
      generalize t.outbox.toList = requests at hHandling ⊢
      cases hHandling with
      | concluded _ _ _ _ _ hRerouted =>
          exact hRerouted.packets

theorem passage_of_reported
    {s t : Simulation γ}
    (hSound : s.Sound)
    (hConfigured : s.Configured)
    {index : Nat}
    {node next : Node}
    {requests : List Request}
    {reply : Reply}
    (hReported :
      Reported s t index node next requests reply) :
    Passage s t (s.entriesOfReport index) := by
  have hReady := hSound.ready index node hReported.found
  have hConfig := hConfigured index node hReported.found
  have hReporting := hReported.reporting
  have hOutbox := hReported.outbox
  rw [entriesOfReport_of_reported hSound hReported]
  have hUnderWay :
      t.underWay =
        packetsAsked s.outbox.toList ++
          packetsAsked requests ++
            packetsBrought s.events.toList := by
    unfold underWay packetsAsked
    rw [hReported.outbox, hReported.events,
      List.filterMap_append, List.map_append]
  cases hReporting with
  | dropped hBest =>
      refine Passage.unrouted _ rfl ?_ ?_
      · rw [hUnderWay]
        exact congrArg (· ++ _) (List.append_nil _)
      · exact deliveries_of_set hReported.found
          hReported.nodes rfl
  | handedOver n hBest =>
      refine Passage.originated _
        (node.connection.handover n.address
          (node.connection.originate
            (reading s.steps node.connection.address)
            s.setup.maxRexmit))
        rfl ?_ ?_ ?_
      · unfold Reading.packet
        rw [← hConfig, ← hReady.address]
        rfl
      · rw [hUnderWay, List.append_assoc]
        exact List.perm_middle
      · exact deliveries_of_set hReported.found
          hReported.nodes rfl

section Runs

variable [LossSource γ]

theorem passage_of_request
    {s : Simulation γ}
    (hSound : s.Sound)
    {request : Request}
    {outbox : Queue Request}
    (hOutbox :
      s.outbox.toList = request :: outbox.toList) :
    Passage s (serve { s with outbox := outbox } request)
      [] := by
  cases request with
  | announce sender metric =>
      apply passage_of_airs
      · exact (airs_broadcast { s with outbox := outbox }
          sender metric).of_outbox
      · rw [hOutbox]
        rfl
  | listen listener bursts =>
      have hListener : listener < s.nodes.size :=
        hSound.requests (.listen listener bursts)
          (by simp [hOutbox])
      apply passage_of_airs
      · exact (airs_serveListen
          (s := { s with outbox := outbox }) hListener
          bursts.toNat).of_outbox
      · rw [hOutbox]
        rfl
  | unicast sender handover =>
      rcases serveUnicast_frame { s with outbox := outbox }
        sender handover with
        ⟨-, hNodes, hSame, -, -⟩
      have hRequest :
          s.outbox.toList =
            .unicast sender handover ::
              (serveUnicast { s with outbox := outbox }
                sender handover).outbox.toList := by
        rw [hOutbox, hSame]
      have hDeliveries :=
        deliveries_of_nodes_eq (s := s) hNodes
      rcases serveUnicast_cases { s with outbox := outbox }
        sender handover with
        ⟨index, transmissions, -, hEvents, -⟩ |
        ⟨transmissions, hEvents, -⟩
      · refine Passage.kept ?_ hDeliveries
        have hPerm := perm_of_transmitted hRequest hEvents
        exact (hPerm.trans List.perm_append_comm).cons_inv
      · refine Passage.ended handover.packet ?_ hDeliveries
        have hPerm := perm_of_transmitted hRequest hEvents
        exact (hPerm.trans (by rw [show
          packetsBrought [_] = [] from rfl,
          List.append_nil])).symm

/- Whatever happens in a run is one of the passages. -/
theorem Noted.passage
    {s t : Simulation γ}
    {entries : List Entry}
    (hNoted : Noted s entries t)
    (hSound : s.Sound)
    (hConfigured : s.Configured) :
    Passage s t entries := by
  cases hNoted with
  | tick => exact passage_of_airs (airs_ticked s) rfl
  | beacon index =>
      apply passage_of_airs (airs_beacon s index)
      unfold Simulation.beacon
      split <;> rfl
  | report index =>
      rcases report_cases (hSound.ready index) with
        ⟨hSame, hSilent⟩ |
        ⟨node, next, requests, reply, hReported⟩
      · rw [entriesOfReport_of_silent hSilent, hSame]
        exact .kept (.refl _) rfl
      · exact passage_of_reported hSound hConfigured
          hReported
  | turn _ hTurn =>
      rcases turn_queues hTurn with
        ⟨request, outbox, hOutbox, rfl⟩ |
        ⟨index, event, events, hOutbox, hEvents, rfl⟩
      · rw [entriesOfTurn_of_request hOutbox]
        exact passage_of_request hSound hOutbox
      · rw [entriesOfTurn_of_event hSound hOutbox hEvents]
        have hIndex : index < s.nodes.size := by
          apply hSound.events (index, event)
          rw [hEvents]
          exact List.mem_cons_self
        have hNode := Array.getElem?_eq_getElem hIndex
        have hReady := hSound.ready index _ hNode
        rcases dispatched hNode hReady hOutbox hEvents with
          ⟨next, hDispatched⟩
        exact passage_of_dispatched hSound hDispatched

end Runs

end Simulation

end CollectionTree
