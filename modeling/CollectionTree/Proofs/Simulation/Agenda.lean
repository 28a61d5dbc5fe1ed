import CollectionTree.Proofs.Simulation.DownhillRuns
import CollectionTree.Proofs.Simulation.InFlight

/-
  The order that packets are handled in when nothing is
  lost.

  Key definitions include:
    * `Request.expected`
    * `Simulation.agenda`
    * `Cargo`
    * `Simulation.SameCargo`

  Key theorems include:
    * `Simulation.cargo_of_turn`
    * `Simulation.agenda_of_dispatched`
    * `Simulation.idle_of_agenda`

  A packet that waits to be transmitted will be received by
  the node before its sender, and then its sender is told.
  With these events added, the order of the events about
  packets does not change when a request is served.
-/

namespace CollectionTree

/-
  What comes of a packet that arrives at the node before its
  sender at once.
-/
def Request.expected : Request → List (Nat × Event)
  | .unicast sender handover =>
      [ (sender - 1,
          .received (Simulation.addressOf sender)
            handover.packet),
        (sender, .sent handover.nextHop .acked 1) ]
  | _ => []

theorem Request.expected_of_routing
    {request : Request}
    (hRouting : request.isUnicast = false) :
    request.expected = [] := by
  cases request with
  | unicast sender handover => contradiction
  | _ => rfl

theorem Request.expected_of_routings
    {requests : List Request}
    (hRouting :
      ∀ request ∈ requests, request.isUnicast = false) :
    requests.flatMap Request.expected = [] :=
  List.flatMap_eq_nil_iff.mpr (fun request hMem =>
    expected_of_routing (hRouting request hMem))

/- What a node has to do with packets. -/
structure Cargo where
  recent : RecentPackets
  seqno : UInt8
  busyDrops : Nat
  ttlDrops : Nat
  duplicatesDropped : Nat
  received : Queue Delivery

def Node.cargo
    (node : Node) : Cargo :=
  { recent := node.connection.recent
    seqno := node.connection.seqno
    busyDrops := node.connection.stats.busyDrops
    ttlDrops := node.connection.stats.ttlDrops
    duplicatesDropped :=
      node.connection.stats.duplicatesDropped
    received := node.received }

theorem Node.Rerouted.cargo_eq
    {index : Nat}
    {node next : Node}
    {d : Connection}
    {requests : List Request}
    (hRerouted : Rerouted index node d next requests) :
    next.cargo =
      ({ node with connection := d } : Node).cargo := by
  cases hRerouted <;> rfl

/- Only a packet that arrives changes the cargo of a node. -/
theorem Node.Handling.cargo_eq
    {index : Nat}
    {node next : Node}
    {event : Event}
    {requests : List Request}
    (hHandling : Handling index node event next requests)
    (hOther : event.isArrival = false) :
    next.cargo = node.cargo ∧
      ∀ request ∈ requests, request.isUnicast = false := by
  have hRouting :
      ∀ (node : Node) (d : Connection),
        Rerouted index node d next requests →
          ∀ request ∈ requests,
            request.isUnicast = false :=
    fun _ _ hRerouted request hMem =>
      (hRerouted.node_of_mem hMem).2
  cases hHandling with
  | echoed => exact ⟨rfl, by simp⟩
  | heard _ _ _ _ _ hRerouted =>
      exact ⟨hRerouted.cargo_eq, hRouting _ _ hRerouted⟩
  | aged _ _ _ hRerouted =>
      exact ⟨hRerouted.cargo_eq, hRouting _ _ hRerouted⟩
  | concluded _ outcome _ _ _ hRerouted =>
      refine ⟨?_, hRouting _ _ hRerouted⟩
      rw [hRerouted.cargo_eq]
      unfold Connection.concluded
      split <;> rfl
  | received => contradiction

namespace Simulation

variable {γ : Type}

------------------------------------------------------------
-- The Agenda
------------------------------------------------------------

/-
  The events about packets that wait, and those that the
  packets which wait to be transmitted lead to.
-/
def agenda
    (s : Simulation γ) : List (Nat × Event) :=
  s.events.toList.filter (fun event => !event.2.isRouting) ++
    s.outbox.toList.flatMap Request.expected

theorem filter_of_routings
    {more : List (Nat × Event)}
    (hRouting : ∀ event ∈ more, event.2.isRouting = true) :
    more.filter (fun event => !event.2.isRouting) = [] := by
  rw [List.filter_eq_nil_iff]
  intro event hMem
  rw [hRouting event hMem]
  exact Bool.false_ne_true

/- Events and requests about routes are not on the agenda. -/
theorem agenda_of_routing
    {s t : Simulation γ}
    {more : List (Nat × Event)}
    (hEvents : t.events.toList = s.events.toList ++ more)
    (hMore : ∀ event ∈ more, event.2.isRouting = true)
    (hOutbox :
      t.outbox.toList.flatMap Request.expected =
        s.outbox.toList.flatMap Request.expected) :
    t.agenda = s.agenda := by
  unfold agenda
  rw [hEvents, hOutbox, List.filter_append,
    filter_of_routings hMore, List.append_nil]

/- What is expected happens. -/
theorem agenda_of_transmitted
    {s t : Simulation γ}
    {request : Request}
    (hOutbox :
      s.outbox.toList = request :: t.outbox.toList)
    (hEvents :
      t.events.toList =
        s.events.toList ++ request.expected) :
    t.agenda = s.agenda := by
  have hPackets :
      request.expected.filter
          (fun event => !event.2.isRouting) =
        request.expected := by
    cases request <;> rfl
  unfold agenda
  rw [hOutbox, hEvents, List.filter_append, hPackets,
    List.flatMap_cons, List.append_assoc]

section Dispatched

variable
  {s t : Simulation γ}
  {index : Nat}
  {event : Event}
  {node next : Node}

/- An event about packets is the first one on the agenda. -/
theorem agenda_of_dispatched
    (hDispatched : Dispatched s t index event node next)
    (hCargo : event.isRouting = false) :
    ∃ rest,
      s.agenda = (index, event) :: rest ∧
        t.agenda =
          rest ++
            t.outbox.toList.flatMap Request.expected := by
  refine
    ⟨t.events.toList.filter
      (fun event => !event.2.isRouting), ?_, rfl⟩
  unfold agenda
  rw [hDispatched.outbox, hDispatched.events,
    List.flatMap_nil, List.append_nil,
    List.filter_cons_of_pos (by rw [hCargo]; rfl)]

theorem agenda_of_routed
    (hDispatched : Dispatched s t index event node next)
    (hRouting : event.isRouting = true)
    (hRequests :
      ∀ request ∈ t.outbox.toList,
        request.isUnicast = false) :
    t.agenda = s.agenda := by
  unfold agenda
  rw [hDispatched.outbox, hDispatched.events,
    Request.expected_of_routings hRequests,
    List.filter_cons_of_neg (by rw [hRouting]; simp)]
  rfl

end Dispatched

/- Nodes that no conclusion is on the agenda of are idle. -/
theorem idle_of_agenda
    {s : Simulation γ}
    (hAgree : s.FlightsAgree)
    {index : Nat}
    {node : Node}
    (hNode : s.nodes[index]? = some node)
    (hNone :
      ∀ event, (index, event) ∈ s.agenda →
        event.isConclusion = false) :
    node.connection.forwarding = false := by
  have hUnicasts : s.unicastsFrom index = 0 := by
    unfold unicastsFrom
    rw [List.countP_eq_zero]
    intro request hMem hOwn
    cases request with
    | unicast sender handover =>
        have hSender : sender = index := by
          simpa [isUnicastFrom, Request.isUnicast,
            Request.node] using hOwn
        have hExpected :
            (index,
                Event.sent handover.nextHop .acked 1) ∈
              s.agenda := by
          apply List.mem_append_right
          refine List.mem_flatMap.mpr ⟨_, hMem, ?_⟩
          simp [Request.expected, hSender]
        exact Bool.noConfusion (hNone _ hExpected)
    | _ => contradiction
  have hConclusions : s.conclusionsFor index = 0 := by
    unfold conclusionsFor
    rw [List.countP_eq_zero]
    rintro ⟨other, event⟩ hMem hOwn
    simp only [isConclusionFor, Bool.and_eq_true,
      beq_iff_eq] at hOwn
    obtain ⟨hConclusion, rfl⟩ := hOwn
    have hCargo : event.isRouting = false := by
      cases event <;> first | rfl | contradiction
    have hListed : (other, event) ∈ s.agenda := by
      apply List.mem_append_left
      exact List.mem_filter.mpr ⟨hMem, by simp [hCargo]⟩
    rw [hNone event hListed] at hConclusion
    contradiction
  have hFlying := hAgree index node hNode
  rw [hUnicasts, hConclusions] at hFlying
  cases hForwarding : node.connection.forwarding with
  | false => rfl
  | true =>
      unfold Node.flying at hFlying
      rw [hForwarding] at hFlying
      exact absurd hFlying (by decide)

------------------------------------------------------------
-- Turns That Are Not About Packets
------------------------------------------------------------

/- Nothing was done about packets that is not expected. -/
structure SameCargo
    (s t : Simulation γ) : Prop where
  agenda : t.agenda = s.agenda
  cargo :
    ∀ index : Nat,
      (t.nodes[index]?).map Node.cargo =
        (s.nodes[index]?).map Node.cargo
  messagesSent :
    t.traffic.messagesSent = s.traffic.messagesSent
  messagesNoRoute :
    t.traffic.messagesNoRoute = s.traffic.messagesNoRoute

theorem SameCargo.of_airs
    {s t : Simulation γ}
    (hAirs : Airs s t)
    (hOutbox :
      t.outbox.toList.flatMap Request.expected =
        s.outbox.toList.flatMap Request.expected) :
    SameCargo s t := by
  obtain ⟨more, hEvents, hMore⟩ := hAirs.events
  exact
    { agenda :=
        agenda_of_routing hEvents
          (fun event hMem => (hMore event hMem).2) hOutbox
      cargo := fun index => by rw [hAirs.nodes]
      messagesSent := hAirs.messagesSent
      messagesNoRoute := hAirs.messagesNoRoute }

/- What a node hears of routes is not about packets. -/
theorem SameCargo.of_dispatched
    {s t : Simulation γ}
    {index : Nat}
    {event : Event}
    {node next : Node}
    (hDispatched : Dispatched s t index event node next)
    (hRouting : event.isRouting = true) :
    SameCargo s t := by
  have hOther :=
    Event.not_isArrival_of_isRouting hRouting
  obtain ⟨hCargo, hRequests⟩ :=
    hDispatched.handling.cargo_eq hOther
  refine
    { agenda := agenda_of_routed hDispatched hRouting hRequests
      cargo := ?_
      messagesSent := by rw [hDispatched.traffic]
      messagesNoRoute := by rw [hDispatched.traffic] }
  intro other
  rw [hDispatched.nodes, Array.getElem?_setIfInBounds]
  by_cases hSame : index = other
  · subst hSame
    have hIndex :=
      (Array.getElem?_eq_some_iff.mp hDispatched.found).1
    rw [if_pos rfl, if_pos hIndex, hDispatched.found,
      Option.map_some, Option.map_some, hCargo]
  · rw [if_neg hSame]

/-
  If packets are for the nodes before their senders, a turn
  does what is expected, or hands a node an event about a
  packet.
-/
theorem cargo_of_turn
    [LossSource γ]
    {s t : Simulation γ}
    (hSound : s.Sound)
    (hLossless : Losses.Lossless s.losses)
    (hBefore :
      ∀ sender handover,
        Request.unicast sender handover ∈ s.outbox.toList →
          s.receiver? sender handover.nextHop =
            some (sender - 1))
    (hTurn : s.turn? = some t) :
    SameCargo s t ∨
      ∃ index event node next,
        event.isRouting = false ∧
          Dispatched s t index event node next := by
  rcases turn_cases hSound hTurn with
    ⟨request, outbox, hOutbox, rfl⟩ |
    ⟨index, event, node, next, hDispatched⟩
  · apply Or.inl
    have hMem : request ∈ s.outbox.toList := by
      rw [hOutbox]
      exact List.mem_cons_self
    cases request with
    | unicast sender handover =>
        let now : Simulation γ := { s with outbox := outbox }
        obtain ⟨-, hNodes, hSame, hSent, hNoRoute⟩ :=
          serveUnicast_frame now sender handover
        have hEvents :=
          Losses.Lossless.serveUnicast (s := now) hLossless
            (hBefore sender handover hMem)
        have hRest :
            s.outbox.toList =
              .unicast sender handover ::
                (now.serveUnicast sender
                  handover).outbox.toList := by
          rw [hOutbox]
          exact congrArg (_ :: Queue.toList ·) hSame.symm
        change SameCargo s (now.serveUnicast sender handover)
        exact
          { agenda := agenda_of_transmitted hRest hEvents
            cargo := fun index => by rw [hNodes]
            messagesSent := hSent
            messagesNoRoute := hNoRoute }
    | announce sender metric =>
        apply SameCargo.of_airs
          (airs_broadcast { s with outbox := outbox } sender
            metric).of_outbox
        rw [hOutbox]
        rfl
    | listen listener bursts =>
        have hListener := hSound.requests _ hMem
        apply SameCargo.of_airs
          (airs_serveListen
            (s := { s with outbox := outbox }) hListener
            bursts.toNat).of_outbox
        rw [hOutbox]
        rfl
  · cases hRouting : event.isRouting with
    | true =>
        exact Or.inl
          (SameCargo.of_dispatched hDispatched hRouting)
    | false =>
        exact Or.inr
          ⟨index, event, node, next, hRouting, hDispatched⟩

end Simulation

end CollectionTree
