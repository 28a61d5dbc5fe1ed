import CollectionTree.Proofs.Duplicates
import CollectionTree.Proofs.Simulation.Agenda
import CollectionTree.Proofs.Simulation.Passages
import CollectionTree.Proofs.Simulation.Waves

/-
  Along a line that loses nothing, packets are on schedule.

  Key definitions include:
    * `Simulation.OnLine`
    * `Delivery.CameAllTheWay`
    * `Node.Punctual`
    * `Simulation.OnSchedule`

  Key theorems include:
    * `Simulation.onLine_of_reaches`
    * `Simulation.OnSchedule.conclusion`
    * `Simulation.OnSchedule.arrival`
    * `Simulation.OnSchedule.turn`
    * `Simulation.OnSchedule.report`
    * `Simulation.OnSchedule.finished`

  A node is told that its packet arrived before it gets the
  next one, so it is never busy.  Packets of one originator
  come in the order that they were sent in, so none is taken
  for a duplicate.
-/

namespace CollectionTree

open Simulation (Round Stage addressOf)

------------------------------------------------------------
-- Nodes on Schedule
------------------------------------------------------------

/- A packet took as many hops as its node is away. -/
def Delivery.CameAllTheWay
    (setup : Setup)
    (d : Delivery) : Prop :=
  ∃ origin, 0 < origin ∧ origin < setup.nodeCount.toNat ∧
    d.originator = addressOf origin ∧
    d.hops.toNat = origin

namespace Node

/-
  A node waits for the next packets of all nodes after it,
  has dropped none, and sent as many itself.
-/
structure Punctual
    (r : Round)
    (g : Stage)
    (index : Nat)
    (node : Node) : Prop where
  short : node.connection.recent.Short
  awaits :
    ∀ origin, index < origin → origin < r.count →
      node.connection.recent.Awaits (addressOf origin)
        (r.awaited g index origin)
  seqno :
    index ≠ 0 → index < r.count →
      node.connection.seqno = r.awaited g index index
  busyDrops : node.connection.stats.busyDrops = 0
  ttlDrops : node.connection.stats.ttlDrops = 0
  duplicatesDropped :
    node.connection.stats.duplicatesDropped = 0
  deliveries :
    ∀ d ∈ node.deliveries, d.CameAllTheWay r.setup

section Punctual

variable
  {r : Round}
  {index : Nat}
  {node next : Node}

theorem Punctual.of_cargo
    {g : Stage}
    (hPunctual : node.Punctual r g index)
    (hSame : next.cargo = node.cargo) :
    next.Punctual r g index := by
  have hRecent :
      next.connection.recent = node.connection.recent :=
    congrArg Cargo.recent hSame
  have hSeqno :
      next.connection.seqno = node.connection.seqno :=
    congrArg Cargo.seqno hSame
  have hReceived : next.received = node.received :=
    congrArg Cargo.received hSame
  exact
    { short := hRecent ▸ hPunctual.short
      awaits := hRecent ▸ hPunctual.awaits
      seqno := hSeqno ▸ hPunctual.seqno
      busyDrops :=
        (congrArg Cargo.busyDrops hSame).trans
          hPunctual.busyDrops
      ttlDrops :=
        (congrArg Cargo.ttlDrops hSame).trans
          hPunctual.ttlDrops
      duplicatesDropped :=
        (congrArg Cargo.duplicatesDropped hSame).trans
          hPunctual.duplicatesDropped
      deliveries := by
        unfold Node.deliveries
        rw [hReceived]
        exact hPunctual.deliveries }

/- What is awaited is all that a node knows of a stage. -/
theorem Punctual.of_awaited
    {g g' : Stage}
    {r' : Round}
    (hPunctual : node.Punctual r g index)
    (hSetup : r'.setup = r.setup)
    (hAwaited :
      ∀ origin, origin ≠ 0 → index ≤ origin →
        origin < r.count →
          r'.awaited g' index origin =
            r.awaited g index origin) :
    node.Punctual r' g' index := by
  have hCount : r'.count = r.count := by
    unfold Round.count
    rw [hSetup]
  refine
    { hPunctual with
      awaits := ?_
      seqno := ?_
      deliveries := ?_ }
  · intro origin hAfter hOrigin
    rw [hCount] at hOrigin
    rw [hAwaited origin (by omega) (by omega) hOrigin]
    exact hPunctual.awaits origin hAfter hOrigin
  · intro hOther hIndex
    rw [hCount] at hIndex
    rw [hAwaited index hOther (Nat.le_refl index) hIndex]
    exact hPunctual.seqno hOther hIndex
  · rw [hSetup]
    exact hPunctual.deliveries

variable {wave place : Nat}

/- The packet that comes next was not seen before. -/
theorem Punctual.unseen
    (hPunctual :
      node.Punctual r ⟨wave + 1, place, false⟩ place)
    (hPlace : place + (wave + 1) < r.count) :
    node.connection.recent.seen
        (r.packet (wave + 1) place).id =
      false := by
  have hAwaits :=
    hPunctual.awaits (place + (wave + 1)) (by omega) hPlace
  rw [r.awaited_place (wave + 1) place] at hAwaits
  exact hAwaits.unseen hPunctual.short

/- After a packet came, its successor is awaited. -/
theorem Punctual.recorded
    (hPunctual :
      node.Punctual r ⟨wave + 1, place, false⟩ place)
    (hPlace : place + (wave + 1) < r.count)
    (hFew : r.count ≤ 255)
    (hCargo :
      next.cargo =
        { node.cargo with
          recent :=
            node.connection.recent.record
              (r.packet (wave + 1) place).id
          received := next.received })
    (hDeliveries :
      ∀ d ∈ next.deliveries,
        d ∈ node.deliveries ∨ d.CameAllTheWay r.setup) :
    next.Punctual r ⟨wave + 1, place + 1, true⟩ place := by
  have hShort := hPunctual.short
  have hRecent :
      next.connection.recent =
        node.connection.recent.record
          (r.packet (wave + 1) place).id :=
    congrArg Cargo.recent hCargo
  have hSeqno :
      next.connection.seqno = node.connection.seqno :=
    congrArg Cargo.seqno hCargo
  refine
    { short := hRecent ▸ hShort.record _
      awaits := ?_
      seqno := ?_
      busyDrops :=
        (congrArg Cargo.busyDrops hCargo).trans
          hPunctual.busyDrops
      ttlDrops :=
        (congrArg Cargo.ttlDrops hCargo).trans
          hPunctual.ttlDrops
      duplicatesDropped :=
        (congrArg Cargo.duplicatesDropped hCargo).trans
          hPunctual.duplicatesDropped
      deliveries := ?_ }
  · intro origin hAfter hOrigin
    rw [hRecent]
    by_cases hSame : origin = place + (wave + 1)
    · subst hSame
      have hAwaits := hPunctual.awaits _ hAfter hOrigin
      rw [r.awaited_place] at hAwaits
      rw [r.awaited_passed]
      exact hAwaits.record_self hShort
    · rw [r.awaited_succ (fun hBoth => hSame hBoth.2) false]
      apply (hPunctual.awaits origin hAfter hOrigin).record_of_ne
        hShort
      intro hAddress
      exact hSame
        (Simulation.addressOf_inj (by omega) (by omega)
          hAddress)
  · intro hOther hIndex
    rw [hSeqno, r.awaited_succ (by omega) false]
    exact hPunctual.seqno hOther hIndex
  · intro d hMem
    rcases hDeliveries d hMem with hOld | hNew
    · exact hPunctual.deliveries d hOld
    · exact hNew

end Punctual

------------------------------------------------------------
-- Packets That Arrive
------------------------------------------------------------

section Handling

variable
  {index : Nat}
  {node next : Node}
  {sender : Address}
  {packet : Packet}
  {requests : List Request}

/- The sink gives new packets to its application. -/
theorem Handling.delivered
    (hHandling :
      node.Handling index (.received sender packet) next
        requests)
    (hRole : node.connection.role = .sink)
    (hNew :
      node.connection.recent.seen packet.id = false) :
    requests = [] ∧
      next =
        { node with
          connection :=
            ((node.connection.remember packet).deliver packet
              .done).connection
          received :=
            node.received.push
              (Connection.delivery packet) } := by
  cases hHandling with
  | received _ _ outcome hReception =>
      cases hReception with
      | duplicate hSeen =>
          rw [hNew] at hSeen
          contradiction
      | delivered => exact ⟨rfl, rfl⟩
      | expired _ hOther => exact absurd hRole hOther
      | disconnected _ hOther => exact absurd hRole hOther
      | busy _ hOther => exact absurd hRole hOther
      | unrouted _ hOther => exact absurd hRole hOther
      | refused _ hOther => exact absurd hRole hOther
      | relayed _ hOther => exact absurd hRole hOther

/- A node that is idle and has a route passes packets on. -/
theorem Handling.relayed
    (hHandling :
      node.Handling index (.received sender packet) next
        requests)
    (hRole : node.connection.role ≠ .sink)
    (hNew :
      node.connection.recent.seen packet.id = false)
    (hTtl : ¬ packet.ttl ≤ 1)
    (hMetric : node.connection.metric ≠ Metric.unreachable)
    (hIdle : node.connection.forwarding = false)
    {n : Neighbor}
    (hBest : node.connection.neighbors.best = some n)
    (hAway : n.address ≠ sender) :
    requests =
        [ .unicast index
            (node.connection.handover n.address
              (Connection.advance packet)) ] ∧
      next =
        { node with
          connection :=
            { node.connection.remember packet with
              forwarding := true
              stats :=
                { node.connection.stats with
                  forwarded :=
                    node.connection.stats.forwarded + 1 } }
          inFlight := true } := by
  cases hHandling with
  | received _ _ outcome hReception =>
      cases hReception with
      | duplicate hSeen =>
          rw [hNew] at hSeen
          contradiction
      | delivered _ hSink => exact absurd hSink hRole
      | expired _ _ hLow => exact absurd hLow hTtl
      | disconnected _ _ _ hNone => exact absurd hNone hMetric
      | busy _ _ _ _ hForwarding =>
          rw [hIdle] at hForwarding
          contradiction
      | unrouted _ _ _ _ _ hBack =>
          exact absurd (hBack n hBest) hAway
      | refused _ _ _ _ _ _ _ _ failure hAnswer =>
          contradiction
      | relayed _ _ _ _ _ m hSome =>
          rw [hBest] at hSome
          cases hSome
          exact ⟨rfl, rfl⟩

end Handling

end Node

namespace Simulation

variable {γ : Type}

------------------------------------------------------------
-- States Along a Line
------------------------------------------------------------

/- What is true of all states along a lossless line. -/
structure OnLine
    [LossSource γ]
    (setup : Setup)
    (s : Simulation γ) : Prop where
  line : setup.LosslessLine
  sound : s.Sound
  vicinal : s.Vicinal setup
  lossless : Losses.Lossless s.losses
  agree : s.FlightsAgree
  configured : s.Configured

theorem onLine_of_reaches
    [LossSource γ]
    {setup : Setup}
    (hLine : setup.LosslessLine)
    {losses : γ}
    (hLossless : Losses.Lossless losses)
    {s : Simulation γ}
    (hReaches : Reaches (start setup losses) s) :
    s.OnLine setup := by
  have hFew := hLine.lasting.addresses
  exact
    { line := hLine
      sound := hReaches.sound (sound_start setup losses)
      vicinal := vicinal_of_reaches hReaches
      lossless :=
        (rumors_of_reaches hFew hLossless hReaches).lossless
      agree := flightsAgree_of_reaches hReaches
      configured := configured_of_reaches hReaches }

/- The node before another one receives its packets. -/
theorem OnLine.receiver?_before
    [LossSource γ]
    {setup : Setup}
    {s : Simulation γ}
    (hOnLine : s.OnLine setup)
    {before : Nat}
    (hSender : before + 1 < s.nodes.size) :
    s.receiver? (before + 1) (addressOf before) =
      some before := by
  have hFew := hOnLine.line.few
  have hSize := hOnLine.vicinal.size
  have hIndex :=
    s.indexOf?_addressOf (by omega)
      (Nat.lt_of_succ_lt hSender)
  have hRange : setup.inRange (before + 1) before = true :=
    (hOnLine.line.inRange_iff (by omega) (by omega)).mpr
      (Or.inr rfl)
  unfold receiver?
  rw [hIndex, Option.filter_some, hOnLine.vicinal.setup_eq,
    if_pos hRange]

------------------------------------------------------------
-- States on Schedule
------------------------------------------------------------

/-
  Packets are handled as a round has it, nodes know how far
  it is, and every reading is refused, delivered or on its
  way.
-/
structure OnSchedule
    (r : Round)
    (g : Stage)
    (s : Simulation γ) : Prop where
  agenda : s.agenda = r.agenda g
  nodes :
    ∀ (index : Nat) (node : Node),
      s.nodes[index]? = some node → node.Punctual r g index
  balance :
    s.traffic.messagesSent =
      s.traffic.messagesNoRoute + s.deliveries.length +
        s.agenda.countP (fun event => event.2.isArrival)

section OnSchedule

variable
  {r : Round}
  {s t : Simulation γ}

theorem SameCargo.deliveries_eq
    (hSame : SameCargo s t) :
    t.deliveries = s.deliveries := by
  have hFirst := hSame.cargo 0
  unfold deliveries
  cases hNext : t.nodes[0]? with
  | none =>
      cases hNode : s.nodes[0]? with
      | none => rfl
      | some node =>
          rw [hNext, hNode] at hFirst
          contradiction
  | some next =>
      cases hNode : s.nodes[0]? with
      | none =>
          rw [hNext, hNode] at hFirst
          contradiction
      | some node =>
          rw [hNext, hNode, Option.map_some, Option.map_some,
            Option.some.injEq] at hFirst
          exact
            congrArg (fun cargo => cargo.received.toList)
              hFirst

theorem OnSchedule.of_sameCargo
    {g : Stage}
    (hOn : s.OnSchedule r g)
    (hSame : SameCargo s t) :
    t.OnSchedule r g := by
  refine
    { agenda := hSame.agenda.trans hOn.agenda
      nodes := ?_
      balance := ?_ }
  · intro index next hNext
    have hCargo := hSame.cargo index
    rw [hNext, Option.map_some] at hCargo
    rcases Option.map_eq_some_iff.mp hCargo.symm with
      ⟨node, hNode, hEq⟩
    exact (hOn.nodes index node hNode).of_cargo hEq.symm
  · rw [hSame.messagesSent, hSame.messagesNoRoute,
      hSame.deliveries_eq, hSame.agenda]
    exact hOn.balance

/- One stage of a round is as good as one of another. -/
theorem OnSchedule.of_awaited
    {r' : Round}
    {g g' : Stage}
    (hOn : s.OnSchedule r g)
    (hSetup : r'.setup = r.setup)
    (hAgenda : r'.agenda g' = r.agenda g)
    (hAwaited :
      ∀ index origin, origin ≠ 0 → index ≤ origin →
        origin < r.count →
          r'.awaited g' index origin =
            r.awaited g index origin) :
    s.OnSchedule r' g' :=
  { agenda := hOn.agenda.trans hAgenda.symm
    nodes := fun index node hNode =>
      (hOn.nodes index node hNode).of_awaited hSetup
        (hAwaited index)
    balance := hOn.balance }

/- The node that is to get a packet has none on its way. -/
theorem OnSchedule.idle
    {g : Stage}
    (hOn : s.OnSchedule r g)
    (hWhole : g.halfway = false)
    (hAgree : s.FlightsAgree)
    {node : Node}
    (hNode : s.nodes[g.place]? = some node) :
    node.connection.forwarding = false := by
  have hTold : g.halfway = true → 1 ≤ g.place := by
    intro hHalf
    rw [hWhole] at hHalf
    contradiction
  apply idle_of_agenda hAgree hNode
  intro event hMem
  rw [hOn.agenda] at hMem
  cases event with
  | sent receiver outcome transmissions =>
      have hOther :=
        (Round.sent_mem_agenda hTold hMem).2.2.2 hWhole
      exact absurd rfl hOther
  | _ => rfl

/- The rest of a wave is as good as the next one. -/
theorem OnSchedule.next_wave
    {wave place : Nat}
    (hOn : s.OnSchedule r ⟨wave, place, false⟩)
    (hEnd : wave + place = r.count) :
    s.OnSchedule r ⟨wave + 1, 0, false⟩ :=
  hOn.of_awaited rfl (r.agenda_next hEnd)
    (fun _ _ _ _ hOrigin => r.awaited_next hEnd hOrigin)

/- When a round is done, the next one may begin. -/
theorem OnSchedule.finished
    {g : Stage}
    (hOn : s.OnSchedule r g)
    (hWithin : g.Within r)
    (hAgenda : s.agenda = [])
    (step : Nat) :
    s.OnSchedule ⟨r.setup, r.seqno + 1, step⟩ Stage.rest := by
  have hEnd := hOn.agenda.symm.trans hAgenda
  refine hOn.of_awaited rfl ?_ ?_
  · rw [hEnd, Round.agenda_rest]
  · intro index origin _ hOrigin hBound
    rw [Round.awaited_rest _ hOrigin,
      Round.awaited_of_end hWithin hEnd hBound]

------------------------------------------------------------
-- Turns
------------------------------------------------------------

variable
  {index : Nat}
  {event : Event}
  {node next : Node}

/- The node at the place is told that its packet arrived. -/
theorem OnSchedule.conclusion
    {wave place : Nat}
    (hOn : s.OnSchedule r ⟨wave, place, true⟩)
    (hDispatched : Dispatched s t index event node next)
    (hPackets : event.isRouting = false) :
    t.OnSchedule r ⟨wave, place, false⟩ := by
  rcases agenda_of_dispatched hDispatched hPackets with
    ⟨rest, hBefore, hAfter⟩
  have hStage :
      r.agenda ⟨wave, place, true⟩ =
        (place, .sent (addressOf (place - 1)) .acked 1) ::
          r.agenda ⟨wave, place, false⟩ := rfl
  have hEq := hBefore.symm.trans (hOn.agenda.trans hStage)
  rw [List.cons.injEq, Prod.mk.injEq] at hEq
  obtain ⟨⟨-, hEvent⟩, hRest⟩ := hEq
  have hOther : event.isArrival = false := by
    rw [hEvent]
    rfl
  obtain ⟨hCargo, hRequests⟩ :=
    hDispatched.handling.cargo_eq hOther
  rw [Request.expected_of_routings hRequests,
    List.append_nil] at hAfter
  have hReceived : next.received = node.received :=
    congrArg Cargo.received hCargo
  refine
    { agenda := hAfter.trans hRest
      nodes := ?_
      balance := ?_ }
  · intro other changed hChanged
    rcases node_cases hDispatched.nodes hChanged with
      ⟨rfl, rfl⟩ | ⟨-, hOld⟩
    · exact
        ((hOn.nodes other node hDispatched.found).of_cargo
          hCargo).of_awaited rfl (fun _ _ _ _ => rfl)
    · exact
        (hOn.nodes other changed hOld).of_awaited rfl
          (fun _ _ _ _ => rfl)
  · have hBalance := hOn.balance
    rw [hBefore, List.countP_cons_of_neg (by
      simp [hOther])] at hBalance
    rw [hDispatched.traffic, hAfter,
      deliveries_of_set hDispatched.found hDispatched.nodes
        hReceived]
    exact hBalance

/-
  It is enough that the node at the place passes on what it
  gets or delivers it.
-/
theorem OnSchedule.of_arrival
    {wave place : Nat}
    (hOn : s.OnSchedule r ⟨wave + 1, place, false⟩)
    (hPlace : wave + 1 + place < r.count)
    (hDispatched : Dispatched s t index event node next)
    (hPackets : event.isRouting = false)
    (hNext :
      index = place →
        event =
          .received (addressOf (place + 1))
            (r.packet (wave + 1) place) →
        next.Punctual r ⟨wave + 1, place + 1, true⟩ place ∧
          t.outbox.toList.flatMap Request.expected =
            r.hops (wave + 2) (place - 1) place ∧
          t.deliveries.length +
              (r.hops (wave + 2) (place - 1) place).countP
                (fun event => event.2.isArrival) =
            s.deliveries.length + 1) :
    t.OnSchedule r ⟨wave + 1, place + 1, true⟩ := by
  rcases agenda_of_dispatched hDispatched hPackets with
    ⟨rest, hBefore, hAfter⟩
  rcases r.agenda_arrival hPlace with ⟨rest', hNow, hLater⟩
  have hEq := hBefore.symm.trans (hOn.agenda.trans hNow)
  rw [List.cons.injEq, Prod.mk.injEq] at hEq
  obtain ⟨⟨hIndex, hEvent⟩, hRest⟩ := hEq
  obtain ⟨hPunctual, hExpected, hCount⟩ := hNext hIndex hEvent
  rw [hExpected] at hAfter
  refine
    { agenda := ?_
      nodes := ?_
      balance := ?_ }
  · rw [hAfter, hLater, hRest]
  · intro other changed hChanged
    rcases node_cases hDispatched.nodes hChanged with
      ⟨rfl, rfl⟩ | ⟨hOther, hOld⟩
    · rw [hIndex]
      exact hPunctual
    · apply (hOn.nodes other changed hOld).of_awaited rfl
      intro origin _ _ _
      rw [hIndex] at hOther
      exact
        r.awaited_succ (fun hBoth => hOther hBoth.1) false true
  · have hBalance := hOn.balance
    have hArrival : event.isArrival = true := by
      rw [hEvent]
      rfl
    rw [hBefore, List.countP_cons, if_pos hArrival]
      at hBalance
    rw [hDispatched.traffic, hAfter, List.countP_append]
    omega

/- The sink delivers what it gets. -/
theorem OnSchedule.arrival_sink
    {wave : Nat}
    (hOn : s.OnSchedule r ⟨wave + 1, 0, false⟩)
    (hPlace : wave + 1 < r.count)
    (hFew : r.count ≤ 255)
    (hSound : s.Sound)
    (hDispatched : Dispatched s t index event node next)
    (hPackets : event.isRouting = false) :
    t.OnSchedule r ⟨wave + 1, 1, true⟩ := by
  apply hOn.of_arrival hPlace hDispatched hPackets
  rintro rfl rfl
  have hNode := hDispatched.found
  have hPunctual := hOn.nodes 0 node hNode
  have hOrigin : 0 + (wave + 1) < r.count := by
    omega
  have hRole :=
    (hSound.ready 0 node hNode).role_iff.mpr rfl
  obtain ⟨hRequests, hTaken⟩ :=
    hDispatched.handling.delivered hRole
      (hPunctual.unseen hOrigin)
  have hReceived :
      next.received =
        node.received.push
          (Connection.delivery (r.packet (wave + 1) 0)) := by
    rw [hTaken]
  have hDelivered :
      (Connection.delivery
        (r.packet (wave + 1) 0)).CameAllTheWay r.setup := by
    refine ⟨wave + 1, by omega, hPlace, ?_, ?_⟩
    · exact congrArg addressOf (Nat.zero_add _)
    · change (wave + 1).toUInt8.toNat = wave + 1
      rw [Nat.toUInt8_eq, UInt8.toNat_ofNat']
      omega
  refine ⟨?_, ?_, ?_⟩
  · apply hPunctual.recorded hOrigin hFew
    · rw [hTaken]
      rfl
    · intro d hMem
      unfold Node.deliveries at hMem
      rw [hReceived, Queue.toList_push, List.mem_append,
        List.mem_singleton] at hMem
      rcases hMem with hOld | rfl
      · exact Or.inl hOld
      · exact Or.inr hDelivered
  · rw [hRequests]
    rfl
  · rw [deliveries_of_received hNode hDispatched.nodes
      hReceived, List.length_append]
    rfl

/- Other nodes pass on what they get. -/
theorem OnSchedule.arrival_relay
    [LossSource γ]
    {wave before : Nat}
    (hOn : s.OnSchedule r ⟨wave + 1, before + 1, false⟩)
    (hPlace : wave + 1 + (before + 1) < r.count)
    (hOnLine : s.OnLine r.setup)
    (hDownhill : s.Downhill r.setup)
    (hDispatched : Dispatched s t index event node next)
    (hPackets : event.isRouting = false) :
    t.OnSchedule r ⟨wave + 1, before + 2, true⟩ := by
  have hLine := hOnLine.line
  have hSound := hOnLine.sound
  have hFew : r.count ≤ 16 := hLine.few
  have hHops :
      r.count - 1 ≤ r.setup.collect.maxHopLimit.toNat :=
    hLine.hops
  apply hOn.of_arrival hPlace hDispatched hPackets
  rintro rfl rfl
  have hNode := hDispatched.found
  have hPunctual := hOn.nodes _ node hNode
  have hReady := hSound.ready _ node hNode
  have hOrigin : before + 1 + (wave + 1) < r.count := by
    omega
  have hRole : node.connection.role ≠ .sink := by
    rw [ne_eq, hReady.role_iff]
    exact Nat.succ_ne_zero before
  have hIdle := hOn.idle rfl hOnLine.agree hNode
  have hTtl : ¬ (r.packet (wave + 1) (before + 1)).ttl ≤ 1 := by
    rw [UInt8.le_iff_toNat_le,
      r.toNat_ttl (Nat.le_add_left 1 wave) (by omega)]
    change ¬ _ ≤ 1
    omega
  rcases hDownhill.next_hop hLine hSound hOnLine.vicinal
    hNode with ⟨n, hBest, hAddress, hMetric⟩
  have hAway : n.address ≠ addressOf (before + 1 + 1) := by
    rw [hAddress]
    intro hSame
    have hIndex :=
      addressOf_inj (by omega) (by omega) hSame
    omega
  obtain ⟨hRequests, hTaken⟩ :=
    hDispatched.handling.relayed hRole
      (hPunctual.unseen hOrigin) hTtl hMetric hIdle hBest
      hAway
  have hHandover :
      (node.connection.handover n.address
          (Connection.advance
            (r.packet (wave + 1) (before + 1)))).packet =
        r.packet (wave + 2) before := by
    have hRelayed :=
      r.packet_relayed (show wave + 1 < 255 by omega) before
    rw [← hReady.address, ← hAddress] at hRelayed
    exact hRelayed
  have hHop :
      r.hops (wave + 2) (before + 1 - 1) (before + 1) =
        r.hop (wave + 2) before :=
    r.hops_one (wave + 2) before
  rw [hHop]
  refine ⟨?_, ?_, ?_⟩
  · apply hPunctual.recorded hOrigin (by omega)
    · rw [hTaken]
      rfl
    · intro d hMem
      rw [hTaken] at hMem
      exact Or.inl hMem
  · rw [hRequests]
    change
      [_, (_, Event.sent n.address .acked 1)] ++ [] = _
    rw [hHandover, hAddress]
    rfl
  · rw [deliveries_of_set hNode hDispatched.nodes
      (by rw [hTaken])]
    rfl

/- Packets are for the nodes before their senders. -/
theorem OnSchedule.receiver?_eq
    [LossSource γ]
    {g : Stage}
    (hOn : s.OnSchedule r g)
    (hTold : g.halfway = true → 1 ≤ g.place)
    (hOnLine : s.OnLine r.setup)
    (sender : Nat)
    (handover : Handover)
    (hMem :
      Request.unicast sender handover ∈ s.outbox.toList) :
    s.receiver? sender handover.nextHop =
      some (sender - 1) := by
  have hListed :
      (sender, .sent handover.nextHop .acked 1) ∈
        s.agenda := by
    apply List.mem_append_right
    refine List.mem_flatMap.mpr ⟨_, hMem, ?_⟩
    exact List.mem_cons_of_mem _ List.mem_cons_self
  rw [hOn.agenda] at hListed
  rcases (Round.sent_mem_agenda hTold hListed).1 with
    ⟨before, rfl, hNextHop⟩
  rw [hNextHop]
  exact
    hOnLine.receiver?_before
      (hOnLine.sound.requests _ hMem)

/- Nodes are only told that their packets arrived at once. -/
theorem OnSchedule.at_once
    {g : Stage}
    (hOn : s.OnSchedule r g)
    (hTold : g.halfway = true → 1 ≤ g.place)
    (sender : Nat)
    (receiver : Address)
    (outcome : TxOutcome)
    (transmissions : UInt8)
    (hMem :
      (sender, .sent receiver outcome transmissions) ∈
        s.events.toList) :
    outcome = .acked ∧ transmissions = 1 := by
  have hListed :
      (sender, .sent receiver outcome transmissions) ∈
        s.agenda :=
    List.mem_append_left _
      (List.mem_filter.mpr ⟨hMem, rfl⟩)
  rw [hOn.agenda] at hListed
  have hSent := Round.sent_mem_agenda hTold hListed
  exact ⟨hSent.2.1, hSent.2.2.1⟩

theorem OnSchedule.turn
    [LossSource γ]
    {g : Stage}
    (hOn : s.OnSchedule r g)
    (hWithin : g.Within r)
    (hOnLine : s.OnLine r.setup)
    (hDownhill : s.Downhill r.setup)
    (hTurn : s.turn? = some t) :
    ∃ g', t.OnSchedule r g' ∧ g'.Within r := by
  have hFew : r.count ≤ 255 :=
    hOnLine.line.lasting.addresses
  rcases cargo_of_turn hOnLine.sound hOnLine.lossless
    (hOn.receiver?_eq hWithin.told hOnLine) hTurn with
    hSame | ⟨index, event, node, next, hPackets, hDispatched⟩
  · exact ⟨g, hOn.of_sameCargo hSame, hWithin⟩
  · obtain ⟨wave, place, halfway⟩ := g
    have hBound : wave + place ≤ r.count := hWithin.bound
    obtain ⟨wave, rfl⟩ :=
      Nat.exists_eq_add_one.mpr hWithin.sent
    -- A wave that is at its end is the next one.
    have hSink :
        ∀ wave, s.OnSchedule r ⟨wave + 1, 0, false⟩ →
          wave + 1 < r.count →
            ∃ g', t.OnSchedule r g' ∧ g'.Within r := by
      intro wave hOn hLess
      refine
        ⟨_, hOn.arrival_sink hLess hFew hOnLine.sound
          hDispatched hPackets, ?_⟩
      exact
        { sent := Nat.le_add_left 1 wave
          bound := hLess
          told := fun _ => Nat.le_refl 1 }
    cases halfway with
    | true =>
        refine ⟨_, hOn.conclusion hDispatched hPackets, ?_⟩
        exact
          { sent := hWithin.sent
            bound := hBound
            told := fun hHalf => Bool.noConfusion hHalf }
    | false =>
        by_cases hLess : wave + 1 + place < r.count
        · cases place with
          | zero => exact hSink wave hOn hLess
          | succ before =>
              refine
                ⟨_, hOn.arrival_relay hLess hOnLine hDownhill
                  hDispatched hPackets, ?_⟩
              exact
                { sent := hWithin.sent
                  bound := hLess
                  told := fun _ => Nat.le_add_left 1 _ }
        · have hNext := hOn.next_wave (by omega)
          apply hSink (wave + 1) hNext
          rcases agenda_of_dispatched hDispatched hPackets
            with ⟨rest, hSome, -⟩
          apply Nat.lt_of_not_le
          intro hEnd
          rw [hNext.agenda] at hSome
          unfold Round.agenda at hSome
          simp only [Nat.sub_eq_zero_of_le hEnd,
            Round.hops_self] at hSome
          contradiction

------------------------------------------------------------
-- Readings
------------------------------------------------------------

/- A reading is a packet of the first wave. -/
theorem Round.packet_originated
    {index before : Nat}
    (hIndex : index = before + 1)
    (hLimit : 1 ≤ r.setup.collect.maxHopLimit.toNat)
    (hReady : node.Ready index)
    (hConfig :
      node.connection.config = r.setup.collect)
    (hSeqno : node.connection.seqno = r.seqno) :
    (node.connection.handover (addressOf before)
        (node.connection.originate
          (reading r.step node.connection.address)
          r.setup.maxRexmit)).packet =
      r.packet 1 before := by
  subst hIndex
  have hTtl :
      r.setup.collect.maxHopLimit + 1 - (1 : Nat).toUInt8 =
        r.setup.collect.maxHopLimit := by
    rw [← UInt8.toNat_inj]
    exact r.toNat_ttl (Nat.le_refl 1) hLimit before
  unfold Round.packet Connection.handover
    Connection.originate
  simp only [hReady.address, hConfig, hSeqno, hTtl]
  rfl

theorem agenda_of_reported
    {requests : List Request}
    {reply : Reply}
    (hReported :
      Reported s t index node next requests reply) :
    t.agenda =
      s.agenda ++ requests.flatMap Request.expected := by
  unfold agenda
  rw [hReported.events, hReported.outbox,
    List.flatMap_append, List.append_assoc]

/- The node at the place sends its reading. -/
theorem OnSchedule.report
    [LossSource γ]
    {place : Nat}
    (hOn : s.OnSchedule r ⟨0, place, false⟩)
    (hPlace : place < r.count)
    (hStep : s.steps = r.step)
    (hOnLine : s.OnLine r.setup)
    (hFlowing : s.Flowing r.setup) :
    (s.report place).OnSchedule r ⟨0, place + 1, false⟩ := by
  have hSound := hOnLine.sound
  have hIndex : place < s.nodes.size := by
    rw [hOnLine.vicinal.size]
    exact hPlace
  have hStage := r.agenda_report place
  rcases report_cases (hSound.ready place) with
    ⟨hSame, hSilent⟩ |
    ⟨node, next, requests, reply, hReported⟩
  · have hNode := Array.getElem?_eq_getElem hIndex
    have hIdle := hOn.idle rfl hOnLine.agree hNode
    have hSink : place = 0 := by
      rcases hSilent _ hNode with hRole | hBusy
      · exact (hSound.ready place _ hNode).role_iff.mp hRole
      · rw [hIdle] at hBusy
        contradiction
    subst hSink
    rw [hSame]
    refine hOn.of_awaited rfl ?_ ?_
    · rw [hStage, Round.hops_self, List.append_nil]
    · intro index origin hOther _ _
      exact
        r.awaited_succ (fun hBoth => hOther hBoth.2) false
          false
  · rcases hFlowing.handedOver hOnLine.line hSound
      hOnLine.vicinal hReported with
      ⟨before, hBefore, hReply, hRequests, hNext⟩
    have hNode := hReported.found
    have hPunctual := hOn.nodes place node hNode
    have hLimit :
        1 ≤ r.setup.collect.maxHopLimit.toNat := by
      have hHops :
          r.count - 1 ≤ r.setup.collect.maxHopLimit.toNat :=
        hOnLine.line.hops
      omega
    have hSeqno : node.connection.seqno = r.seqno := by
      rw [hPunctual.seqno (by omega) hPlace]
      exact r.awaited_place 0 place false
    have hConfig :
        node.connection.config = r.setup.collect := by
      rw [hOnLine.configured place node hNode,
        hOnLine.vicinal.setup_eq]
    have hExpected :
        requests.flatMap Request.expected =
          r.hops 1 (place - 1) place := by
      have hPacket :=
        Round.packet_originated hBefore hLimit
          (hSound.ready place node hNode) hConfig hSeqno
      rw [hRequests, hStep, hOnLine.vicinal.setup_eq]
      subst hBefore
      rw [Nat.add_sub_cancel, Round.hops_one]
      change [_, (_, Event.sent (addressOf before) .acked 1)] ++
        [] = _
      rw [hPacket]
      rfl
    have hAgenda := agenda_of_reported hReported
    rw [hExpected] at hAgenda
    refine
      { agenda := ?_
        nodes := ?_
        balance := ?_ }
    · rw [hAgenda, hStage, hOn.agenda]
    · intro other changed hChanged
      rcases node_cases hReported.nodes hChanged with
        ⟨rfl, rfl⟩ | ⟨hOther, hOld⟩
      · rw [hNext]
        refine
          { hPunctual with
            awaits := ?_
            seqno := ?_ }
        · intro origin hAfter hOrigin
          rw [r.awaited_succ (by omega) false]
          exact hPunctual.awaits origin hAfter hOrigin
        · intro _ _
          change node.connection.seqno + 1 = _
          rw [hSeqno]
          exact (r.awaited_passed 0 other false).symm
      · apply (hOn.nodes other changed hOld).of_awaited rfl
        intro origin _ _ _
        exact
          r.awaited_succ (fun hBoth => hOther hBoth.1) false
            false
    · have hBalance := hOn.balance
      have hHop :
          (r.hops 1 (place - 1) place).countP
              (fun event => event.2.isArrival) =
            1 := by
        rw [hBefore, Nat.add_sub_cancel, Round.hops_one]
        rfl
      have hReceived : next.received = node.received := by
        rw [hNext]
      rw [hReported.traffic, hReply, hAgenda,
        List.countP_append, hHop,
        deliveries_of_set hNode hReported.nodes hReceived]
      change
        s.traffic.messagesSent + 1 =
          s.traffic.messagesNoRoute + _ + _
      omega

end OnSchedule

end Simulation

end CollectionTree
