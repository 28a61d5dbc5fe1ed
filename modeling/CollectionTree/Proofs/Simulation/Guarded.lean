import CollectionTree.Proofs.Connection.Guarded
import CollectionTree.Proofs.Simulation.Moves
import CollectionTree.Proofs.Simulation.Retransmission

/-
  The parts of a simulation with a guard at every place
  where they might have no result.

  Key definitions include:
    * `Guarded.nodeAt`
    * `Guarded.inRange`
    * `Guarded.performNode`
    * `Guarded.attempts`
    * `Guarded.serve`

  Key theorems include:
    * `Node.intact_perform`
    * `Guarded.performNode_eq`
    * `Guarded.attempts_eq`
    * `Guarded.serve_eq`

  Nodes and their places are looked up by indices that wait
  in queues.  Transmissions are counted in a byte, for which
  the budget of a packet is small enough.
-/

namespace CollectionTree

------------------------------------------------------------
-- Nodes Stay Intact
------------------------------------------------------------

namespace Node

/- Effects do not reach back into the connection. -/
theorem connection_carryOutAll
    (index : Nat)
    (node : Node)
    (effects : List Effect) :
    (carryOutAll index node effects).1.connection =
      node.connection := by
  induction effects generalizing node with
  | nil => rfl
  | cons effect effects ih =>
      refine (ih (node.carryOut index effect).1).trans ?_
      unfold carryOut
      split <;> try rfl
      split <;> rfl

theorem intact_perform
    {node : Node}
    (hIntact : node.connection.Intact)
    (index : Nat)
    (operation : Operation) :
    (node.perform index operation).1.connection.Intact := by
  have hStep :=
    node.connection.step (node.answer operation) operation
  unfold perform
  simp only [connection_carryOutAll]
  exact hStep.intact hIntact

end Node

namespace Guarded

variable {γ : Type}

------------------------------------------------------------
-- Places
------------------------------------------------------------

/- The node with an index. -/
def nodeAt
    (s : Simulation γ)
    (index : Nat) : Except Fault Node :=
  match s.nodes[index]? with
  | some node => pure node
  | none => .error .noSuchPlace

theorem nodeAt_eq
    {s : Simulation γ}
    {index : Nat}
    {node : Node}
    (hNode : s.nodes[index]? = some node) :
    nodeAt s index = .ok node := by
  unfold nodeAt
  rw [hNode]
  rfl

/-
  Whether two nodes hear each other.  Only nodes that exist
  have a position.
-/
def inRange
    (s : Simulation γ)
    (a b : Nat) : Except Fault Bool :=
  if a = b then
    pure false
  else if a < s.nodes.size ∧ b < s.nodes.size then
    pure (s.setup.inRange a b)
  else
    .error .noSuchPlace

theorem inRange_eq
    {s : Simulation γ}
    {a b : Nat}
    (hA : a < s.nodes.size)
    (hB : b < s.nodes.size) :
    inRange s a b = .ok (s.setup.inRange a b) := by
  unfold inRange
  by_cases hSame : a = b
  · rw [if_pos hSame, hSame, s.setup.inRange_self]
    rfl
  · rw [if_neg hSame, if_pos ⟨hA, hB⟩]
    rfl

/- The quotient of a division. -/
def quotient
    (a b : Nat) : Except Fault Nat :=
  if b = 0 then
    .error .zeroDivisor
  else
    .ok (a / b)

/- The place of a node. -/
def position
    (topology : Topology)
    (index : Nat) : Except Fault (Nat × Nat) :=
  match topology with
  | .line => pure (index, 0)
  | .grid width => do
      let perRow := max width.toNat 1
      let column ← remainder index perRow
      let row ← quotient index perRow
      pure (column, row)

/- A row has one place at least. -/
theorem position_eq
    (topology : Topology)
    (index : Nat) :
    position topology index =
      .ok (topology.position index) := by
  cases topology with
  | line => rfl
  | grid width =>
      have hSome : max width.toNat 1 ≠ 0 :=
        Nat.ne_zero_of_lt (Nat.le_max_right width.toNat 1)
      unfold position quotient
      simp only [remainder_eq index hSome, if_neg hSome]
      rfl

theorem positions_eq
    (topology : Topology)
    (indices : List Nat) :
    indices.mapM (position topology) =
      .ok (indices.map topology.position) := by
  induction indices with
  | nil => rfl
  | cons index rest ih =>
      rw [List.mapM_cons, position_eq, ih]
      rfl

------------------------------------------------------------
-- Operations of Nodes
------------------------------------------------------------

/- Do an operation at the node with an index. -/
def performNode
    (node : Node)
    (index : Nat)
    (operation : Operation) :
    Except Fault (Node × List Request × Reply) := do
  let outcome ←
    perform node.connection (node.answer operation) operation
  let (next, requests) :=
    Node.carryOutAll index
      { node with connection := outcome.connection }
      outcome.effects
  pure (next, requests, outcome.reply)

theorem performNode_eq
    {node : Node}
    (hIntact : node.connection.Intact)
    (index : Nat)
    (operation : Operation) :
    performNode node index operation =
      .ok (node.perform index operation) := by
  unfold performNode
  rw [perform_eq hIntact]
  rfl

/- Hand an event to its node. -/
def dispatch
    (s : Simulation γ)
    (index : Nat)
    (event : Event) : Except Fault (Simulation γ) := do
  let node ← nodeAt s index
  let (next, requests, _) ←
    performNode (Simulation.prepare node event) index
      (.handle event)
  pure (s.update index next requests)

/- Let a node send a reading. -/
def report
    (s : Simulation γ)
    (index : Nat) : Except Fault (Simulation γ) := do
  let node ← nodeAt s index
  if node.connection.isSink ||
      node.connection.forwarding then
    pure s
  else do
    let (next, requests, reply) ←
      performNode node index
        (.send
          (Simulation.reading s.steps
            node.connection.address)
          s.setup.maxRexmit)
    pure ((s.update index next requests).countReading reply)

------------------------------------------------------------
-- On the Air
------------------------------------------------------------

variable [LossSource γ]

/-
  Transmit until an acknowledgement arrives, at most a
  number of times.  Transmissions are counted in a byte.
-/
def attempts
    (hasReceiver : Bool) :
    Nat → UInt8 → γ → Except Fault (Bool × UInt8 × γ)
  | 0, done, losses => pure (false, done, losses)
  | budget + 1, done, losses => do
      let more ← increment done
      if hasReceiver then
        match Simulation.roundTrip losses with
        | (true, next) => pure (true, more, next)
        | (false, next) =>
            attempts hasReceiver budget more next
      else
        attempts hasReceiver budget more losses

/- As many transmissions as fit into a byte are counted. -/
theorem attempts_eq
    (hasReceiver : Bool)
    {budget : Nat}
    {done : UInt8}
    (hRoom : done.toNat + budget ≤ 255)
    (losses : γ) :
    let result :=
      Simulation.attempts hasReceiver budget done.toNat
        losses
    ∃ transmissions : UInt8,
      transmissions.toNat = result.transmissions ∧
        attempts hasReceiver budget done losses =
          .ok (result.acked, transmissions,
            result.losses) := by
  induction budget generalizing done losses with
  | zero => exact ⟨done, rfl, rfl⟩
  | succ budget ih =>
      have hLess : done.toNat < 255 := by omega
      have hMore : (done + 1).toNat = done.toNat + 1 := by
        rw [UInt8.toNat_add]
        exact Nat.mod_eq_of_lt (Nat.succ_lt_succ hLess)
      have hRest : (done + 1).toNat + budget ≤ 255 := by
        omega
      unfold Simulation.attempts attempts
      rw [increment_eq hLess, ← hMore]
      cases hasReceiver with
      | false => exact ih hRest losses
      | true =>
          rcases hTrip : Simulation.roundTrip losses with
            ⟨acked, next⟩
          simp only [bind, Except.bind, if_true]
          cases acked with
          | true => exact ⟨done + 1, rfl, rfl⟩
          | false => exact ih hRest next

/- The node that a packet can be transmitted to. -/
def receiver?
    (s : Simulation γ)
    (sender : Nat)
    (a : Address) : Except Fault (Option Nat) :=
  match s.indexOf? a with
  | none => pure none
  | some index => do
      let near ← inRange s sender index
      pure (if near then some index else none)

omit [LossSource γ] in
theorem receiver?_eq
    {s : Simulation γ}
    {sender : Nat}
    (hSender : sender < s.nodes.size)
    (a : Address) :
    receiver? s sender a = .ok (s.receiver? sender a) := by
  unfold receiver? Simulation.receiver?
  cases hIndex : s.indexOf? a with
  | none => rfl
  | some index =>
      have hBound :=
        (Simulation.indexOf?_eq_some_iff.mp hIndex).1
      simp only [inRange_eq hSender hBound]
      rw [Option.filter_some]
      rfl

/- Transmit a packet reliably. -/
def serveUnicast
    (s : Simulation γ)
    (sender : Nat)
    (handover : Handover) : Except Fault (Simulation γ) := do
  let receiver ← receiver? s sender handover.nextHop
  let (acked, transmissions, losses) ←
    attempts receiver.isSome
      (Connection.nextByte handover.maxRexmit).toNat 0
      s.losses
  let conclusion (outcome : TxOutcome) : Nat × Event :=
    (sender, .sent handover.nextHop outcome transmissions)
  let total := s.traffic.transmissions + transmissions.toNat
  match acked, receiver with
  | true, some index =>
      pure
        { s with
          losses := losses
          traffic := { s.traffic with transmissions := total }
          events :=
            (s.events.push
              (index,
                .received (Simulation.addressOf sender)
                  handover.packet)).push
              (conclusion .acked) }
  | _, _ =>
      pure
        { s with
          losses := losses
          traffic :=
            { s.traffic with
              transmissions := total
              timeouts := s.traffic.timeouts + 1 }
          events := s.events.push (conclusion .timeout) }

theorem serveUnicast_eq
    {s : Simulation γ}
    {sender : Nat}
    (hSender : sender < s.nodes.size)
    (handover : Handover) :
    serveUnicast s sender handover =
      .ok (s.serveUnicast sender handover) := by
  have hRoom :
      (0 : UInt8).toNat +
          Simulation.transmissionBudget handover.maxRexmit ≤
        255 := by
    change 0 + min _ 255 ≤ 255
    omega
  have hBudget :
      (Connection.nextByte handover.maxRexmit).toNat =
        Simulation.transmissionBudget handover.maxRexmit :=
    Connection.toNat_nextByte handover.maxRexmit
  unfold serveUnicast Simulation.serveUnicast
  rw [receiver?_eq hSender, hBudget]
  simp only [bind, Except.bind]
  generalize s.receiver? sender handover.nextHop = receiver
  rcases attempts_eq receiver.isSome hRoom s.losses with
    ⟨transmissions, hCount, hAttempts⟩
  rw [UInt8.toNat_zero] at hCount hAttempts
  rw [hAttempts]
  generalize
    Simulation.attempts receiver.isSome
      (Simulation.transmissionBudget handover.maxRexmit) 0
      s.losses = result at hCount
  rcases result with ⟨acked, count, losses⟩
  obtain rfl : transmissions.toNat = count := hCount
  simp only [UInt8.ofNat_toNat, Nat.toUInt8]
  cases acked <;> cases receiver <;> rfl

/- Those of some nodes that hear a node. -/
def hearersAmong
    (s : Simulation γ)
    (sender : Nat) :
    List Nat → Except Fault (List Nat)
  | [] => pure []
  | index :: rest => do
      let near ← inRange s sender index
      let others ← hearersAmong s sender rest
      pure (if near then index :: others else others)

omit [LossSource γ] in
theorem hearersAmong_eq
    {s : Simulation γ}
    {sender : Nat}
    (hSender : sender < s.nodes.size)
    {indices : List Nat}
    (hIndices : ∀ index ∈ indices, index < s.nodes.size) :
    hearersAmong s sender indices =
      .ok (indices.filter (s.setup.inRange sender)) := by
  induction indices with
  | nil => rfl
  | cons index rest ih =>
      have hRest :=
        ih fun other hMem =>
          hIndices other (List.mem_cons_of_mem index hMem)
      have hIndex := hIndices index List.mem_cons_self
      unfold hearersAmong
      rw [inRange_eq hSender hIndex, hRest, List.filter_cons]
      rfl

/- Send a metric to every node in range. -/
def broadcast
    (s : Simulation γ)
    (sender : Nat)
    (metric : Metric) : Except Fault (Simulation γ) := do
  let hearers ←
    hearersAmong s sender (List.range s.nodes.size)
  let (heard, losses) :=
    Simulation.survivors hearers s.losses
  pure
    { s with
      losses := losses
      traffic :=
        { s.traffic with beacons := s.traffic.beacons + 1 }
      events :=
        s.events.pushAll
          (heard.map (fun index =>
            (index,
              .announced (Simulation.addressOf sender)
                metric))) }

theorem broadcast_eq
    {s : Simulation γ}
    {sender : Nat}
    (hSender : sender < s.nodes.size)
    (metric : Metric) :
    broadcast s sender metric =
      .ok (s.broadcast sender metric) := by
  unfold broadcast
  rw [hearersAmong_eq hSender
    (fun _ hMem => List.mem_range.mp hMem)]
  rfl

/- The announcements of those of some nodes that make any. -/
def announcementsOf
    (s : Simulation γ) :
    List Nat → Except Fault (List (Nat × Metric))
  | [] => pure []
  | index :: rest => do
      let node ← nodeAt s index
      let others ← announcementsOf s rest
      match node.announced with
      | none => pure others
      | some metric => pure ((index, metric) :: others)

omit [LossSource γ] in
theorem announcementsOf_eq
    {s : Simulation γ}
    {indices : List Nat}
    (hIndices : ∀ index ∈ indices, index < s.nodes.size) :
    announcementsOf s indices =
      .ok
        (indices.filterMap (fun index =>
          (s.announced? index).map (fun metric =>
            (index, metric)))) := by
  induction indices with
  | nil => rfl
  | cons index rest ih =>
      have hRest :=
        ih fun other hMem =>
          hIndices other (List.mem_cons_of_mem index hMem)
      have hIndex : index < s.nodes.size :=
        hIndices index List.mem_cons_self
      have hNode := Array.getElem?_eq_getElem hIndex
      unfold announcementsOf
      rw [nodeAt_eq hNode, hRest, List.filterMap_cons,
        Simulation.announced?, hNode]
      simp only [bind, Except.bind, Option.bind_some]
      cases s.nodes[index].announced <;> rfl

/- Let a node hear its neighbors a number of times. -/
def serveListen
    (s : Simulation γ)
    (listener : Nat)
    (bursts : Nat) : Except Fault (Simulation γ) := do
  let hearers ←
    hearersAmong s listener (List.range s.nodes.size)
  let burst ← announcementsOf s hearers
  let beacons := (List.replicate bursts burst).flatten
  let (heard, losses) :=
    Simulation.survivors beacons s.losses
  pure
    { s with
      losses := losses
      traffic :=
        { s.traffic with
          beacons := s.traffic.beacons + beacons.length }
      events :=
        s.events.pushAll
          (heard.map (fun beacon =>
            (listener,
              .announced (Simulation.addressOf beacon.1)
                beacon.2))) }

theorem serveListen_eq
    {s : Simulation γ}
    {listener : Nat}
    (hListener : listener < s.nodes.size)
    (bursts : Nat) :
    serveListen s listener bursts =
      .ok (s.serveListen listener bursts) := by
  have hHearers :
      ∀ index ∈ s.hearers listener, index < s.nodes.size :=
    fun _ hMem => (Simulation.mem_hearers.mp hMem).1
  have hNear :
      hearersAmong s listener (List.range s.nodes.size) =
        .ok (s.hearers listener) :=
    hearersAmong_eq hListener
      (fun _ hMem => List.mem_range.mp hMem)
  unfold serveListen
  simp only [bind, Except.bind, hNear,
    announcementsOf_eq hHearers]
  rfl

/- Serve a request. -/
def serve
    (s : Simulation γ)
    (request : Request) : Except Fault (Simulation γ) :=
  match request with
  | .unicast sender handover =>
      serveUnicast s sender handover
  | .announce sender metric => broadcast s sender metric
  | .listen listener bursts =>
      serveListen s listener bursts.toNat

theorem serve_eq
    {s : Simulation γ}
    {request : Request}
    (hNode : request.node < s.nodes.size) :
    serve s request = .ok (s.serve request) := by
  cases request with
  | unicast sender handover =>
      exact serveUnicast_eq hNode handover
  | announce sender metric =>
      exact broadcast_eq hNode metric
  | listen listener bursts =>
      exact serveListen_eq hNode bursts.toNat

end Guarded

end CollectionTree
