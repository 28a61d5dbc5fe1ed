import CollectionTree.Connection.Exchange
import CollectionTree.Config.File

/-
  A node's membership in a collection tree.

  Key definitions include:
    * `Connection`
    * `Connection.make`
    * `Connection.new?`
    * `Connection.send`
    * `Connection.receive`
    * `Connection.concludeTransmission`
    * `Connection.hear`
    * `Connection.tick`
    * `Connection.perform`

  The sink announces metric zero.  Every other node
  announces the metric of its best neighbor plus the cost of
  the link to it, and data packets go to the best neighbor,
  one at a time.  While a packet is on its way, others that
  arrive to be passed on are dropped.
-/

namespace CollectionTree

------------------------------------------------------------
-- State
------------------------------------------------------------

/- Where a node stands in the tree. -/
inductive Role
  | sink
  | connected
  | disconnected
  deriving DecidableEq, Repr

/- How often things happened to a connection. -/
structure Stats where
  originated : Nat
  delivered : Nat
  forwarded : Nat
  duplicatesDropped : Nat
  noRouteDrops : Nat
  busyDrops : Nat
  ttlDrops : Nat
  txOk : Nat
  txFailed : Nat
  metricChanges : Nat
  deriving DecidableEq, Repr

/- Nothing has happened yet. -/
def Stats.zero : Stats :=
  ⟨0, 0, 0, 0, 0, 0, 0, 0, 0, 0⟩

/- The counts in their order. -/
def Stats.toList
    (s : Stats) : List Nat :=
  [s.originated, s.delivered, s.forwarded,
    s.duplicatesDropped, s.noRouteDrops, s.busyDrops,
    s.ttlDrops, s.txOk, s.txFailed, s.metricChanges]

/- One node's connection to a tree. -/
structure Connection where
  address : Address
  config : Config
  neighbors : NeighborTable
  recent : RecentPackets
  metric : Metric
  role : Role
  seqno : UInt8
  forwarding : Bool
  isOpen : Bool
  stats : Stats
  deriving DecidableEq, Repr

/- The state after an operation, its effects and reply. -/
structure Outcome where
  connection : Connection
  effects : List Effect
  reply : Reply

namespace Connection

------------------------------------------------------------
-- Construction
------------------------------------------------------------

/- A closed connection around given tables. -/
def withTables
    (address : Address)
    (config : Config)
    (neighbors : NeighborTable)
    (recent : RecentPackets) : Connection :=
  { address := address
    config := config
    neighbors := neighbors
    recent := recent
    metric := Metric.unreachable
    role := .disconnected
    seqno := 0
    forwarding := false
    isOpen := false
    stats := Stats.zero }

/- A closed connection with empty tables of given sizes. -/
def withConfig
    (address : Address)
    (config : Config) : Connection :=
  withTables address config
    (NeighborTable.empty config.neighborCapacity.toNat
      config.neighborLifetime.toNat)
    (RecentPackets.empty config.recentPackets.toNat)

/- What keeps a connection from being made. -/
inductive Obstacle
  | settings (failure : Failure)
  | noRoom

/-
  A closed connection, if the settings pass the check and
  there is room for the tables that they ask for.
-/
def make
    (storage : Storage)
    (address : Address)
    (config : Config) : Except Obstacle Connection :=
  match config.validate with
  | .error failure => .error (.settings failure)
  | .ok () =>
      match
        NeighborTable.allocate? storage
          config.neighborCapacity.toNat
          config.neighborLifetime.toNat with
      | none => .error .noRoom
      | some neighbors =>
          match
            RecentPackets.allocate? storage
              config.recentPackets.toNat with
          | none => .error .noRoom
          | some recent =>
              .ok (withTables address config neighbors recent)

/-
  A closed connection, if the settings pass the check.  That
  there is room for the tables is taken for granted.
-/
def new?
    (address : Address)
    (config : Config) : Except Failure Connection :=
  match config.validate with
  | .error failure => .error failure
  | .ok () => .ok (withConfig address config)

------------------------------------------------------------
-- Looking
------------------------------------------------------------

/- Whether the node is the sink. -/
def isSink
    (c : Connection) : Bool :=
  c.role == .sink

/- The neighbor that packets go to, while connected. -/
def parent?
    (c : Connection) : Option Address :=
  match c.role with
  | .connected => c.neighbors.best.map Neighbor.address
  | _ => none

------------------------------------------------------------
-- Route Metric
------------------------------------------------------------

/- The metric that the best neighbor gives. -/
def routeMetric
    (c : Connection) : Metric :=
  match c.neighbors.best with
  | some n => min n.cost Metric.unreachable
  | none => Metric.unreachable

/- The role of a node, not the sink, with a metric. -/
def roleOf
    (metric : Metric) : Role :=
  if metric = Metric.unreachable then
    .disconnected
  else
    .connected

/- One more change of the metric. -/
def countMetricChange
    (s : Stats) : Stats :=
  { s with metricChanges := s.metricChanges + 1 }

/-
  Bring the metric up to date with the table, and announce
  it if it changed.  The metric of the sink stays.
-/
def updateMetric
    (c : Connection) : Connection × List Effect :=
  if c.role = .sink then
    (c, [])
  else if c.routeMetric = c.metric then
    (c, [])
  else
    ({ c with
        metric := c.routeMetric
        role := roleOf c.routeMetric
        stats := countMetricChange c.stats },
      [.announce c.routeMetric])

/- An outcome that goes on to bring the metric up to date. -/
def thenUpdate
    (c : Connection)
    (effects : List Effect) : Outcome :=
  let (updated, announcements) := c.updateMetric
  ⟨updated, effects ++ announcements, .done⟩

/- The outcome of an operation that does nothing. -/
def unchanged
    (c : Connection) : Outcome :=
  ⟨c, [], .done⟩

------------------------------------------------------------
-- Opening and Closing
------------------------------------------------------------

/-
  Open the connection.  Data goes over the channel after the
  one for announcements.  The node starts disconnected and
  asks its neighbors to announce.
-/
def openOn
    (c : Connection)
    (answer : Answer)
    (channel : UInt16) : Outcome :=
  match answer with
  | .error failure => ⟨c, [], .failed failure⟩
  | .ok () =>
      ⟨{ c with
          metric := Metric.unreachable
          role := .disconnected
          isOpen := true },
        [ .openLink (channel + 1),
          .register channel Metric.unreachable,
          .listen c.config.openListenBursts ],
        .done⟩

/- Stop announcing and close the transport. -/
def close
    (c : Connection) : Outcome :=
  if c.isOpen then
    ⟨{ c with isOpen := false, forwarding := false },
      [.withdraw, .closeLink], .done⟩
  else
    c.unchanged

/- Make the node the sink, or stop it from being the sink. -/
def setSink
    (c : Connection)
    (on : Bool) : Outcome :=
  let metric :=
    if on then Metric.sink else Metric.unreachable
  let role : Role := if on then .sink else .disconnected
  thenUpdate
    { c with
      metric := metric
      role := role
      stats := countMetricChange c.stats }
    [.announce metric]

------------------------------------------------------------
-- Data Packets
------------------------------------------------------------

/- A packet as it is handed over for its next hop. -/
def handover
    (c : Connection)
    (nextHop : Address)
    (packet : Packet) : Handover :=
  { nextHop := nextHop
    maxRexmit := packet.maxRexmit
    packet :=
      { packet with
        sender := c.address
        receiver := nextHop } }

/- A packet as the application gets it. -/
def delivery
    (packet : Packet) : Delivery :=
  { originator := packet.originator
    seqno := packet.seqno
    hops := packet.hops
    payload := packet.payload }

/- Give a packet to the application. -/
def deliver
    (c : Connection)
    (packet : Packet)
    (reply : Reply) : Outcome :=
  ⟨{ c with
      stats :=
        { c.stats with
          delivered := c.stats.delivered + 1 } },
    [.deliver (delivery packet)], reply⟩

/- A packet that the node originates. -/
def originate
    (c : Connection)
    (payload : List UInt8)
    (maxRexmit : UInt8) : Packet :=
  { Packet.empty with
    originator := c.address
    seqno := c.seqno
    hops := 1
    ttl := c.config.maxHopLimit
    maxRexmit := maxRexmit
    payload := payload }

/- The state after one more packet was originated. -/
def countOriginated
    (c : Connection) : Connection :=
  { c with
    seqno := c.seqno + 1
    stats :=
      { c.stats with
        originated := c.stats.originated + 1 } }

/- The state after one more packet found no next hop. -/
def countNoRoute
    (c : Connection) : Connection :=
  { c with
    stats :=
      { c.stats with
        noRouteDrops := c.stats.noRouteDrops + 1 } }

/-
  Originate a packet.  It takes a sequence number whatever
  becomes of it.  Without a next hop, the neighbors are
  asked to announce.
-/
def send
    (c : Connection)
    (answer : Answer)
    (payload : List UInt8)
    (maxRexmit : UInt8) : Outcome :=
  if !c.isOpen then
    ⟨c, [], .failed .notOpen⟩
  else
    let packet := c.originate payload maxRexmit
    let counted := c.countOriginated
    if c.role = .sink then
      counted.deliver { packet with hops := 0 }
        (.sent .deliveredLocally)
    else
      match c.neighbors.best with
      | none =>
          ⟨counted.countNoRoute,
            [.listen c.config.noRouteListenBursts],
            .sent .droppedNoRoute⟩
      | some n =>
          let handover := c.handover n.address packet
          match answer with
          | .error failure =>
              ⟨counted, [.refuse handover],
                .failed failure⟩
          | .ok () =>
              ⟨{ counted with forwarding := true },
                [.transmit handover],
                .sent (.forwarded n.address)⟩

/- Adding one to a byte stops at the greatest byte. -/
def nextByte
    (n : UInt8) : UInt8 :=
  if n = 255 then 255 else n + 1

/- A packet one hop further on. -/
def advance
    (packet : Packet) : Packet :=
  { packet with
    hops := nextByte packet.hops
    ttl := packet.ttl - 1 }

/-
  Pass a packet on, unless another one is on its way or the
  only way is back to where the packet came from.
-/
def relay
    (c : Connection)
    (answer : Answer)
    (sender : Address)
    (packet : Packet) : Outcome :=
  if c.forwarding then
    { c.unchanged with
      connection :=
        { c with
          stats :=
            { c.stats with
              busyDrops := c.stats.busyDrops + 1 } } }
  else
    match c.neighbors.best with
    | none => c.countNoRoute.unchanged
    | some n =>
        if n.address = sender then
          c.countNoRoute.unchanged
        else
          let handover := c.handover n.address packet
          match answer with
          | .error _ => ⟨c, [.refuse handover], .done⟩
          | .ok () =>
              ⟨{ c with
                  forwarding := true
                  stats :=
                    { c.stats with
                      forwarded :=
                        c.stats.forwarded + 1 } },
                [.transmit handover], .done⟩

/-
  Take a packet that is new to the node: deliver it at the
  sink, else pass it on while its hop budget lasts.
-/
def accept
    (c : Connection)
    (answer : Answer)
    (sender : Address)
    (packet : Packet) : Outcome :=
  if c.role = .sink then
    c.deliver packet .done
  else if packet.ttl ≤ 1 then
    { c.unchanged with
      connection :=
        { c with
          stats :=
            { c.stats with
              ttlDrops := c.stats.ttlDrops + 1 } } }
  else if c.metric = Metric.unreachable then
    c.countNoRoute.unchanged
  else
    c.relay answer sender (advance packet)

/- Take a data packet that came from a neighbor. -/
def receive
    (c : Connection)
    (answer : Answer)
    (sender : Address)
    (packet : Packet) : Outcome :=
  if !c.isOpen then
    c.unchanged
  else
    match c.recent.accept packet.id with
    | (false, _) =>
        { c.unchanged with
          connection :=
            { c with
              stats :=
                { c.stats with
                  duplicatesDropped :=
                    c.stats.duplicatesDropped + 1 } } }
    | (true, recent) =>
        accept { c with recent := recent } answer sender
          packet

------------------------------------------------------------
-- Routing Events
------------------------------------------------------------

/-
  Note an acknowledgement.  A receiver that is not in the
  table is added if there is room, without a route.
-/
def noteAcknowledged
    (neighbors : NeighborTable)
    (receiver : Address)
    (transmissions : UInt8) : NeighborTable :=
  match neighbors.recordSuccess receiver transmissions with
  | (true, updated) => updated
  | (false, _) =>
      match neighbors.add receiver Metric.unreachable with
      | (.added, extended) =>
          (extended.recordSuccess receiver transmissions).2
      | (_, same) => same

/- Learn how the transmission of a packet ended. -/
def concludeTransmission
    (c : Connection)
    (receiver : Address)
    (outcome : TxOutcome)
    (transmissions : UInt8) : Outcome :=
  if !c.isOpen then
    c.unchanged
  else
    let transmissions := max transmissions 1
    if outcome = .acked then
      thenUpdate
        { c with
          forwarding := false
          neighbors :=
            noteAcknowledged c.neighbors receiver
              transmissions
          stats :=
            { c.stats with txOk := c.stats.txOk + 1 } }
        []
    else
      thenUpdate
        { c with
          forwarding := false
          neighbors :=
            (c.neighbors.recordFailure receiver
              transmissions).2
          stats :=
            { c.stats with
              txFailed := c.stats.txFailed + 1 } }
        []

/- Note a metric, of a new neighbor or of a known one. -/
def noteAnnounced
    (neighbors : NeighborTable)
    (sender : Address)
    (metric : Metric) : NeighborTable :=
  match neighbors.add sender metric with
  | (.alreadyExists, same) =>
      (same.updateMetric sender metric).2
  | (_, updated) => updated

/- Hear the metric that a neighbor announces. -/
def hear
    (c : Connection)
    (sender : Address)
    (metric : Metric) : Outcome :=
  if !c.isOpen ∨ sender = c.address then
    c.unchanged
  else
    thenUpdate
      { c with
        neighbors :=
          noteAnnounced c.neighbors sender metric }
      []

/- Let time pass.  The metric changes only with the table. -/
def tick
    (c : Connection)
    (time : Duration) : Outcome :=
  if !c.isOpen then
    c.unchanged
  else
    let (dropped, neighbors) := c.neighbors.tick time
    let aged := { c with neighbors := neighbors }
    if dropped.isEmpty then
      aged.unchanged
    else
      aged.thenUpdate []

------------------------------------------------------------
-- All Operations
------------------------------------------------------------

/- Take notice of an event. -/
def handle
    (c : Connection)
    (answer : Answer)
    (event : Event) : Outcome :=
  match event with
  | .received sender packet => c.receive answer sender packet
  | .sent receiver outcome transmissions =>
      c.concludeTransmission receiver outcome transmissions
  | .announced sender metric => c.hear sender metric
  | .elapsed time => c.tick time

/-
  Do one operation.  The answer is that of the transport to
  the one request that the operation may make of it.
-/
def perform
    (c : Connection)
    (answer : Answer)
    (operation : Operation) : Outcome :=
  match operation with
  | .openOn channel => c.openOn answer channel
  | .close => c.close
  | .setSink on => c.setSink on
  | .send payload maxRexmit =>
      c.send answer payload maxRexmit
  | .handle event => c.handle answer event

end Connection

end CollectionTree
