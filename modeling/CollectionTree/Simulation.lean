import CollectionTree.Random.Losses
import CollectionTree.Simulation.Node
import CollectionTree.Simulation.Setup

/-
  Many nodes over a lossy radio.

  Key definitions include:
    * `Simulation`
    * `Simulation.start`
    * `Simulation.new?`
    * `Simulation.make`
    * `Simulation.serve`
    * `Simulation.dispatch`
    * `Simulation.turn?`
    * `Simulation.step`
    * `Simulation.run`
    * `Simulation.isConverged`
    * `Simulation.tree`

  Requests to the radio and events for nodes wait in two
  queues.  A turn serves the oldest request; only when there
  is none does it hand the oldest event to its node.  Every
  transmission asks the source of losses once for each frame
  that has to arrive.
-/

namespace CollectionTree

------------------------------------------------------------
-- State
------------------------------------------------------------

/- What happened on the air and to readings. -/
structure Traffic where
  messagesSent : Nat
  messagesNoRoute : Nat
  transmissions : Nat
  timeouts : Nat
  beacons : Nat
  deriving DecidableEq, Repr

/- Nothing has happened yet. -/
def Traffic.zero : Traffic :=
  ⟨0, 0, 0, 0, 0⟩

/- Nodes, what waits to be done, and where losses come from. -/
structure Simulation (γ : Type) where
  setup : Setup
  nodes : Array Node
  outbox : Queue Request
  events : Queue (Nat × Event)
  steps : Nat
  losses : γ
  traffic : Traffic

namespace Simulation

/- The channel that nodes announce their metrics on. -/
def channel : UInt16 :=
  128

/- How many turns a step takes at most. -/
def turnsPerStep : Nat :=
  100000

------------------------------------------------------------
-- Addresses
------------------------------------------------------------

/- The address of the node with an index. -/
def addressOf
    (index : Nat) : Address :=
  ⟨(index + 1).toUInt8, 0⟩

variable {γ : Type}

/- The index of the node with an address. -/
def indexOf?
    (s : Simulation γ)
    (a : Address) : Option Nat :=
  let index := a.hi.toNat - 1
  if a.hi ≠ 0 ∧ a.lo = 0 ∧ index < s.nodes.size then
    some index
  else
    none

/- The metric that a node announces. -/
def announced?
    (s : Simulation γ)
    (index : Nat) : Option Metric :=
  s.nodes[index]?.bind Node.announced

------------------------------------------------------------
-- Operations of Nodes
------------------------------------------------------------

/- Put back a node and what it asks of the radio. -/
def update
    (s : Simulation γ)
    (index : Nat)
    (node : Node)
    (requests : List Request) : Simulation γ :=
  { s with
    nodes := s.nodes.setIfInBounds index node
    outbox := s.outbox.pushAll requests }

/- Do an operation at a node, if there is one. -/
def perform
    (s : Simulation γ)
    (index : Nat)
    (operation : Operation) : Simulation γ × Reply :=
  match s.nodes[index]? with
  | none => (s, .done)
  | some node =>
      let (next, requests, reply) :=
        node.perform index operation
      (s.update index next requests, reply)

------------------------------------------------------------
-- Start
------------------------------------------------------------

/- Nodes that have not done anything. -/
def freshNodes
    (setup : Setup) : Array Node :=
  ((List.range setup.nodeCount.toNat).map (fun index =>
    Node.new
      (Connection.withConfig (addressOf index)
        setup.collect))).toArray

/- Open the connection of a node. -/
def openNode
    (s : Simulation γ)
    (index : Nat) : Simulation γ :=
  (s.perform index (.openOn channel)).1

/-
  The start: all connections are opened, and then node 0
  becomes the sink.
-/
def start
    (setup : Setup)
    (losses : γ) : Simulation γ :=
  let idle : Simulation γ :=
    { setup := setup
      nodes := freshNodes setup
      outbox := Queue.empty
      events := Queue.empty
      steps := 0
      losses := losses
      traffic := Traffic.zero }
  let opened :=
    (List.range setup.nodeCount.toNat).foldl openNode idle
  (opened.perform 0 (.setSink true)).1

/-
  The simulation for parameters that pass the check.  That
  there is room for the tables is taken for granted.
-/
def new?
    (setup : Setup) :
    Except Failure (Simulation SeededLosses) :=
  match setup.check with
  | .error failure => .error failure
  | .ok () =>
      .ok (start setup
        (SeededLosses.ofSeed setup.linkLoss setup.seed))

/- The simulation, if there is room for its nodes' tables. -/
def make
    (storage : Storage)
    (setup : Setup) :
    Except Connection.Obstacle (Simulation SeededLosses) :=
  if setup.check.isOk ∧ ¬storage.Holds setup.collect then
    .error .noRoom
  else
    (new? setup).mapError .settings

------------------------------------------------------------
-- On the Air
------------------------------------------------------------

variable [LossSource γ]

/- Those of some transmissions that are not lost. -/
def survivors
    {α : Type} :
    List α → γ → List α × γ
  | [], losses => ([], losses)
  | x :: xs, losses =>
      let (lost, next) := LossSource.lost losses
      let (others, last) := survivors xs next
      (if lost then others else x :: others, last)

/- Whether a frame and then its acknowledgement arrive. -/
def roundTrip
    (losses : γ) : Bool × γ :=
  let (lost, next) := LossSource.lost losses
  if lost then
    (false, next)
  else
    let (ackLost, last) := LossSource.lost next
    (!ackLost, last)

/- How a reliable transmission went. -/
structure Attempts (γ : Type) where
  acked : Bool
  transmissions : Nat
  losses : γ

/-
  Transmit until an acknowledgement arrives, at most a
  number of times.  Without a receiver none ever arrives.
-/
def attempts
    (hasReceiver : Bool) :
    Nat → Nat → γ → Attempts γ
  | 0, done, losses => ⟨false, done, losses⟩
  | budget + 1, done, losses =>
      if hasReceiver then
        match roundTrip losses with
        | (true, next) => ⟨true, done + 1, next⟩
        | (false, next) =>
            attempts hasReceiver budget (done + 1) next
      else
        attempts hasReceiver budget (done + 1) losses

/- How often a packet is transmitted at most. -/
def transmissionBudget
    (maxRexmit : UInt8) : Nat :=
  min (maxRexmit.toNat + 1) 255

------------------------------------------------------------
-- Serving Requests
------------------------------------------------------------

/- The node that a packet can be transmitted to. -/
def receiver?
    (s : Simulation γ)
    (sender : Nat)
    (a : Address) : Option Nat :=
  (s.indexOf? a).filter (s.setup.inRange sender)

/-
  Transmit a packet reliably.  When it is acknowledged, the
  receiver hears of it before the sender does.
-/
def serveUnicast
    (s : Simulation γ)
    (sender : Nat)
    (handover : Handover) : Simulation γ :=
  let receiver := s.receiver? sender handover.nextHop
  let result :=
    attempts receiver.isSome
      (transmissionBudget handover.maxRexmit) 0 s.losses
  let conclusion (outcome : TxOutcome) : Nat × Event :=
    (sender,
      .sent handover.nextHop outcome
        result.transmissions.toUInt8)
  let transmissions :=
    s.traffic.transmissions + result.transmissions
  match result.acked, receiver with
  | true, some index =>
      { s with
        losses := result.losses
        traffic :=
          { s.traffic with transmissions := transmissions }
        events :=
          (s.events.push
            (index,
              .received (addressOf sender)
                handover.packet)).push
            (conclusion .acked) }
  | _, _ =>
      { s with
        losses := result.losses
        traffic :=
          { s.traffic with
            transmissions := transmissions
            timeouts := s.traffic.timeouts + 1 }
        events := s.events.push (conclusion .timeout) }

/- The nodes that hear a node. -/
def hearers
    (s : Simulation γ)
    (sender : Nat) : List Nat :=
  (List.range s.nodes.size).filter (s.setup.inRange sender)

/- Send a metric to every node in range. -/
def broadcast
    (s : Simulation γ)
    (sender : Nat)
    (metric : Metric) : Simulation γ :=
  let (heard, losses) :=
    survivors (s.hearers sender) s.losses
  { s with
    losses := losses
    traffic :=
      { s.traffic with beacons := s.traffic.beacons + 1 }
    events :=
      s.events.pushAll
        (heard.map (fun index =>
          (index, .announced (addressOf sender) metric))) }

/- The announcements that a node can hear in one burst. -/
def audible
    (s : Simulation γ)
    (listener : Nat) : List (Nat × Metric) :=
  (s.hearers listener).filterMap (fun index =>
    (s.announced? index).map (fun metric =>
      (index, metric)))

/- Let a node hear its neighbors a number of times. -/
def serveListen
    (s : Simulation γ)
    (listener : Nat)
    (bursts : Nat) : Simulation γ :=
  let beacons :=
    (List.replicate bursts (s.audible listener)).flatten
  let (heard, losses) := survivors beacons s.losses
  { s with
    losses := losses
    traffic :=
      { s.traffic with
        beacons := s.traffic.beacons + beacons.length }
    events :=
      s.events.pushAll
        (heard.map (fun beacon =>
          (listener,
            .announced (addressOf beacon.1) beacon.2))) }

/- Serve a request. -/
def serve
    (s : Simulation γ)
    (request : Request) : Simulation γ :=
  match request with
  | .unicast sender handover =>
      s.serveUnicast sender handover
  | .announce sender metric => s.broadcast sender metric
  | .listen listener bursts =>
      s.serveListen listener bursts.toNat

------------------------------------------------------------
-- Turns
------------------------------------------------------------

/- The node as it is when it comes to handle an event. -/
def prepare
    (node : Node)
    (event : Event) : Node :=
  match event with
  | .sent _ _ _ => node.finish
  | _ => node

/- Hand an event to its node. -/
def dispatch
    (s : Simulation γ)
    (index : Nat)
    (event : Event) : Simulation γ :=
  match s.nodes[index]? with
  | none => s
  | some node =>
      let (next, requests, _) :=
        (prepare node event).perform index (.handle event)
      s.update index next requests

/- One turn; `none` when nothing waits to be done. -/
def turn?
    (s : Simulation γ) : Option (Simulation γ) :=
  match s.outbox.pop? with
  | some (request, outbox) =>
      some (serve { s with outbox := outbox } request)
  | none =>
      match s.events.pop? with
      | some ((index, event), events) =>
          some
            (dispatch { s with events := events } index
              event)
      | none => none

/- Take turns until nothing waits, at most a number of them. -/
def pump :
    Nat → Simulation γ → Simulation γ
  | 0, s => s
  | budget + 1, s =>
      match s.turn? with
      | none => s
      | some next => pump budget next

------------------------------------------------------------
-- Steps
------------------------------------------------------------

/- Let time pass at every node. -/
def queueTicks
    (s : Simulation γ) : Simulation γ :=
  { s with
    events :=
      s.events.pushAll
        ((List.range s.nodes.size).map (fun index =>
          (index, .elapsed s.setup.stepTime))) }

/- Send the metric of a node that announces one. -/
def beacon
    (s : Simulation γ)
    (index : Nat) : Simulation γ :=
  match s.announced? index with
  | none => s
  | some metric => s.broadcast index metric

/- The bytes of a text of ASCII characters. -/
def asciiBytes
    (text : String) : List UInt8 :=
  text.toList.map Char.toUInt8

/- What a node reports in a step. -/
def reading
    (step : Nat)
    (node : Address) : List UInt8 :=
  asciiBytes
    ("reading " ++ Whole.text step ++ " from " ++ node.text)

/- Count a reading by what became of it. -/
def countReading
    (s : Simulation γ)
    (reply : Reply) : Simulation γ :=
  match reply with
  | .sent .droppedNoRoute =>
      { s with
        traffic :=
          { s.traffic with
            messagesSent := s.traffic.messagesSent + 1
            messagesNoRoute :=
              s.traffic.messagesNoRoute + 1 } }
  | .sent _ =>
      { s with
        traffic :=
          { s.traffic with
            messagesSent := s.traffic.messagesSent + 1 } }
  | _ => s

/-
  Let a node send a reading, unless it is the sink or has a
  packet on its way.
-/
def report
    (s : Simulation γ)
    (index : Nat) : Simulation γ :=
  match s.nodes[index]? with
  | none => s
  | some node =>
      if node.connection.isSink ||
          node.connection.forwarding then
        s
      else
        let (next, reply) :=
          s.perform index
            (.send
              (reading s.steps node.connection.address)
              s.setup.maxRexmit)
        next.countReading reply

/- Whether something that has an interval is due. -/
def isDue
    (s : Simulation γ)
    (interval : UInt64) : Bool :=
  interval ≠ 0 ∧ s.steps % interval.toNat = 0

/- Do something at every node in turn. -/
def atEachNode
    (s : Simulation γ)
    (action : Simulation γ → Nat → Simulation γ) :
    Simulation γ :=
  (List.range s.nodes.size).foldl action s

/-
  One step: time passes, beacons and readings are sent when
  they are due, and turns are taken.
-/
def step
    (s : Simulation γ) : Simulation γ :=
  let ticked := { s with steps := s.steps + 1 }.queueTicks
  let announced :=
    if ticked.isDue ticked.setup.beaconInterval then
      ticked.atEachNode beacon
    else
      ticked
  let reported :=
    if announced.isDue announced.setup.messageInterval then
      announced.atEachNode report
    else
      announced
  reported.pump turnsPerStep

/- A number of steps. -/
def run :
    Nat → Simulation γ → Simulation γ
  | 0, s => s
  | n + 1, s => run n s.step

/-
  Steps until a condition holds after one of them, at most a
  number of them.  The answer says whether it held.
-/
def runUntil
    (condition : Simulation γ → Bool) :
    Nat → Simulation γ → Bool × Simulation γ
  | 0, s => (false, s)
  | n + 1, s =>
      let next := s.step
      if condition next then
        (true, next)
      else
        runUntil condition n next

------------------------------------------------------------
-- Looking
------------------------------------------------------------

omit [LossSource γ]

/- Whether every node but the sinks has a route. -/
def isConverged
    (s : Simulation γ) : Bool :=
  s.nodes.all (fun node =>
    node.connection.isSink ||
      node.connection.role == .connected)

/- The index of each node's parent. -/
def tree
    (s : Simulation γ) : List (Option Nat) :=
  s.nodes.toList.map (fun node =>
    node.connection.parent?.bind s.indexOf?)

/- The packets that node 0 received, in order. -/
def deliveries
    (s : Simulation γ) : List Delivery :=
  match s.nodes[0]? with
  | some node => node.deliveries
  | none => []

end Simulation

end CollectionTree
