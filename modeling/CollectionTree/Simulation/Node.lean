import CollectionTree.Connection
import CollectionTree.Queue

/-
  A connection wired to the simulated radio.

  Key definitions include:
    * `Request`
    * `Node`
    * `Node.answer`
    * `Node.carryOut`
    * `Node.perform`

  The transport of a node has one packet on its way at most.
  What a node asks of the radio becomes a request, which the
  radio serves later.
-/

namespace CollectionTree

------------------------------------------------------------
-- Requests
------------------------------------------------------------

/- Something that a node asks the radio to do. -/
inductive Request
  /- Deliver a packet reliably. -/
  | unicast (sender : Nat) (handover : Handover)
  /- Broadcast a metric. -/
  | announce (sender : Nat) (metric : Metric)
  /- Have the neighbors announce their metrics. -/
  | listen (listener : Nat) (bursts : UInt8)
  deriving DecidableEq, Repr

------------------------------------------------------------
-- Nodes
------------------------------------------------------------

/-
  A node: its connection, the channel of its transport while
  that is open, whether a packet is on its way, the metric
  that it announces, and what its application received.
-/
structure Node where
  connection : Connection
  channel : Option UInt16
  inFlight : Bool
  announced : Option Metric
  received : Queue Delivery
  deriving DecidableEq, Repr

namespace Node

/- A node that has not done anything. -/
def new
    (connection : Connection) : Node :=
  ⟨connection, none, false, none, Queue.empty⟩

/- The packets that the application received, in order. -/
def deliveries
    (node : Node) : List Delivery :=
  node.received.toList

/- Forget what the application received. -/
def clearDeliveries
    (node : Node) : Node :=
  { node with received := Queue.empty }

/- Put another neighbor table in place. -/
def setNeighbors
    (node : Node)
    (neighbors : NeighborTable) : Node :=
  { node with
    connection :=
      { node.connection with neighbors := neighbors } }

------------------------------------------------------------
-- The Transport
------------------------------------------------------------

/- The answer of the transport to a packet. -/
def sendAnswer
    (node : Node) : Answer :=
  if node.channel.isNone then
    .error (.transport "unicast endpoint not open")
  else if node.inFlight then
    .error .transportBusy
  else
    .ok ()

/-
  The answer of the transport to what an operation asks of
  it.  It opens on any channel.
-/
def answer
    (node : Node)
    (operation : Operation) : Answer :=
  match operation with
  | .openOn _ => .ok ()
  | _ => node.sendAnswer

/- The transport on a channel. -/
def openLink
    (node : Node)
    (channel : UInt16) : Node :=
  { node with channel := some channel }

/- The transport closed, with nothing on its way. -/
def closeLink
    (node : Node) : Node :=
  { node with channel := none, inFlight := false }

/- The transport when it is done with a packet. -/
def finish
    (node : Node) : Node :=
  { node with inFlight := false }

------------------------------------------------------------
-- Effects
------------------------------------------------------------

/-
  Carry out an effect at the node with an index; the radio
  may be asked for something.
-/
def carryOut
    (node : Node)
    (index : Nat)
    (effect : Effect) : Node × Option Request :=
  match effect with
  | .openLink channel => (node.openLink channel, none)
  | .closeLink => (node.closeLink, none)
  | .transmit handover =>
      ({ node with inFlight := true },
        some (.unicast index handover))
  | .refuse _ => (node, none)
  | .register _ metric =>
      ({ node with announced := some metric },
        some (.announce index metric))
  | .announce metric =>
      if node.announced.isNone then
        (node, none)
      else
        ({ node with announced := some metric },
          some (.announce index metric))
  | .listen bursts => (node, some (.listen index bursts))
  | .withdraw => ({ node with announced := none }, none)
  | .deliver delivery =>
      ({ node with received := node.received.push delivery },
        none)

/- Carry out effects in order. -/
def carryOutAll
    (index : Nat) :
    Node → List Effect → Node × List Request
  | node, [] => (node, [])
  | node, effect :: effects =>
      let (next, request?) := node.carryOut index effect
      let (last, requests) :=
        carryOutAll index next effects
      (last, request?.toList ++ requests)

/-
  Do an operation at the node with an index.  The result is
  the node, its requests and the reply.
-/
def perform
    (node : Node)
    (index : Nat)
    (operation : Operation) :
    Node × List Request × Reply :=
  let outcome :=
    node.connection.perform (node.answer operation)
      operation
  let (next, requests) :=
    carryOutAll index
      { node with connection := outcome.connection }
      outcome.effects
  (next, requests, outcome.reply)

/- Hand a packet to the transport past the connection. -/
def sendDirectly
    (node : Node)
    (index : Nat)
    (handover : Handover) : Node × List Request × Reply :=
  match node.sendAnswer with
  | .error failure => (node, [], .failed failure)
  | .ok () =>
      let (next, request?) :=
        node.carryOut index (.transmit handover)
      (next, request?.toList, .done)

end Node

end CollectionTree
