import CollectionTree.Failure
import CollectionTree.NeighborTable

/-
  What a connection exchanges with the world around it.

  Key definitions include:
    * `Event`
    * `Effect`
    * `Answer`
    * `Operation`
    * `Reply`

  Below a connection there are a reliable unicast transport
  and an announcer; above it there is an application.  A
  connection never calls them: each operation gives a list
  of effects, which are carried out in order.  The transport
  may refuse what it is asked for, so its answer to the next
  request comes with every operation.
-/

namespace CollectionTree

------------------------------------------------------------
-- Events
------------------------------------------------------------

/- How a reliable transmission ended. -/
inductive TxOutcome
  | acked
  | collision
  | noAck
  | timeout
  deriving DecidableEq, Repr

/- Something that happened around a node. -/
inductive Event
  /- A data packet came from a neighbor. -/
  | received (sender : Address) (packet : Packet)
  /- The transport is done with a packet. -/
  | sent
      (receiver : Address)
      (outcome : TxOutcome)
      (transmissions : UInt8)
  /- A neighbor announced its metric. -/
  | announced (sender : Address) (metric : Metric)
  /- Time passed. -/
  | elapsed (time : Duration)
  deriving DecidableEq, Repr

------------------------------------------------------------
-- Effects
------------------------------------------------------------

/- A packet handed to the transport. -/
structure Handover where
  nextHop : Address
  maxRexmit : UInt8
  packet : Packet
  deriving DecidableEq, Repr

/- A packet given to the application. -/
structure Delivery where
  originator : Address
  seqno : UInt8
  hops : UInt8
  payload : List UInt8
  deriving DecidableEq, Repr

/- Something that a connection asks for. -/
inductive Effect
  /- Open the transport on a channel. -/
  | openLink (channel : UInt16)
  /- Close the transport. -/
  | closeLink
  /- Transmit a packet, which the transport accepted. -/
  | transmit (handover : Handover)
  /- Forget a packet, which the transport refused. -/
  | refuse (handover : Handover)
  /- Start to announce a metric on a channel. -/
  | register (channel : UInt16) (metric : Metric)
  /- Announce another metric. -/
  | announce (metric : Metric)
  /- Ask the neighbors to announce their metrics. -/
  | listen (bursts : UInt8)
  /- Stop announcing. -/
  | withdraw
  /- Give a packet to the application. -/
  | deliver (delivery : Delivery)
  deriving DecidableEq, Repr

/- Whether the transport accepts what it is asked for. -/
abbrev Answer :=
  Except Failure Unit

------------------------------------------------------------
-- Operations
------------------------------------------------------------

/- Something that is done to a connection. -/
inductive Operation
  | openOn (channel : UInt16)
  | close
  | setSink (on : Bool)
  | send (payload : List UInt8) (maxRexmit : UInt8)
  | handle (event : Event)
  deriving DecidableEq, Repr

/- What became of a packet that a node originated. -/
inductive SendStatus
  | deliveredLocally
  | forwarded (nextHop : Address)
  | droppedNoRoute
  deriving DecidableEq, Repr

/- What an operation answers to its caller. -/
inductive Reply
  | done
  | sent (status : SendStatus)
  | failed (failure : Failure)

end CollectionTree
