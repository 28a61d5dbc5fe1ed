import CollectionTree.Address
import CollectionTree.RecentPackets

/-
  Data packets and their encoding for the radio.

  Key definitions include:
    * `Packet`
    * `Packet.id`
    * `Packet.Field`
    * `Packet.Endpoint`
    * `Packet.toFrame`
    * `Packet.ofFrame`

  A frame is six bytes of header followed by the payload:
  originator (two bytes), sequence number, hops, hop budget,
  retransmission budget.  The two addresses of the current
  hop are not part of it, because the radio knows them.
-/

namespace CollectionTree

------------------------------------------------------------
-- Packets
------------------------------------------------------------

/- A packet on its way to the sink. -/
structure Packet where
  originator : Address
  sender : Address
  receiver : Address
  seqno : UInt8
  hops : UInt8
  ttl : UInt8
  maxRexmit : UInt8
  payload : List UInt8
  deriving DecidableEq, Repr

namespace Packet

/- A packet with nothing in it. -/
def empty : Packet :=
  { originator := Address.null
    sender := Address.null
    receiver := Address.null
    seqno := 0
    hops := 0
    ttl := 0
    maxRexmit := 0
    payload := [] }

/- What tells the packet apart from end to end. -/
def id
    (p : Packet) : PacketId :=
  ⟨p.originator, p.seqno⟩

------------------------------------------------------------
-- Access by Name
------------------------------------------------------------

/- The numbers that a packet carries. -/
inductive Field
  | seqno
  | hops
  | ttl
  | maxRexmit
  deriving DecidableEq, Repr

/- The addresses that a packet carries. -/
inductive Endpoint
  | sender
  | receiver
  | originator
  deriving DecidableEq, Repr

/- The packet with one number replaced. -/
def setField
    (p : Packet)
    (field : Field)
    (value : UInt8) : Packet :=
  match field with
  | .seqno => { p with seqno := value }
  | .hops => { p with hops := value }
  | .ttl => { p with ttl := value }
  | .maxRexmit => { p with maxRexmit := value }

/- The packet with one address replaced. -/
def setEndpoint
    (p : Packet)
    (endpoint : Endpoint)
    (address : Address) : Packet :=
  match endpoint with
  | .sender => { p with sender := address }
  | .receiver => { p with receiver := address }
  | .originator => { p with originator := address }

------------------------------------------------------------
-- Frames
------------------------------------------------------------

/- The number of bytes before the payload. -/
def headerLength : Nat :=
  6

/- The bytes that go over the air. -/
def toFrame
    (p : Packet) : List UInt8 :=
  p.originator.hi :: p.originator.lo :: p.seqno ::
    p.hops :: p.ttl :: p.maxRexmit :: p.payload

/-
  The packet in a frame.  Bytes too few for a header are
  refused, and the answer is then their number.
-/
def ofFrame
    (frame : List UInt8) : Except Nat Packet :=
  match frame with
  | hi :: lo :: seqno :: hops :: ttl :: maxRexmit ::
      payload =>
      .ok
        { originator := ⟨hi, lo⟩
          sender := Address.null
          receiver := Address.null
          seqno := seqno
          hops := hops
          ttl := ttl
          maxRexmit := maxRexmit
          payload := payload }
  | _ => .error frame.length

end Packet

end CollectionTree
