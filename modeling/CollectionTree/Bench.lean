import CollectionTree.Connection

/-
  A connection among collaborators that keep a record.

  Key definitions include:
    * `Bench.Link`
    * `Bench.Beacon`
    * `Bench`
    * `Bench.answer`
    * `Bench.carryOut`
    * `Bench.perform`

  The transport keeps every packet that it accepts and can
  be told to refuse.  The announcer keeps every metric and
  every request to listen, and the application every packet
  delivered to it.
-/

namespace CollectionTree

namespace Bench

------------------------------------------------------------
-- Collaborators
------------------------------------------------------------

/- A transport, with the packets that it accepted. -/
structure Link where
  channel : Option UInt16
  isClosed : Bool
  isBusy : Bool
  refusal : Option String
  openRefusal : Option String
  sent : List Handover
  deriving DecidableEq, Repr

/- A transport that was not used yet. -/
def Link.new : Link :=
  ⟨none, false, false, none, none, []⟩

/- The answer to a packet: a refusal comes before busy. -/
def Link.answer
    (link : Link) : Answer :=
  match link.refusal with
  | some text => .error (.transport text)
  | none =>
      if link.isBusy then
        .error .transportBusy
      else
        .ok ()

/- The answer to a request to open. -/
def Link.openAnswer
    (link : Link) : Answer :=
  match link.openRefusal with
  | some text => .error (.transport text)
  | none => .ok ()

/- An announcer, with what it was asked for. -/
structure Beacon where
  channel : Option UInt16
  metric : Option Metric
  isWithdrawn : Bool
  announced : List Metric
  listens : List UInt8
  deriving DecidableEq, Repr

/- An announcer that was not used yet. -/
def Beacon.new : Beacon :=
  ⟨none, none, false, [], []⟩

end Bench

------------------------------------------------------------
-- The Bench
------------------------------------------------------------

/- A connection with its collaborators. -/
structure Bench where
  connection : Connection
  link : Bench.Link
  beacon : Bench.Beacon
  deliveries : List Delivery
  deriving DecidableEq, Repr

namespace Bench

/- A connection with collaborators that were not used yet. -/
def new
    (connection : Connection) : Bench :=
  ⟨connection, Link.new, Beacon.new, []⟩

/- The transport's answer to what an operation asks of it. -/
def answer
    (bench : Bench)
    (operation : Operation) : Answer :=
  match operation with
  | .openOn _ => bench.link.openAnswer
  | _ => bench.link.answer

/- Let the collaborators carry out an effect. -/
def carryOut
    (bench : Bench)
    (effect : Effect) : Bench :=
  match effect with
  | .openLink channel =>
      { bench with
        link :=
          { bench.link with
            channel := some channel
            isClosed := false } }
  | .closeLink =>
      { bench with
        link := { bench.link with isClosed := true } }
  | .transmit handover =>
      { bench with
        link :=
          { bench.link with
            sent := bench.link.sent ++ [handover] } }
  | .refuse _ => bench
  | .register channel metric =>
      { bench with
        beacon :=
          { bench.beacon with
            channel := some channel
            metric := some metric
            isWithdrawn := false } }
  | .announce metric =>
      { bench with
        beacon :=
          { bench.beacon with
            metric := some metric
            announced :=
              bench.beacon.announced ++ [metric] } }
  | .listen bursts =>
      { bench with
        beacon :=
          { bench.beacon with
            listens := bench.beacon.listens ++ [bursts] } }
  | .withdraw =>
      { bench with
        beacon :=
          { bench.beacon with isWithdrawn := true } }
  | .deliver delivery =>
      { bench with
        deliveries := bench.deliveries ++ [delivery] }

/- Do an operation and carry out its effects in order. -/
def perform
    (bench : Bench)
    (operation : Operation) : Bench × Reply :=
  let outcome :=
    bench.connection.perform (bench.answer operation)
      operation
  (outcome.effects.foldl carryOut
      { bench with connection := outcome.connection },
    outcome.reply)

------------------------------------------------------------
-- Arranging and Looking
------------------------------------------------------------

/- Let the transport be busy, or no longer. -/
def setBusy
    (bench : Bench)
    (on : Bool) : Bench :=
  { bench with link := { bench.link with isBusy := on } }

/- Let the transport refuse packets, or no longer. -/
def setRefusal
    (bench : Bench)
    (text? : Option String) : Bench :=
  { bench with link := { bench.link with refusal := text? } }

/- Let the transport refuse to open, or no longer. -/
def setOpenRefusal
    (bench : Bench)
    (text? : Option String) : Bench :=
  { bench with
    link := { bench.link with openRefusal := text? } }

/- Put another neighbor table in place. -/
def setNeighbors
    (bench : Bench)
    (neighbors : NeighborTable) : Bench :=
  { bench with
    connection :=
      { bench.connection with neighbors := neighbors } }

/- The packet that the transport accepted last. -/
def lastSent?
    (bench : Bench) : Option Handover :=
  bench.link.sent.getLast?

/- Forget what was delivered to the application. -/
def clearDeliveries
    (bench : Bench) : Bench :=
  { bench with deliveries := [] }

end Bench

end CollectionTree
