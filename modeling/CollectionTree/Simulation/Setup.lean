import CollectionTree.Config.File
import CollectionTree.Duration
import CollectionTree.Simulation.Topology

/-
  The parameters of a simulation.

  Key definitions include:
    * `Setup`
    * `Setup.standard`
    * `Setup.check`
    * `Setup.inRange`
    * `Setup.ofJson`
    * `Setup.toJson`
-/

namespace CollectionTree

/- All that determines a simulation. -/
structure Setup where
  nodeCount : UInt64
  topology : Topology
  radioRange : Float
  linkLoss : Float
  beaconInterval : UInt64
  messageInterval : UInt64
  maxRexmit : UInt8
  stepMillis : UInt64
  seed : UInt64
  collect : Config

namespace Setup

/- The simulation that runs unless one says otherwise. -/
def standard : Setup :=
  { nodeCount := 8
    topology := .line
    radioRange := 1.0
    linkLoss := 0.1
    beaconInterval := 10
    messageInterval := 20
    maxRexmit := 4
    stepMillis := 1000
    seed := 42
    collect := Config.standard }

------------------------------------------------------------
-- Checks
------------------------------------------------------------

/- Whether a number is a probability. -/
def isProbability
    (p : Float) : Bool :=
  0.0 ≤ p && p ≤ 1.0

/-
  Fail with the first parameter that is out of its bounds.
  There are as many nodes as there are addresses for them.
-/
def check
    (setup : Setup) : Except Failure Unit :=
  if setup.nodeCount = 0 ∨ 255 < setup.nodeCount then
    .error
      (.invalidConfig (.nodeCount setup.nodeCount.toNat))
  else if !isProbability setup.linkLoss then
    .error (.invalidConfig (.linkLoss setup.linkLoss))
  else if setup.beaconInterval = 0 then
    .error (.invalidConfig .zeroBeaconInterval)
  else
    setup.collect.validate

------------------------------------------------------------
-- The Radio
------------------------------------------------------------

/- Whether two nodes hear each other. -/
def inRange
    (setup : Setup)
    (a b : Nat) : Bool :=
  a != b &&
    reaches setup.radioRange
      (setup.topology.squaredDistance a b)

/- Hearing each other is mutual. -/
theorem inRange_comm
    (setup : Setup)
    (a b : Nat) :
    setup.inRange a b = setup.inRange b a := by
  simp only [inRange, setup.topology.squaredDistance_comm a]
  congr 1
  simp [bne, Bool.beq_comm (a := a) (b := b)]

/- The time that one step stands for. -/
def stepTime
    (setup : Setup) : Duration :=
  Duration.ofMillis setup.stepMillis.toNat

------------------------------------------------------------
-- Reading
------------------------------------------------------------

/- How a grid is laid out. -/
def gridShape : Json.Shape UInt64 where
  title := "struct variant Topology::Grid"
  required := true
  fields :=
    [ ⟨"width", fun _ input => Json.readSize input⟩ ]

/- The kinds of topologies. -/
inductive Placement
  | line
  | grid

/- The kind of topology that a name stands for. -/
def placementNamed
    (name : String) : Except Json.Fault Placement :=
  if name = "Line" then
    .ok .line
  else if name = "Grid" then
    .ok .grid
  else
    .error
      (.unknownVariant name
        (Json.marked "Line" ++ " or " ++ Json.marked "Grid"))

/- Read what follows the name of a topology in an object. -/
def readPlacement
    (placement : Placement) : Json.Reader Topology :=
  fun input => do
    match placement with
    | .line =>
        let ((), rest) ← Json.readNull input
        pure (.line, rest)
    | .grid =>
        let (width, rest) ← gridShape.read 0 input
        pure (.grid width, rest)

/-
  Read a topology: the name of one, or an object whose only
  key is the name.
-/
def readTopology : Json.Reader Topology := fun input =>
  match Json.skipSpace input with
  | [] => .error (.ended .value)
  | '"' :: rest => do
      let (name, rest) ← Json.scanString rest
      match ← placementNamed name with
      | .line => pure (.line, rest)
      | .grid =>
          .error (.wrongType .unitVariant "struct variant")
  | '\x7b' :: rest => do
      let (name, rest) ← Json.readOnlyKey rest
      let placement ← placementNamed name
      let rest ← Json.Shape.endKey rest
      let (topology, rest) ← readPlacement placement rest
      let rest ← Json.endOnlyEntry rest
      pure (topology, rest)
  | _ => .error .expectedValue

/- How parameters are laid out. -/
def shape : Json.Shape Setup where
  title := "struct SimConfig"
  required := true
  fields :=
    [ ⟨"node_count", fun s input => do
        let (n, rest) ← Json.readSize input
        pure ({ s with nodeCount := n }, rest)⟩,
      ⟨"topology", fun s input => do
        let (t, rest) ← readTopology input
        pure ({ s with topology := t }, rest)⟩,
      ⟨"radio_range", fun s input => do
        let (x, rest) ← Json.readReal input
        pure ({ s with radioRange := x }, rest)⟩,
      ⟨"link_loss", fun s input => do
        let (x, rest) ← Json.readReal input
        pure ({ s with linkLoss := x }, rest)⟩,
      ⟨"beacon_interval", fun s input => do
        let (n, rest) ← Json.readUInt64 input
        pure ({ s with beaconInterval := n }, rest)⟩,
      ⟨"message_interval", fun s input => do
        let (n, rest) ← Json.readUInt64 input
        pure ({ s with messageInterval := n }, rest)⟩,
      ⟨"max_rexmit", fun s input => do
        let (n, rest) ← Json.readUInt8 input
        pure ({ s with maxRexmit := n }, rest)⟩,
      ⟨"step_millis", fun s input => do
        let (n, rest) ← Json.readUInt64 input
        pure ({ s with stepMillis := n }, rest)⟩,
      ⟨"seed", fun s input => do
        let (n, rest) ← Json.readUInt64 input
        pure ({ s with seed := n }, rest)⟩,
      ⟨"collect", fun s input => do
        let (c, rest) ← Config.read input
        pure ({ s with collect := c }, rest)⟩ ]

/- Read parameters, without checking them. -/
def ofJson
    (text : String) : Except Json.Fault Setup :=
  Json.parse (shape.read standard) text

------------------------------------------------------------
-- Writing
------------------------------------------------------------

/- A topology as a value. -/
def topologyValue : Topology → Json.Value
  | .line => .text "Line"
  | .grid width =>
      .object
        [("Grid", .object [("width", .whole width.toNat)])]

/- The parameters as a value, in their order. -/
def value
    (setup : Setup) : Json.Value :=
  .object
    [ ("node_count", .whole setup.nodeCount.toNat),
      ("topology", topologyValue setup.topology),
      ("radio_range", .real setup.radioRange),
      ("link_loss", .real setup.linkLoss),
      ("beacon_interval", .whole setup.beaconInterval.toNat),
      ("message_interval",
        .whole setup.messageInterval.toNat),
      ("max_rexmit", .whole setup.maxRexmit.toNat),
      ("step_millis", .whole setup.stepMillis.toNat),
      ("seed", .whole setup.seed.toNat),
      ("collect", setup.collect.value) ]

/- The parameters as text on one line. -/
def toJson
    (setup : Setup) : String :=
  setup.value.compact

end Setup

end CollectionTree
