import CollectionTree.Simulation.Report
import CollectionTree.Text.Columns

/-
  A simulation's report as text.

  Key definitions include:
    * `Simulation.summary`
    * `Simulation.reportValue`

  The summary is for reading; the value is for programs, and
  its entries are in alphabetical order.
-/

namespace CollectionTree

------------------------------------------------------------
-- Parts
------------------------------------------------------------

/- The topology in a summary. -/
def Topology.describe : Topology → String
  | .line => "Line"
  | .grid width =>
      "Grid \x7b width: " ++ Whole.text width.toNat ++
        " \x7d"

/- The role of a node in a summary. -/
def Role.word : Role → String
  | .sink => "sink"
  | .connected => "connected"
  | .disconnected => "disconnected"

/- The role of a node in a report for programs. -/
def Role.name : Role → String
  | .sink => "Sink"
  | .connected => "Connected"
  | .disconnected => "Disconnected"

/- A share as a percentage with one place. -/
def percentage
    (share : Float) : String :=
  RealText.fixed 1 (share * 100.0) ++ "%"

------------------------------------------------------------
-- Summary
------------------------------------------------------------

namespace NodeReport

/- The widths of the columns. -/
def widths : List Nat :=
  [8, 14, 8, 8, 6, 6, 6, 6]

/- The heading of the columns. -/
def heading : String :=
  Text.columns widths
    ["Node", "State", "Metric", "Parent", "Nbrs", "Fwd",
      "Dup", "Busy"]

/- The metric, or a dash for a node without a route. -/
def metricText
    (node : NodeReport) : String :=
  if node.metric = Metric.unreachable then
    "-"
  else
    Whole.text node.metric.toNat

/- The parent, or a dash for a node without one. -/
def parentText
    (node : NodeReport) : String :=
  match node.parent? with
  | some parent => parent.text
  | none => "-"

/- The row of a node. -/
def row
    (node : NodeReport) : String :=
  Text.columns widths
    [node.address.text,
      node.role.word,
      node.metricText,
      node.parentText,
      Whole.text node.neighborCount,
      Whole.text node.stats.forwarded,
      Whole.text node.stats.duplicatesDropped,
      Whole.text node.stats.busyDrops]

/- The node as a value. -/
def value
    (node : NodeReport) : Json.Value :=
  .object
    [ ("addr", .text node.address.text),
      ("busy_drops", .whole node.stats.busyDrops),
      ("duplicates_dropped",
        .whole node.stats.duplicatesDropped),
      ("forwarded", .whole node.stats.forwarded),
      ("neighbors", .whole node.neighborCount),
      ("no_route_drops", .whole node.stats.noRouteDrops),
      ("originated", .whole node.stats.originated),
      ("parent",
        match node.parent? with
        | some parent => .text parent.text
        | none => .null),
      ("rtmetric", .whole node.metric.toNat),
      ("state", .text node.role.name) ]

end NodeReport

namespace Simulation

variable {γ : Type}

/- The parameters and the progress of a simulation. -/
def settingLines
    (s : Simulation γ) : List String :=
  [ "=== Collection Tree Simulation ===",
    "",
    "Nodes:     " ++ Whole.text s.nodes.size,
    "Topology:  " ++ s.setup.topology.describe,
    "Range:     " ++ RealText.fixed 2 s.setup.radioRange,
    "Loss:      " ++ percentage s.setup.linkLoss,
    "Steps:     " ++ Whole.text s.steps,
    "Seed:      " ++ Whole.text s.setup.seed.toNat,
    "" ]

/- The totals of a simulation. -/
def totalLines
    (isConverged : Bool)
    (report : Report) : List String :=
  let traffic := report.traffic
  [ "=== Simulation Results ===",
    "",
    "Converged:          " ++
      (if isConverged then "yes" else "no"),
    "Readings sent:      " ++
      Whole.text traffic.messagesSent,
    "Readings delivered: " ++
      Whole.text report.messagesDelivered,
    "Dropped (no route): " ++
      Whole.text traffic.messagesNoRoute,
    "Delivery rate:      " ++
      percentage report.deliveryRate,
    "Average hops:       " ++
      RealText.fixed 2 report.averageHops,
    "Unicast tx:         " ++
      Whole.text traffic.transmissions,
    "Unicast timeouts:   " ++ Whole.text traffic.timeouts,
    "Beacons:            " ++ Whole.text traffic.beacons,
    "" ]

/- The nodes of a simulation. -/
def nodeLines
    (report : Report) : List String :=
  [ "Per-Node Statistics:",
    NodeReport.heading,
    Text.rule 68 ] ++ report.nodes.map NodeReport.row

/- A simulation as text. -/
def summary
    (s : Simulation γ) : String :=
  let report := s.reportOf
  Text.lines
    (s.settingLines ++ totalLines s.isConverged report ++
      nodeLines report)

------------------------------------------------------------
-- Report for Programs
------------------------------------------------------------

/- A simulation as a value. -/
def reportValue
    (s : Simulation γ) : Json.Value :=
  let report := s.reportOf
  let traffic := report.traffic
  .object
    [ ("avg_hops", .real report.averageHops),
      ("beacons", .whole traffic.beacons),
      ("converged", .boolean s.isConverged),
      ("delivery_rate", .real report.deliveryRate),
      ("messages_delivered",
        .whole report.messagesDelivered),
      ("messages_sent", .whole traffic.messagesSent),
      ("nodes", .list (report.nodes.map NodeReport.value)),
      ("steps", .whole s.steps),
      ("unicast_timeouts", .whole traffic.timeouts),
      ("unicast_transmissions",
        .whole traffic.transmissions) ]

end Simulation

end CollectionTree
