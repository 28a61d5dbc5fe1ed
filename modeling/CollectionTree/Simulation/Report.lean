import CollectionTree.Simulation

/-
  What a simulation has to tell.

  Key definitions include:
    * `NodeReport`
    * `Report`
    * `Simulation.report`
    * `Report.deliveryRate`
-/

namespace CollectionTree

/- The state of one node. -/
structure NodeReport where
  address : Address
  role : Role
  metric : Metric
  parent? : Option Address
  neighborCount : Nat
  stats : Stats
  deriving DecidableEq, Repr

/- The state of a simulation. -/
structure Report where
  traffic : Traffic
  messagesDelivered : Nat
  averageHops : Float
  nodes : List NodeReport

------------------------------------------------------------
-- Ratios
------------------------------------------------------------

/- A ratio of counts; it is zero when there is nothing. -/
def ratio
    (part whole : Nat) : Float :=
  if whole = 0 then
    0.0
  else
    Float.ofNat part / Float.ofNat whole

/- The share of the readings that was delivered. -/
def Report.deliveryRate
    (report : Report) : Float :=
  ratio report.messagesDelivered report.traffic.messagesSent

------------------------------------------------------------
-- Reports
------------------------------------------------------------

/- The report of a node. -/
def Node.reportOf
    (node : Node) : NodeReport :=
  { address := node.connection.address
    role := node.connection.role
    metric := node.connection.metric
    parent? := node.connection.parent?
    neighborCount := node.connection.neighbors.size
    stats := node.connection.stats }

/- The report of a simulation. -/
def Simulation.reportOf
    {γ : Type}
    (s : Simulation γ) : Report :=
  let deliveries := s.deliveries
  let hops :=
    deliveries.foldl
      (fun total delivery => total + delivery.hops.toNat) 0
  { traffic := s.traffic
    messagesDelivered := deliveries.length
    averageHops := ratio hops deliveries.length
    nodes := s.nodes.toList.map Node.reportOf }

end CollectionTree
