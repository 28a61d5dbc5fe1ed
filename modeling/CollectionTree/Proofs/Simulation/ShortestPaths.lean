import CollectionTree.Proofs.Simulation.GossipRuns
import Mathlib.Combinatorics.SimpleGraph.Metric

/-
  Without losses, metrics count the hops to the sink.

  Key definitions include:
    * `Setup.radioGraph`
    * `Setup.hops`
    * `Setup.Settled`
    * `Simulation.FollowsHops`

  Key theorems include:
    * `Setup.Settled.eq_of_hops`
    * `Setup.Settled.eq_of_far`
    * `Simulation.Gossip.settled`
    * `Simulation.metrics_follow_hops`

  A link that was never used costs four transmissions.  Once
  nothing waits, every node has the metrics of all nodes in
  range, and the only metrics that agree with each other are
  those of shortest paths, as far as a metric can count.
-/

namespace CollectionTree

namespace Setup

------------------------------------------------------------
-- The Graph of the Radio
------------------------------------------------------------

/- The nodes, and which of them hear each other. -/
def radioGraph
    (setup : Setup) : SimpleGraph Nat where
  Adj a b :=
    a < setup.nodeCount.toNat ∧
      b < setup.nodeCount.toNat ∧
      setup.inRange a b = true
  symm := by
    constructor
    intro a b hAdj
    rw [setup.inRange_comm b a]
    exact ⟨hAdj.2.1, hAdj.1, hAdj.2.2⟩
  loopless := by
    constructor
    intro a hAdj
    rw [setup.inRange_self] at hAdj
    exact absurd hAdj.2.2 Bool.false_ne_true

/- The number of hops to node 0, which may be infinite. -/
noncomputable def hops
    (setup : Setup)
    (index : Nat) : ℕ∞ :=
  setup.radioGraph.edist 0 index

/- Node 0 is the only one that is no hop away from itself. -/
theorem hops_eq_zero_iff
    (setup : Setup)
    (index : Nat) :
    setup.hops index = 0 ↔ index = 0 := by
  unfold hops
  rw [SimpleGraph.edist_eq_zero_iff]
  exact eq_comm

theorem hops_le_of_adj
    {setup : Setup}
    {index other : Nat}
    (hAdj : setup.radioGraph.Adj index other) :
    setup.hops index ≤ setup.hops other + 1 := by
  have hOne : setup.radioGraph.edist other index = 1 :=
    SimpleGraph.edist_eq_one_iff_adj.mpr hAdj.symm
  unfold hops
  rw [← hOne]
  exact SimpleGraph.edist_triangle

------------------------------------------------------------
-- Metrics That Agree
------------------------------------------------------------

/-
  Metrics that nodes have when each of them knows those of
  all nodes in range, over links that were never used.
-/
structure Settled
    (setup : Setup)
    (metric : Nat → Nat) : Prop where
  sink : metric 0 = 0
  bounded :
    ∀ index, index < setup.nodeCount.toNat →
      metric index ≤ 511
  attained :
    ∀ index, index < setup.nodeCount.toNat →
      index ≠ 0 → metric index < 511 →
        ∃ other, setup.radioGraph.Adj index other ∧
          metric other + 32 = metric index
  least :
    ∀ index other, setup.radioGraph.Adj index other →
      metric other + 32 < 511 →
        metric index ≤ metric other + 32

namespace Settled

variable
  {setup : Setup}
  {metric : Nat → Nat}

/- No walk to a node without costs costs less. -/
theorem le_of_walk
    (hSettled : setup.Settled metric)
    {index last : Nat}
    (walk : setup.radioGraph.Walk index last)
    (hLast : metric last = 0)
    (hShort : walk.length ≤ 15) :
    metric index ≤ 32 * walk.length := by
  induction walk with
  | nil => exact Nat.le_of_eq hLast
  | cons hAdj rest ih =>
      rw [SimpleGraph.Walk.length_cons] at hShort ⊢
      have hRest := ih hLast (Nat.le_of_succ_le hShort)
      have hLeast := hSettled.least _ _ hAdj (by omega)
      omega

/- A metric is what some walk to the sink costs. -/
theorem hops_le
    (hSettled : setup.Settled metric)
    {index : Nat}
    (hIndex : index < setup.nodeCount.toNat)
    (hFinite : metric index < 511) :
    ∃ count : Nat, setup.hops index ≤ count ∧
      metric index = 32 * count := by
  induction hMetric : metric index using
    Nat.strong_induction_on generalizing index with
  | h m ih =>
      by_cases hZero : index = 0
      · refine ⟨0, ?_, ?_⟩
        · rw [(setup.hops_eq_zero_iff index).mpr hZero]
          exact le_refl _
        · rw [← hMetric, hZero, hSettled.sink]
      · rcases hSettled.attained index hIndex hZero hFinite
          with ⟨other, hAdj, hCost⟩
        rcases ih (metric other) (by omega) hAdj.2.1
          (by omega) rfl with ⟨count, hHops, hOther⟩
        refine ⟨count + 1, ?_, by omega⟩
        calc
          setup.hops index
            ≤ setup.hops other + 1 := hops_le_of_adj hAdj
          _ ≤ (count : ℕ∞) + 1 := by gcongr
          _ = ((count + 1 : Nat) : ℕ∞) := by push_cast; rfl

/- Up to fifteen hops, the metric counts them. -/
theorem eq_of_hops
    (hSettled : setup.Settled metric)
    {index count : Nat}
    (hIndex : index < setup.nodeCount.toNat)
    (hHops : setup.hops index = count)
    (hNear : count ≤ 15) :
    metric index = 32 * count := by
  rcases SimpleGraph.exists_walk_of_edist_eq_coe hHops with
    ⟨walk, hLength⟩
  have hLength' : walk.reverse.length = count := by
    rw [SimpleGraph.Walk.length_reverse, hLength]
  have hUpper :=
    hSettled.le_of_walk walk.reverse hSettled.sink
      (by omega)
  rcases hSettled.hops_le hIndex (by omega) with
    ⟨other, hLower, hMetric⟩
  rw [hHops, Nat.cast_le] at hLower
  omega

/- Further away, the metric says that there is no route. -/
theorem eq_of_far
    (hSettled : setup.Settled metric)
    {index : Nat}
    (hIndex : index < setup.nodeCount.toNat)
    (hFar : 15 < setup.hops index) :
    metric index = 511 := by
  have hBounded := hSettled.bounded index hIndex
  by_contra hOther
  rcases hSettled.hops_le hIndex (by omega) with
    ⟨count, hHops, hMetric⟩
  have hLess : ((15 : Nat) : ℕ∞) < (count : ℕ∞) :=
    lt_of_lt_of_le hFar hHops
  rw [Nat.cast_lt] at hLess
  omega

/- The next hop is one hop closer to the sink. -/
theorem hops_of_next
    (hSettled : setup.Settled metric)
    {index other count : Nat}
    (hHops : setup.hops index = (count + 1 : Nat))
    (hNear : count + 1 ≤ 15)
    (hAdj : setup.radioGraph.Adj index other)
    (hCost : metric other + 32 = metric index) :
    setup.hops other = count := by
  have hMetric := hSettled.eq_of_hops hAdj.1 hHops hNear
  rcases hSettled.hops_le hAdj.2.1 (by omega) with
    ⟨most, hMost, hOther⟩
  have hSame : most = count := by
    omega
  have hLeast := hops_le_of_adj hAdj
  rw [hSame] at hMost
  rw [hHops] at hLeast
  apply le_antisymm hMost
  rw [Nat.cast_add, Nat.cast_one] at hLeast
  exact (ENat.add_le_add_iff_right ENat.one_ne_top).mp hLeast

end Settled

end Setup

namespace Simulation

variable {γ : Type}

------------------------------------------------------------
-- When Nothing Waits
------------------------------------------------------------

/- The metric of a node, as a number. -/
def metricAt
    (s : Simulation γ)
    (index : Nat) : Nat :=
  match s.nodes[index]? with
  | some node => node.connection.metric.toNat
  | none => 511

theorem metricAt_of_node
    {s : Simulation γ}
    {index : Nat}
    {node : Node}
    (hNode : s.nodes[index]? = some node) :
    s.metricAt index = node.connection.metric.toNat := by
  unfold metricAt
  rw [hNode]

/- All that is needed of a state in which nothing waits. -/
structure Quiet
    [LossSource γ]
    (setup : Setup)
    (s : Simulation γ) : Prop where
  gossip : s.Gossip setup
  outbox : s.outbox.toList = []
  events : s.events.toList = []

namespace Quiet

variable
  [LossSource γ]
  {setup : Setup}
  {s : Simulation γ}

/- A table has the metrics of the nodes in range. -/
theorem heard
    (hQuiet : s.Quiet setup)
    {listener sender : Nat}
    {node other : Node}
    (hNode : s.nodes[listener]? = some node)
    (hOther : s.nodes[sender]? = some other)
    (hRange : setup.inRange listener sender = true) :
    node.connection.neighbors.heard (addressOf sender) =
      some other.connection.metric := by
  have hBelief :=
    hQuiet.gossip.beliefs listener sender node other hNode
      hOther hRange
  unfold belief lastPledge lastNews at hBelief
  rw [hQuiet.outbox, hQuiet.events] at hBelief
  exact hBelief

theorem exists_node
    (hQuiet : s.Quiet setup)
    {index : Nat}
    (hIndex : index < setup.nodeCount.toNat) :
    ∃ node, s.nodes[index]? = some node := by
  rw [← hQuiet.gossip.size] at hIndex
  exact ⟨_, Array.getElem?_eq_getElem hIndex⟩

/- An entry is about a node in range, and it is right. -/
theorem entry
    (hQuiet : s.Quiet setup)
    {index : Nat}
    {node : Node}
    (hNode : s.nodes[index]? = some node)
    {n : Neighbor}
    (hMem : n ∈ node.connection.neighbors.entries) :
    ∃ other, setup.radioGraph.Adj index other ∧
      n.address = addressOf other ∧
      n.etx.toNat = 32 ∧
      n.metric.toNat = s.metricAt other := by
  have hTable := hQuiet.gossip.tables index node hNode
  rcases hTable.entries n hMem with
    ⟨hLink, other, hOther, hRange, hAddress⟩
  rcases hQuiet.exists_node hOther with ⟨next, hNext⟩
  have hHeard := hQuiet.heard hNode hNext hRange
  have hFind := NeighborTable.find?_of_mem hTable.nodup hMem
  rw [hAddress] at hFind
  unfold NeighborTable.heard at hHeard
  rw [hFind, Option.map_some, Option.some.injEq] at hHeard
  refine ⟨other, ?_, hAddress, ?_, ?_⟩
  · exact ⟨hQuiet.gossip.lt_of_node hNode, hOther, hRange⟩
  · unfold Neighbor.etx
    rw [hLink, LinkEstimate.etx_fresh]
    rfl
  · rw [hHeard, metricAt_of_node hNext]

/- A node that is not the sink has the cost of a neighbor. -/
theorem next_hop
    (hQuiet : s.Quiet setup)
    {index : Nat}
    {node : Node}
    (hNode : s.nodes[index]? = some node)
    (hConnected : node.connection.role = .connected) :
    ∃ other, setup.radioGraph.Adj index other ∧
      node.connection.parent? = some (addressOf other) ∧
      s.metricAt other + 32 = s.metricAt index := by
  have hReady := hQuiet.gossip.sound.ready index node hNode
  have hOther : node.connection.role ≠ .sink := by
    simp [hConnected]
  rcases hReady.coherent.parent?_of_connected hConnected with
    ⟨n, hBest, hParent⟩
  rcases NeighborTable.mem_and_hasRoute_of_best hBest with
    ⟨hMem, hRoute⟩
  rcases hQuiet.entry hNode hMem with
    ⟨other, hAdj, hAddress, hEtx, hMetric⟩
  have hCost := Neighbor.toNat_cost_of_hasRoute hRoute
  refine ⟨other, hAdj, ?_, ?_⟩
  · rw [hParent, hAddress]
  · rw [metricAt_of_node hNode,
      hReady.coherent.metric_of_best hOther hBest, hCost,
      hEtx, hMetric]

/- A node in range with a route gives one. -/
theorem metricAt_le
    (hQuiet : s.Quiet setup)
    {index other : Nat}
    (hAdj : setup.radioGraph.Adj index other)
    (hFinite : s.metricAt other + 32 < 511) :
    s.metricAt index ≤ s.metricAt other + 32 := by
  rcases hQuiet.exists_node hAdj.1 with ⟨node, hNode⟩
  rcases hQuiet.exists_node hAdj.2.1 with ⟨next, hNext⟩
  have hHeard := hQuiet.heard hNode hNext hAdj.2.2
  have hReady := hQuiet.gossip.sound.ready index node hNode
  have hLocal := hQuiet.gossip.tables index node hNode
  rcases Option.map_eq_some_iff.mp hHeard with
    ⟨n, hFind, hMetric⟩
  rcases NeighborTable.mem_of_find? hFind with
    ⟨hMem, hAddress⟩
  have hEtx : n.etx.toNat = 32 := by
    unfold Neighbor.etx
    rw [(hLocal.entries n hMem).1, LinkEstimate.etx_fresh]
    rfl
  have hRoute : n.hasRoute = true := by
    rw [Neighbor.hasRoute_iff, hEtx, hMetric,
      ← metricAt_of_node hNext]
    omega
  have hCost := Neighbor.toNat_cost_of_hasRoute hRoute
  rw [hEtx, hMetric, ← metricAt_of_node hNext] at hCost
  rw [metricAt_of_node hNode]
  by_cases hSink : node.connection.role = .sink
  · rw [hReady.coherent.sink hSink]
    exact Nat.zero_le _
  · cases hBest : node.connection.neighbors.best with
    | none =>
        have hNone :=
          (NeighborTable.best_eq_none_iff _).mp hBest n hMem
        rw [hRoute] at hNone
        contradiction
    | some best =>
        rw [hReady.coherent.metric_of_best hSink hBest,
          ← hCost]
        exact NeighborTable.toNat_cost_best_le hBest hMem
          hRoute

/- When nothing waits, metrics agree with each other. -/
theorem settled
    (hQuiet : s.Quiet setup)
    (hSome : 0 < setup.nodeCount.toNat) :
    setup.Settled s.metricAt := by
  refine
    { sink := ?_
      bounded := ?_
      attained := ?_
      least := fun index other => hQuiet.metricAt_le }
  · rcases hQuiet.exists_node hSome with ⟨node, hNode⟩
    have hReady := hQuiet.gossip.sound.ready 0 node hNode
    have hSink := hReady.role_iff.mpr rfl
    rw [metricAt_of_node hNode, hReady.coherent.sink hSink]
    rfl
  · intro index hIndex
    rcases hQuiet.exists_node hIndex with ⟨node, hNode⟩
    have hReady :=
      hQuiet.gossip.sound.ready index node hNode
    rcases hReady.coherent.role_iff with
      ⟨hSink, hDisconnected, hConnected⟩
    rw [metricAt_of_node hNode]
    cases hRole : node.connection.role with
    | sink =>
        have hMetric := hSink.mp hRole
        omega
    | connected =>
        have hMetric := hConnected.mp hRole
        omega
    | disconnected =>
        have hMetric := hDisconnected.mp hRole
        omega
  · intro index hIndex hOther hFinite
    rcases hQuiet.exists_node hIndex with ⟨node, hNode⟩
    have hReady :=
      hQuiet.gossip.sound.ready index node hNode
    rw [metricAt_of_node hNode] at hFinite
    have hConnected : node.connection.role = .connected := by
      cases hRole : node.connection.role with
      | connected => rfl
      | sink => exact absurd (hReady.role_iff.mp hRole) hOther
      | disconnected =>
          have hMetric :=
            hReady.coherent.role_iff.2.1.mp hRole
          omega
    rcases hQuiet.next_hop hNode hConnected with
      ⟨other, hAdj, -, hCost⟩
    exact ⟨other, hAdj, hCost⟩

/- Up to fifteen hops are counted. -/
theorem metric_of_near
    (hQuiet : s.Quiet setup)
    {index : Nat}
    {node : Node}
    (hNode : s.nodes[index]? = some node)
    {count : Nat}
    (hHops : setup.hops index = count)
    (hBound : count ≤ 15) :
    node.connection.metric.toNat = 32 * count := by
  have hIndex := hQuiet.gossip.lt_of_node hNode
  rw [← metricAt_of_node hNode]
  exact
    (hQuiet.settled (Nat.zero_lt_of_lt hIndex)).eq_of_hops
      hIndex hHops hBound

theorem metric_of_far
    (hQuiet : s.Quiet setup)
    {index : Nat}
    {node : Node}
    (hNode : s.nodes[index]? = some node)
    (hHops : 15 < setup.hops index) :
    node.connection.metric.toNat = 511 := by
  have hIndex := hQuiet.gossip.lt_of_node hNode
  rw [← metricAt_of_node hNode]
  exact
    (hQuiet.settled (Nat.zero_lt_of_lt hIndex)).eq_of_far
      hIndex hHops

theorem connected_of_near
    (hQuiet : s.Quiet setup)
    {index : Nat}
    {node : Node}
    (hNode : s.nodes[index]? = some node)
    {count : Nat}
    (hHops : setup.hops index = (count + 1 : Nat))
    (hBound : count + 1 ≤ 15) :
    node.connection.role = .connected := by
  have hReady := hQuiet.gossip.sound.ready index node hNode
  have hMetric := hQuiet.metric_of_near hNode hHops hBound
  apply hReady.coherent.role_iff.2.2.mpr
  omega

theorem disconnected_of_far
    (hQuiet : s.Quiet setup)
    {index : Nat}
    {node : Node}
    (hNode : s.nodes[index]? = some node)
    (hHops : 15 < setup.hops index) :
    node.connection.role = .disconnected := by
  have hReady := hQuiet.gossip.sound.ready index node hNode
  apply hReady.coherent.role_iff.2.1.mpr
  exact hQuiet.metric_of_far hNode hHops

/- A parent is a node in range that is one hop closer. -/
theorem parent_of_near
    (hQuiet : s.Quiet setup)
    (hLasting : setup.Lasting)
    {index : Nat}
    {node : Node}
    (hNode : s.nodes[index]? = some node)
    {count : Nat}
    (hHops : setup.hops index = (count + 1 : Nat))
    (hBound : count + 1 ≤ 15) :
    ∃ parent, s.tree[index]? = some (some parent) ∧
      setup.inRange index parent = true ∧
      setup.hops parent = count := by
  have hSize := hQuiet.gossip.size
  have hAddresses := hLasting.addresses
  have hIndex := hQuiet.gossip.lt_of_node hNode
  have hSettled :=
    hQuiet.settled (Nat.zero_lt_of_lt hIndex)
  have hRole := hQuiet.connected_of_near hNode hHops hBound
  rcases hQuiet.next_hop hNode hRole with
    ⟨parent, hAdj, hParent, hCost⟩
  refine ⟨parent, ?_, hAdj.2.2, ?_⟩
  · unfold tree
    rw [List.getElem?_map, Array.getElem?_toList, hNode,
      Option.map_some, hParent, Option.bind_some,
      indexOf?_addressOf (by omega)
        (by rw [hSize]; exact hAdj.2.1)]
  · exact hSettled.hops_of_next hHops hBound hAdj hCost

/- A node is the sink or has a parent unless it is far. -/
theorem routed_iff
    (hQuiet : s.Quiet setup)
    {index : Nat}
    {node : Node}
    (hNode : s.nodes[index]? = some node) :
    (node.connection.isSink ||
        node.connection.role == .connected) = true ↔
      setup.hops index ≤ 15 := by
  constructor
  · intro hRouted
    by_contra hHops
    have hRole :=
      hQuiet.disconnected_of_far hNode (not_le.mp hHops)
    rw [Connection.isSink, hRole] at hRouted
    contradiction
  · intro hBound
    rcases ENat.ne_top_iff_exists.mp
        (ne_top_of_le_ne_top (ENat.natCast_ne_top 15)
          hBound) with
      ⟨count, hCount⟩
    cases count with
    | zero =>
        have hZero :=
          (setup.hops_eq_zero_iff index).mp hCount.symm
        have hReady :=
          hQuiet.gossip.sound.ready index node hNode
        have hSink := hReady.role_iff.mpr hZero
        simp [Connection.isSink, hSink]
    | succ count =>
        rw [← hCount] at hBound
        have hRole :=
          hQuiet.connected_of_near hNode hCount.symm
            (by exact_mod_cast hBound)
        simp [hRole]

end Quiet

------------------------------------------------------------
-- Hops to the Sink
------------------------------------------------------------

/-
  Metrics count hops up to fifteen of them, nodes further
  away have no route, and parents are one hop closer.
-/
structure FollowsHops
    (setup : Setup)
    (s : Simulation γ) : Prop where
  size : s.nodes.size = setup.nodeCount.toNat
  near :
    ∀ (index : Nat) (node : Node) (count : Nat),
      s.nodes[index]? = some node →
        setup.hops index = count → count ≤ 15 →
          node.connection.metric.toNat = 32 * count
  far :
    ∀ (index : Nat) (node : Node),
      s.nodes[index]? = some node →
        15 < setup.hops index →
          node.connection.metric = Metric.unreachable ∧
            node.connection.role = .disconnected
  parents :
    ∀ (index : Nat) (node : Node) (count : Nat),
      s.nodes[index]? = some node →
        setup.hops index = (count + 1 : Nat) →
        count + 1 ≤ 15 →
          node.connection.role = .connected ∧
            ∃ parent, s.tree[index]? = some (some parent) ∧
              setup.inRange index parent = true ∧
              setup.hops parent = count
  converged :
    s.isConverged = true ↔
      ∀ index, index < setup.nodeCount.toNat →
        setup.hops index ≤ 15

theorem Quiet.followsHops
    [LossSource γ]
    {setup : Setup}
    {s : Simulation γ}
    (hQuiet : s.Quiet setup)
    (hLasting : setup.Lasting) :
    s.FollowsHops setup := by
  have hSize := hQuiet.gossip.size
  refine
    { size := hSize
      near := ?_
      far := ?_
      parents := ?_
      converged := ?_ }
  · intro index node count hNode hHops hBound
    exact hQuiet.metric_of_near hNode hHops hBound
  · intro index node hNode hHops
    constructor
    · rw [Metric.eq_unreachable_iff]
      exact hQuiet.metric_of_far hNode hHops
    · exact hQuiet.disconnected_of_far hNode hHops
  · intro index node count hNode hHops hBound
    constructor
    · exact hQuiet.connected_of_near hNode hHops hBound
    · exact hQuiet.parent_of_near hLasting hNode hHops hBound
  · unfold isConverged
    rw [Array.all_eq_true]
    constructor
    · intro hAll index hIndex
      rw [← hSize] at hIndex
      have hNode := Array.getElem?_eq_getElem hIndex
      exact (hQuiet.routed_iff hNode).mp (hAll index hIndex)
    · intro hHops index hIndex
      have hNode := Array.getElem?_eq_getElem hIndex
      exact
        (hQuiet.routed_iff hNode).mpr
          (hHops index (hSize ▸ hIndex))

/-
  Without losses and readings, as long as no entry gets
  stale between two beacons and no step runs out of turns,
  the tree is one of shortest paths after the first step.
-/
theorem metrics_follow_hops
    {setup : Setup}
    {s : Simulation SeededLosses}
    (hNew : new? setup = .ok s)
    (hLossless : (setup.linkLoss == 0.0) = true)
    (hSilent : setup.messageInterval = 0)
    (hRoom :
      ∀ index, index < setup.nodeCount.toNat →
        ((List.range setup.nodeCount.toNat).filter
          (setup.inRange index)).length ≤
            setup.collect.neighborCapacity.toNat)
    (hLifetime :
      setup.beaconInterval.toNat * setup.stepMillis.toNat <
        1000 * setup.collect.neighborLifetime.toNat)
    {steps : Nat}
    (hSteps : 1 ≤ steps)
    (hTurns : ∀ m, m < steps → ¬ (run m s).RunsOut) :
    (run steps s).FollowsHops setup := by
  unfold new? at hNew
  cases hCheck : setup.check with
  | error failure =>
      rw [hCheck] at hNew
      contradiction
  | ok _ =>
      rw [hCheck, Except.ok.injEq] at hNew
      subst hNew
      rcases bounds_of_check hCheck with
        ⟨-, hAddresses, hInterval⟩
      have hLasting : setup.Lasting :=
        { addresses := hAddresses
          interval := hInterval
          room := hRoom
          lifetime := hLifetime }
      rcases gossip_run hLasting hSilent
        (Losses.lossless_ofSeed hLossless setup.seed)
        hTurns with ⟨hGossip, -, hEvents, hOutbox⟩
      have hQuiet : (run steps _).Quiet setup :=
        { gossip := hGossip
          outbox := hOutbox hSteps
          events := hEvents }
      exact hQuiet.followsHops hLasting

/- A line of three nodes settles in one step. -/
theorem metrics_follow_hops_of_line :
    let setup : Setup :=
      { Setup.standard with
        nodeCount := 3
        linkLoss := 0.0
        beaconInterval := 1
        messageInterval := 0 }
    let s :=
      start setup (SeededLosses.ofSeed setup.linkLoss 42)
    (run 1 s).tree = [none, some 0, some 1] ∧
      (run 1 s).FollowsHops setup := by
  intro setup s
  have hNew : new? setup = .ok s := by
    have hCheck : setup.check.isOk = true := by
      decide +kernel
    unfold new?
    cases hResult : setup.check with
    | error failure =>
        rw [hResult] at hCheck
        contradiction
    | ok _ => rfl
  have hRoom :
      ∀ index, index < setup.nodeCount.toNat →
        ((List.range setup.nodeCount.toNat).filter
          (setup.inRange index)).length ≤
            setup.collect.neighborCapacity.toNat := by
    decide +kernel
  have hTurns : ∀ m, m < 1 → ¬ (run m s).RunsOut := by
    intro m hLess
    rw [Nat.lt_one_iff] at hLess
    subst hLess
    have hEnded : s.step.turn?.isNone = true := by
      decide +kernel
    rw [RunsOut, Decidable.not_not]
    exact Option.isNone_iff_eq_none.mp hEnded
  constructor
  · decide +kernel
  · exact metrics_follow_hops hNew (by decide +kernel) rfl
      hRoom (by decide) (Nat.le_refl 1) hTurns

end Simulation

end CollectionTree
