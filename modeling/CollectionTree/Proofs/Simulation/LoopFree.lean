import CollectionTree.Proofs.Simulation.Rumors
import CollectionTree.Proofs.Simulation.ShortestPaths

/-
  Without losses, the tree leads to the sink.

  Key definitions include:
    * `Simulation.parentAt?`
    * `Simulation.uphill?`
    * `Simulation.AtRest`
    * `Simulation.LoopFree`

  Key theorems include:
    * `Simulation.AtRest.next_hop`
    * `Simulation.AtRest.metricAt_of_uphill?`
    * `Simulation.AtRest.reaches_sink`
    * `Simulation.tree_leads_to_sink`

  Once nothing waits, the metric that a node has for its
  parent is the parent's own.  A link costs at least one
  transmission, so metrics drop by eight with every hop, and
  no path is longer than a metric can count.
-/

namespace CollectionTree

namespace Simulation

variable {γ : Type}

------------------------------------------------------------
-- Paths in the Tree
------------------------------------------------------------

/- The parent of a node, by index. -/
def parentAt?
    (s : Simulation γ)
    (index : Nat) : Option Nat :=
  s.tree[index]?.join

/- The node that a number of hops in the tree lead to. -/
def uphill?
    (s : Simulation γ) :
    Nat → Nat → Option Nat
  | 0, index => some index
  | hops + 1, index =>
      (s.parentAt? index).bind (s.uphill? hops)

theorem uphill?_add
    (s : Simulation γ)
    (few more index : Nat) :
    s.uphill? (few + more) index =
      (s.uphill? few index).bind (s.uphill? more) := by
  induction few generalizing index with
  | zero =>
      rw [Nat.zero_add]
      rfl
  | succ few ih =>
      rw [Nat.succ_add]
      change (s.parentAt? index).bind _ =
        ((s.parentAt? index).bind _).bind _
      rw [Option.bind_assoc]
      exact congrArg _ (funext ih)

theorem parentAt?_of_node
    {s : Simulation γ}
    {index : Nat}
    {node : Node}
    (hNode : s.nodes[index]? = some node) :
    s.tree[index]? =
        some (node.connection.parent?.bind s.indexOf?) ∧
      s.parentAt? index =
        node.connection.parent?.bind s.indexOf? := by
  have hTree :
      s.tree[index]? =
        some (node.connection.parent?.bind s.indexOf?) := by
    unfold tree
    rw [List.getElem?_map, Array.getElem?_toList, hNode,
      Option.map_some]
  refine ⟨hTree, ?_⟩
  unfold parentAt?
  rw [hTree, Option.join_some]

------------------------------------------------------------
-- When Nothing Waits
------------------------------------------------------------

/- All that is needed of a state in which nothing waits. -/
structure AtRest
    [LossSource γ]
    (setup : Setup)
    (s : Simulation γ) : Prop where
  sound : s.Sound
  vicinal : s.Vicinal setup
  rumors : s.Rumors
  addresses : setup.nodeCount.toNat ≤ 255
  outbox : s.outbox.toList = []
  events : s.events.toList = []

namespace AtRest

variable
  [LossSource γ]
  {setup : Setup}
  {s : Simulation γ}

theorem size_le
    (hRest : s.AtRest setup) :
    s.nodes.size ≤ 255 := by
  rw [hRest.vicinal.size]
  exact hRest.addresses

/- An entry with a route has the metric of its node. -/
theorem entry
    (hRest : s.AtRest setup)
    {index : Nat}
    {node : Node}
    (hNode : s.nodes[index]? = some node)
    {n : Neighbor}
    (hMem : n ∈ node.connection.neighbors.entries)
    (hRoute : n.hasRoute = true) :
    ∃ other peer, s.nodes[other]? = some peer ∧
      n.address = addressOf other ∧
      n.metric = peer.connection.metric := by
  have hVicinal := hRest.vicinal
  have hTable := hVicinal.tables index node hNode
  rcases hTable.near n.address (List.mem_map_of_mem hMem)
    with ⟨other, hOther, hRange, hAddress⟩
  rw [← hVicinal.size] at hOther
  rw [← hVicinal.setup_eq] at hRange
  have hPeer := Array.getElem?_eq_getElem hOther
  -- With nothing on its way, what is believed is at hand.
  have hBelief :
      s.belief index node.connection.neighbors other =
        some n.metric := by
    have hFind := NeighborTable.find?_of_mem hTable.nodup hMem
    unfold belief lastPledge lastNews NeighborTable.heard
    rw [hRest.outbox, hRest.events, ← hAddress, hFind]
    rfl
  refine ⟨other, _, hPeer, hAddress, ?_⟩
  rcases hRest.rumors.beliefs index other node _ n.metric
    hNode hPeer hRange hBelief with hVoid | hRight
  · have hFinite := ((Neighbor.hasRoute_iff n).mp hRoute).1
    rw [Metric.eq_unreachable_iff] at hVoid
    omega
  · exact hRight

/- A connected node costs at least eight more than its parent. -/
theorem next_hop
    (hRest : s.AtRest setup)
    {index : Nat}
    {node : Node}
    (hNode : s.nodes[index]? = some node)
    (hConnected : node.connection.role = .connected) :
    ∃ parent other, s.nodes[parent]? = some other ∧
      s.tree[index]? = some (some parent) ∧
      other.connection.metric.toNat + 8 ≤
        node.connection.metric.toNat := by
  have hReady := hRest.sound.ready index node hNode
  have hCoherent := hReady.coherent
  have hOther : node.connection.role ≠ .sink := by
    simp [hConnected]
  rcases hCoherent.parent?_of_connected hConnected with
    ⟨n, hBest, hParent⟩
  rcases NeighborTable.mem_and_hasRoute_of_best hBest with
    ⟨hMem, hRoute⟩
  rcases hRest.entry hNode hMem hRoute with
    ⟨parent, other, hPeer, hAddress, hMetric⟩
  have hBound : parent < s.nodes.size :=
    (Array.getElem?_eq_some_iff.mp hPeer).1
  have hCost := Neighbor.toNat_cost_of_hasRoute hRoute
  have hLink := (hCoherent.links n hMem).le_etx
  refine ⟨parent, other, hPeer, ?_, ?_⟩
  · rw [(parentAt?_of_node hNode).1, hParent, hAddress,
      Option.bind_some,
      indexOf?_addressOf hRest.size_le hBound]
  · rw [hCoherent.metric_of_best hOther hBest, hCost,
      ← hMetric]
    exact Nat.add_le_add_left hLink _

omit [LossSource γ] in
/- Only connected nodes have parents. -/
theorem connected_of_parentAt?
    {index parent : Nat}
    (hParent : s.parentAt? index = some parent) :
    ∃ node, s.nodes[index]? = some node ∧
      node.connection.role = .connected := by
  cases hNode : s.nodes[index]? with
  | none =>
      unfold parentAt? tree at hParent
      rw [List.getElem?_map, Array.getElem?_toList,
        hNode] at hParent
      contradiction
  | some node =>
      refine ⟨node, rfl, ?_⟩
      rw [(parentAt?_of_node hNode).2] at hParent
      unfold Connection.parent? at hParent
      cases hRole : node.connection.role with
      | connected => rfl
      | sink =>
          rw [hRole] at hParent
          contradiction
      | disconnected =>
          rw [hRole] at hParent
          contradiction

/- Metrics drop by eight with every hop. -/
theorem metricAt_of_uphill?
    (hRest : s.AtRest setup)
    {hops index hop : Nat}
    (hHop : s.uphill? hops index = some hop) :
    s.metricAt hop + 8 * hops ≤ s.metricAt index := by
  induction hops generalizing index with
  | zero => exact Nat.le_of_eq (Option.some.inj hHop ▸ rfl)
  | succ hops ih =>
      rcases Option.bind_eq_some_iff.mp hHop with
        ⟨parent, hParent, hRest'⟩
      have hAbove := ih hRest'
      rcases connected_of_parentAt? hParent with
        ⟨node, hNode, hConnected⟩
      rcases hRest.next_hop hNode hConnected with
        ⟨parent', other, hPeer, hTree, hLess⟩
      have hSame : parent' = parent := by
        unfold parentAt? at hParent
        rw [hTree, Option.join_some] at hParent
        exact Option.some.inj hParent
      rw [← metricAt_of_node hPeer, ← metricAt_of_node hNode,
        hSame] at hLess
      omega

/- No node is met twice on the way up. -/
theorem eq_of_uphill?
    (hRest : s.AtRest setup)
    {few more index hop : Nat}
    (hFew : s.uphill? few index = some hop)
    (hMore : s.uphill? more index = some hop) :
    few = more := by
  have hNotLess :
      ∀ a b,
        s.uphill? a index = some hop →
          s.uphill? (a + b) index = some hop → b = 0 := by
    intro a b hFirst hSecond
    rw [uphill?_add, hFirst, Option.bind_some] at hSecond
    have hDrop := hRest.metricAt_of_uphill? hSecond
    omega
  rcases Nat.le_total few more with hLe | hLe
  · obtain ⟨rest, rfl⟩ := Nat.exists_eq_add_of_le hLe
    rw [hNotLess few rest hFew hMore, Nat.add_zero]
  · obtain ⟨rest, rfl⟩ := Nat.exists_eq_add_of_le hLe
    rw [hNotLess more rest hMore hFew, Nat.add_zero]

/- A node that has a route is the sink or connected. -/
theorem sink_or_connected
    (hRest : s.AtRest setup)
    {index : Nat}
    {node : Node}
    (hNode : s.nodes[index]? = some node)
    (hFinite : node.connection.metric.toNat < 511) :
    index = 0 ∨ node.connection.role = .connected := by
  have hReady := hRest.sound.ready index node hNode
  cases hRole : node.connection.role with
  | sink => exact Or.inl (hReady.role_iff.mp hRole)
  | connected => exact Or.inr rfl
  | disconnected =>
      have hMetric :=
        hReady.coherent.role_iff.2.1.mp hRole
      omega

/-
  The way up from a connected node ends at the sink, after
  no more hops than its metric has room for.
-/
theorem reaches_sink
    (hRest : s.AtRest setup)
    {index : Nat}
    {node : Node}
    (hNode : s.nodes[index]? = some node)
    (hConnected : node.connection.role = .connected) :
    ∃ hops, 0 < hops ∧
      8 * hops ≤ node.connection.metric.toNat ∧
      s.uphill? hops index = some 0 := by
  induction hMetric : node.connection.metric.toNat using
    Nat.strong_induction_on generalizing index node with
  | h m ih =>
      rcases hRest.next_hop hNode hConnected with
        ⟨parent, other, hPeer, hTree, hLess⟩
      have hParent : s.parentAt? index = some parent := by
        unfold parentAt?
        rw [hTree, Option.join_some]
      have hReady := hRest.sound.ready index node hNode
      have hBound :=
        hReady.coherent.role_iff.2.2.mp hConnected
      rcases hRest.sink_or_connected hPeer (by omega) with
        rfl | hAbove
      · refine ⟨1, Nat.one_pos, by omega, ?_⟩
        unfold uphill?
        rw [hParent, Option.bind_some]
        rfl
      · rcases ih other.connection.metric.toNat (by omega)
          hPeer hAbove rfl with ⟨hops, hSome, hShort, hTop⟩
        refine ⟨hops + 1, Nat.succ_pos hops, by omega, ?_⟩
        unfold uphill?
        rw [hParent, Option.bind_some]
        exact hTop

end AtRest

------------------------------------------------------------
-- Trees Without Loops
------------------------------------------------------------

/-
  Every connected node has a parent that costs at least
  eight less, no path up the tree meets a node twice, and
  from every connected node it ends at node 0, which has no
  parent, after at most 63 hops.
-/
structure LoopFree
    (s : Simulation γ) : Prop where
  parents :
    ∀ (index : Nat) (node : Node),
      s.nodes[index]? = some node →
        node.connection.role = .connected →
          ∃ parent other, s.nodes[parent]? = some other ∧
            s.tree[index]? = some (some parent) ∧
            other.connection.metric.toNat + 8 ≤
              node.connection.metric.toNat
  simple :
    ∀ few more index hop,
      s.uphill? few index = some hop →
        s.uphill? more index = some hop →
          few = more
  root : s.tree[0]? = some none
  paths :
    ∀ (index : Nat) (node : Node),
      s.nodes[index]? = some node →
        node.connection.role = .connected →
          ∃ hops, hops ≤ 63 ∧ s.uphill? hops index = some 0

theorem AtRest.loopFree
    [LossSource γ]
    {setup : Setup}
    {s : Simulation γ}
    (hRest : s.AtRest setup)
    (hSome : 0 < setup.nodeCount.toNat) :
    s.LoopFree := by
  refine
    { parents := fun index node => hRest.next_hop
      simple := fun few more index hop => hRest.eq_of_uphill?
      root := ?_
      paths := ?_ }
  · rw [← hRest.vicinal.size] at hSome
    have hNode := Array.getElem?_eq_getElem hSome
    have hReady := hRest.sound.ready 0 _ hNode
    have hSink := hReady.role_iff.mpr rfl
    rw [(parentAt?_of_node hNode).1]
    unfold Connection.parent?
    rw [hSink]
    rfl
  · intro index node hNode hConnected
    have hReady := hRest.sound.ready index node hNode
    have hBound :=
      hReady.coherent.role_iff.2.2.mp hConnected
    rcases hRest.reaches_sink hNode hConnected with
      ⟨hops, -, hShort, hTop⟩
    exact ⟨hops, by omega, hTop⟩

/- After a step that does not run out, nothing waits. -/
theorem atRest_run
    [LossSource γ]
    {setup : Setup}
    (hFew : setup.nodeCount.toNat ≤ 255)
    {losses : γ}
    (hLossless : Losses.Lossless losses)
    {steps : Nat}
    (hTurns :
      ¬ (run steps (start setup losses)).RunsOut) :
    (run (steps + 1) (start setup losses)).AtRest setup := by
  have hReaches :=
    reaches_run (steps + 1) (start setup losses)
  rw [not_runsOut_iff, turn?_eq_none_iff] at hTurns
  exact
    { sound :=
        Reaches.sound hReaches (sound_start setup losses)
      vicinal := vicinal_of_reaches hReaches
      rumors := rumors_of_reaches hFew hLossless hReaches
      addresses := hFew
      outbox := hTurns.1
      events := hTurns.2 }

/-
  Without losses, whatever the traffic, after a step that
  does not run out of turns the tree has no loops and leads
  to node 0.
-/
theorem tree_leads_to_sink
    {setup : Setup}
    {s : Simulation SeededLosses}
    (hNew : new? setup = .ok s)
    (hLossless : (setup.linkLoss == 0.0) = true)
    {steps : Nat}
    (hSteps : 1 ≤ steps)
    (hTurns : ∀ m, m < steps → ¬ (run m s).RunsOut) :
    (run steps s).LoopFree := by
  obtain ⟨hCheck, rfl⟩ := new?_eq_ok_iff.mp hNew
  obtain ⟨hSome, hAddresses, -⟩ := bounds_of_check hCheck
  obtain ⟨before, rfl⟩ := Nat.exists_eq_add_of_le' hSteps
  have hRest :=
    atRest_run hAddresses
      (Losses.lossless_ofSeed hLossless setup.seed)
      (hTurns before (Nat.lt_succ_self before))
  exact hRest.loopFree hSome

/- A line of three nodes that send readings has no loops. -/
theorem tree_leads_to_sink_of_line :
    let setup : Setup :=
      { Setup.standard with
        nodeCount := 3
        linkLoss := 0.0
        beaconInterval := 1
        messageInterval := 1 }
    let s :=
      start setup (SeededLosses.ofSeed setup.linkLoss 42)
    (run 2 s).tree = [none, some 0, some 1] ∧
      (run 2 s).uphill? 2 2 = some 0 ∧
      (run 2 s).LoopFree := by
  intro setup s
  have hNew : new? setup = .ok s :=
    new?_eq_ok_iff.mpr
      ⟨check_eq_ok_of_isOk (by decide +kernel), rfl⟩
  have hQuiet :
      ∀ m < 2, (run (m + 1) s).turn?.isNone = true := by
    decide +kernel
  have hRun :
      (run 2 s).tree = [none, some 0, some 1] ∧
        (run 2 s).uphill? 2 2 = some 0 := by
    decide +kernel
  obtain ⟨hTree, hPath⟩ := hRun
  have hTurns : ∀ m, m < 2 → ¬ (run m s).RunsOut := by
    intro m hLess
    exact
      not_runsOut_iff.mpr
        (Option.isNone_iff_eq_none.mp (hQuiet m hLess))
  refine ⟨hTree, hPath, ?_⟩
  exact tree_leads_to_sink hNew (by decide +kernel)
    (by decide) hTurns

end Simulation

end CollectionTree
