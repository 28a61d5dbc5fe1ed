import CollectionTree.Proofs.Connection.Coherence
import CollectionTree.Proofs.Links
import CollectionTree.Proofs.Simulation.Ageing
import CollectionTree.Proofs.Simulation.Line
import CollectionTree.Proofs.Simulation.Rumors

/-
  Along a line that loses nothing, packets go downhill.

  Key definitions include:
    * `Simulation.trail`
    * `Simulation.Downhill`

  Key theorems include:
    * `Simulation.Downhill.next_hop`
    * `Simulation.Downhill.dispatched`

  Links get better while packets go over them, so metrics
  fall and never rise.  What is known of a node is what it
  announced earlier, which is no less than its metric now.
  So the node after another one always seems dearer than it
  is, and every node sends to the one before it.
-/

namespace CollectionTree

------------------------------------------------------------
-- The Cheapest Neighbor
------------------------------------------------------------

/- A route that is cheaper than all others is taken. -/
theorem Connection.Coherent.best_of_cheapest
    {c : Connection}
    (hCoherent : c.Coherent)
    (hOther : c.role ≠ .sink)
    {n : Neighbor}
    (hMem : n ∈ c.neighbors.entries)
    (hCost : n.metric.toNat + n.etx.toNat < 511)
    (hCheapest :
      ∀ m ∈ c.neighbors.entries, m = n ∨
        n.metric.toNat + n.etx.toNat <
          m.metric.toNat + m.etx.toNat) :
    c.neighbors.best = some n ∧
      c.metric.toNat = n.metric.toNat + n.etx.toNat := by
  have hRoute : n.hasRoute = true := by
    rw [Neighbor.hasRoute_iff]
    omega
  have hSum := Neighbor.toNat_cost_of_hasRoute hRoute
  have hBest : c.neighbors.best = some n := by
    cases hBest : c.neighbors.best with
    | none =>
        have hNone :=
          (NeighborTable.best_eq_none_iff _).mp hBest n hMem
        rw [hRoute] at hNone
        contradiction
    | some m =>
        rcases NeighborTable.mem_and_hasRoute_of_best hBest
          with ⟨hEntry, hEntryRoute⟩
        have hLeast :=
          NeighborTable.toNat_cost_best_le hBest hMem hRoute
        rw [Neighbor.toNat_cost_of_hasRoute hEntryRoute,
          hSum] at hLeast
        rcases hCheapest m hEntry with rfl | hLess
        · rfl
        · omega
  refine ⟨hBest, ?_⟩
  rw [hCoherent.metric_of_best hOther hBest, hSum]

------------------------------------------------------------
-- Entries That Get Cheaper
------------------------------------------------------------

namespace Neighbor

/- A packet that arrives at once makes no link dearer. -/
theorem link_after
    {n : Neighbor}
    (hSteady : n.link.Steady)
    {event : Event}
    (hAtOnce :
      ∀ receiver outcome transmissions,
        event = .sent receiver outcome transmissions →
          outcome = .acked ∧ transmissions = 1) :
    (n.after event).link.Steady ∧
      (n.after event).etx.toNat ≤ n.etx.toNat := by
  have hSame :
      n.link.Steady ∧ n.etx.toNat ≤ n.etx.toNat :=
    ⟨hSteady, Nat.le_refl _⟩
  cases event with
  | received sender packet => exact hSame
  | sent receiver outcome transmissions =>
      obtain ⟨hAcked, hOne⟩ :=
        hAtOnce receiver outcome transmissions rfl
      subst hAcked hOne
      unfold after
      simp only
      split
      · exact
          ⟨hSteady.recordSuccess,
            hSteady.etx_recordSuccess_le⟩
      · exact hSame
  | announced sender metric =>
      unfold after
      simp only
      split
      · exact hSame
      · exact hSame
  | elapsed time => exact hSame

/- Only an announcement changes the metric of an entry. -/
theorem metric_after
    {n : Neighbor}
    {event : Event}
    (hSilent :
      ∀ metric, event ≠ .announced n.address metric) :
    (n.after event).metric = n.metric := by
  cases event with
  | received sender packet => rfl
  | sent receiver outcome transmissions =>
      unfold after
      simp only
      split
      · split <;> rfl
      · rfl
  | announced sender metric =>
      unfold after
      have hOther : n.address ≠ sender := by
        intro hEq
        exact hSilent metric (hEq ▸ rfl)
      exact congrArg Neighbor.metric (if_neg hOther)
  | elapsed time => rfl

end Neighbor

/- Whether a request is to let a node hear its neighbors. -/
def Request.isListen : Request → Bool
  | .listen _ _ => true
  | _ => false

/- A table has the metrics of its entries. -/
theorem NeighborTable.heard_of_mem
    {t : NeighborTable}
    (hNodup : t.addresses.Nodup)
    {n : Neighbor}
    (hMem : n ∈ t.entries)
    {a : Address}
    (hAddress : n.address = a) :
    t.heard a = some n.metric := by
  have hFind := find?_of_mem hNodup hMem
  rw [hAddress] at hFind
  unfold heard
  rw [hFind]
  rfl

namespace Simulation

variable {γ : Type}

------------------------------------------------------------
-- Trails
------------------------------------------------------------

/-
  What a listener knows of the metric of a sender, from the
  oldest to the newest: the bound that it started with, what
  the listener was told last, what it is being told, and
  what is about to be announced.
-/
def trail
    (s : Simulation γ)
    (t : NeighborTable)
    (listener sender : Nat) : List Nat :=
  32 * sender ::
    ((t.heard (addressOf sender)).toList ++
      s.events.toList.filterMap
        (newsOf listener (addressOf sender)) ++
      s.outbox.toList.filterMap
        (pledgeOf sender)).map UInt16.toNat

/- No number in a list is below a later one. -/
def Falls
    (numbers : List Nat) : Prop :=
  numbers.Pairwise (fun first later => later ≤ first)

theorem falls_append_iff
    (numbers : List Nat)
    (last : Nat) :
    Falls (numbers ++ [last]) ↔
      Falls numbers ∧ ∀ n ∈ numbers, last ≤ n := by
  unfold Falls
  rw [List.pairwise_append]
  constructor
  · rintro ⟨hBefore, -, hLast⟩
    exact ⟨hBefore, fun n hMem => hLast n hMem last (by simp)⟩
  · rintro ⟨hBefore, hLast⟩
    refine ⟨hBefore, List.pairwise_singleton _ _, ?_⟩
    intro n hMem later hLater
    rw [List.mem_singleton.mp hLater]
    exact hLast n hMem

/- What falls to a number falls to any that is lower. -/
theorem falls_lower
    {numbers : List Nat}
    {last lower : Nat}
    (hFalls : Falls (numbers ++ [last]))
    (hLower : lower ≤ last) :
    Falls (numbers ++ [lower]) := by
  rw [falls_append_iff] at hFalls ⊢
  exact
    ⟨hFalls.1, fun n hMem =>
      Nat.le_trans hLower (hFalls.2 n hMem)⟩

/- The last number of a list that falls may be repeated. -/
theorem falls_repeat
    {numbers : List Nat}
    {last : Nat}
    (hFalls : Falls (numbers ++ [last])) :
    Falls (numbers ++ [last] ++ [last]) := by
  rw [falls_append_iff]
  refine ⟨hFalls, ?_⟩
  intro n hMem
  rw [List.mem_append, List.mem_singleton] at hMem
  rcases hMem with hMem | rfl
  · exact ((falls_append_iff _ _).mp hFalls).2 n hMem
  · exact Nat.le_refl n

/- A metric in a table is between the bound and the truth. -/
theorem bounds_of_trail
    {s : Simulation γ}
    {t : NeighborTable}
    {listener sender : Nat}
    {last : Nat}
    (hFalls : Falls (s.trail t listener sender ++ [last]))
    {metric : Metric}
    (hHeard : t.heard (addressOf sender) = some metric) :
    last ≤ metric.toNat ∧ metric.toNat ≤ 32 * sender := by
  have hMem : metric.toNat ∈ (s.trail t listener sender).tail := by
    unfold trail
    rw [hHeard]
    simp
  obtain ⟨hBefore, hLast⟩ :=
    (falls_append_iff _ _).mp hFalls
  constructor
  · exact hLast _ (List.mem_of_mem_tail hMem)
  · exact (List.pairwise_cons.mp hBefore).1 _ hMem

/- A listener is told of metrics that are no higher. -/
theorem news_le_of_trail
    {s : Simulation γ}
    {t : NeighborTable}
    {listener sender : Nat}
    {last : Nat}
    (hFalls : Falls (s.trail t listener sender ++ [last]))
    {metric told : Metric}
    (hHeard : t.heard (addressOf sender) = some metric)
    (hTold :
      (listener, .announced (addressOf sender) told) ∈
        s.events.toList) :
    told.toNat ≤ metric.toNat := by
  have hBefore := ((falls_append_iff _ _).mp hFalls).1
  have hNews :
      told ∈ s.events.toList.filterMap
        (newsOf listener (addressOf sender)) :=
    List.mem_filterMap.mpr
      ⟨_, hTold, newsOf_eq_some_iff.mpr rfl⟩
  unfold trail at hBefore
  rw [hHeard, Option.toList_some, List.append_assoc,
    List.singleton_append, List.map_cons] at hBefore
  have hLater := (List.pairwise_cons.mp hBefore).2
  apply (List.pairwise_cons.mp hLater).1
  exact List.mem_map_of_mem
    (List.mem_append_left _ hNews)

------------------------------------------------------------
-- Downhill
------------------------------------------------------------

/-
  Links are no worse than unused ones, what is known of a
  metric falls to what it is, and the metric of a node is
  the cost of the way through the node before it.  No node
  is about to listen to what others announce out of turn.
-/
structure Downhill
    (setup : Setup)
    (s : Simulation γ) : Prop where
  links :
    ∀ (index : Nat) (node : Node),
      s.nodes[index]? = some node →
        ∀ n ∈ node.connection.neighbors.entries,
          n.link.Steady
  trails :
    ∀ (listener sender : Nat) (node other : Node),
      s.nodes[listener]? = some node →
        s.nodes[sender]? = some other →
        setup.inRange listener sender = true →
          Falls
            (s.trail node.connection.neighbors listener
                sender ++
              [other.connection.metric.toNat])
  slopes :
    ∀ (index : Nat) (node : Node),
      s.nodes[index + 1]? = some node →
        ∃ n ∈ node.connection.neighbors.entries,
          n.address = addressOf index ∧
            node.connection.metric.toNat =
              n.metric.toNat + n.etx.toNat
  silent :
    ∀ request ∈ s.outbox.toList, request.isListen = false

/-
  A node takes the way through the node before it as long as
  the node after it has told of a metric that is higher.
-/
theorem best_of_slope
    {setup : Setup}
    (hLine : setup.LosslessLine)
    {index : Nat}
    (hIndex : index + 1 < setup.nodeCount.toNat)
    {node : Node}
    (hReady : node.Ready (index + 1))
    (hTable :
      node.connection.neighbors.Vicinal setup (index + 1))
    {n : Neighbor}
    (hMem : n ∈ node.connection.neighbors.entries)
    (hAddress : n.address = addressOf index)
    {bound : Nat}
    (hCost : n.metric.toNat + n.etx.toNat ≤ bound)
    (hBound : bound < 511)
    (hAbove :
      ∀ m ∈ node.connection.neighbors.entries,
        index + 2 < setup.nodeCount.toNat →
          m.address = addressOf (index + 2) →
            bound < m.metric.toNat) :
    node.connection.neighbors.best = some n ∧
      node.connection.metric.toNat =
        n.metric.toNat + n.etx.toNat := by
  have hRole : node.connection.role ≠ .sink := by
    rw [ne_eq, hReady.role_iff]
    exact Nat.succ_ne_zero index
  apply hReady.coherent.best_of_cheapest hRole hMem
    (by omega)
  intro m hEntry
  rcases (hLine.near_iff hIndex m.address).mp
    (hTable.near _ (List.mem_map_of_mem hEntry)) with
    ⟨other, hOther, hAfter | hBefore, hSame⟩
  · subst hAfter
    have hHigher := hAbove m hEntry hOther hSame
    apply Or.inr
    omega
  · obtain rfl : index = other := by omega
    have hFirst :=
      NeighborTable.find?_of_mem hTable.nodup hEntry
    have hSecond :=
      NeighborTable.find?_of_mem hTable.nodup hMem
    rw [hSame] at hFirst
    rw [hAddress, hFirst] at hSecond
    exact Or.inl (Option.some.inj hSecond)

section Downhill

variable
  {setup : Setup}
  {s : Simulation γ}

/- What a listener has heard of a node is not below it. -/
theorem Downhill.bounds
    (hDownhill : s.Downhill setup)
    (hVicinal : s.Vicinal setup)
    {listener sender : Nat}
    {node other : Node}
    (hNode : s.nodes[listener]? = some node)
    (hOther : s.nodes[sender]? = some other)
    (hRange : setup.inRange listener sender = true)
    {n : Neighbor}
    (hMem : n ∈ node.connection.neighbors.entries)
    (hAddress : n.address = addressOf sender) :
    other.connection.metric.toNat ≤ n.metric.toNat ∧
      n.metric.toNat ≤ 32 * sender := by
  have hNodup := (hVicinal.tables listener node hNode).nodup
  exact
    bounds_of_trail
      (hDownhill.trails listener sender node other hNode
        hOther hRange)
      (NeighborTable.heard_of_mem hNodup hMem hAddress)

/- The next node along the line has a higher metric. -/
theorem Downhill.uphill
    (hDownhill : s.Downhill setup)
    (hLine : setup.LosslessLine)
    (hVicinal : s.Vicinal setup)
    {index : Nat}
    {node other : Node}
    (hNode : s.nodes[index]? = some node)
    (hOther : s.nodes[index + 1]? = some other) :
    node.connection.metric.toNat <
      other.connection.metric.toNat := by
  have hIndex : index < setup.nodeCount.toNat := by
    rw [← hVicinal.size]
    exact (Array.getElem?_eq_some_iff.mp hNode).1
  have hNext : index + 1 < setup.nodeCount.toNat := by
    rw [← hVicinal.size]
    exact (Array.getElem?_eq_some_iff.mp hOther).1
  have hRange : setup.inRange (index + 1) index = true :=
    (hLine.inRange_iff hNext hIndex).mpr (Or.inr rfl)
  rcases hDownhill.slopes index other hOther with
    ⟨n, hMem, hAddress, hMetric⟩
  have hBelow :=
    hDownhill.bounds hVicinal hOther hNode hRange hMem
      hAddress
  have hLink :=
    (hDownhill.links _ other hOther n hMem).le_etx
  have hEtx : n.etx = n.link.etx := rfl
  rw [← hEtx] at hLink
  omega

/- All metrics are those of routes. -/
theorem Downhill.metric_le
    (hDownhill : s.Downhill setup)
    (hLine : setup.LosslessLine)
    (hVicinal : s.Vicinal setup)
    {index : Nat}
    {node : Node}
    (hNode : s.nodes[index + 1]? = some node) :
    node.connection.metric.toNat ≤ 32 * (index + 1) := by
  have hNext : index + 1 < setup.nodeCount.toNat := by
    rw [← hVicinal.size]
    exact (Array.getElem?_eq_some_iff.mp hNode).1
  have hIndex : index < s.nodes.size := by
    rw [hVicinal.size]
    omega
  have hRange : setup.inRange (index + 1) index = true :=
    (hLine.inRange_iff hNext (by omega)).mpr (Or.inr rfl)
  rcases hDownhill.slopes index node hNode with
    ⟨n, hMem, hAddress, hMetric⟩
  have hBelow :=
    hDownhill.bounds hVicinal hNode
      (Array.getElem?_eq_getElem hIndex) hRange hMem hAddress
  have hLink := (hDownhill.links _ node hNode n hMem).etx_le
  have hEtx : n.etx = n.link.etx := rfl
  rw [← hEtx] at hLink
  omega

/- Every node but the sink sends to the node before it. -/
theorem Downhill.next_hop
    (hDownhill : s.Downhill setup)
    (hLine : setup.LosslessLine)
    (hSound : s.Sound)
    (hVicinal : s.Vicinal setup)
    {index : Nat}
    {node : Node}
    (hNode : s.nodes[index + 1]? = some node) :
    ∃ n, node.connection.neighbors.best = some n ∧
      n.address = addressOf index ∧
      node.connection.metric ≠ Metric.unreachable := by
  have hFew := hLine.few
  have hIndex : index + 1 < setup.nodeCount.toNat := by
    rw [← hVicinal.size]
    exact (Array.getElem?_eq_some_iff.mp hNode).1
  have hMost := hDownhill.metric_le hLine hVicinal hNode
  rcases hDownhill.slopes index node hNode with
    ⟨n, hMem, hAddress, hMetric⟩
  refine ⟨n, ?_, hAddress, ?_⟩
  · refine (best_of_slope hLine hIndex
      (hSound.ready _ node hNode)
      (hVicinal.tables _ node hNode) hMem hAddress
      (Nat.le_of_eq hMetric.symm) (by omega) ?_).1
    intro m hEntry hNext hSame
    have hSize : index + 2 < s.nodes.size := by
      rw [hVicinal.size]
      exact hNext
    have hOther := Array.getElem?_eq_getElem hSize
    have hHigher := hDownhill.uphill hLine hVicinal hNode hOther
    have hRange : setup.inRange (index + 1) (index + 2) = true :=
      (hLine.inRange_iff hIndex hNext).mpr (Or.inl rfl)
    have hBelow :=
      hDownhill.bounds hVicinal hNode hOther hRange hEntry
        hSame
    omega
  · rw [ne_eq, Metric.eq_unreachable_iff]
    omega

end Downhill

------------------------------------------------------------
-- Events
------------------------------------------------------------

/- A node that handles an event does not ask to hear others. -/
theorem silent_of_handling
    {index : Nat}
    {node next : Node}
    {event : Event}
    {requests : List Request}
    (hHandling :
      node.Handling index event next requests) :
    ∀ request ∈ requests, request.isListen = false := by
  have hRerouted :
      ∀ (node : Node) (d : Connection),
        Node.Rerouted index node d next requests →
          ∀ request ∈ requests, request.isListen = false := by
    intro node d hRerouted request hMem
    cases hRerouted with
    | kept => contradiction
    | changed =>
        rw [List.mem_singleton.mp hMem]
        rfl
  cases hHandling with
  | echoed =>
      intro request hMem
      contradiction
  | heard _ _ _ _ _ hSpread => exact hRerouted _ _ hSpread
  | aged _ _ _ hSpread => exact hRerouted _ _ hSpread
  | concluded _ _ _ _ _ hSpread => exact hRerouted _ _ hSpread
  | received sender packet outcome hReception =>
      intro request hMem
      cases hReception with
      | refused _ _ _ _ _ _ _ _ failure hAnswer =>
          contradiction
      | relayed =>
          rw [show (node.carriedOut index _).2 =
            [Request.unicast index _] from rfl,
            List.mem_singleton] at hMem
          rw [hMem]
          rfl
      | _ => contradiction

section Dispatched

variable
  {setup : Setup}
  {s t : Simulation γ}
  {index : Nat}
  {event : Event}
  {node next : Node}

/- Only the node itself announces its metric, and once. -/
theorem pledged_of_dispatched
    (hDispatched : Dispatched s t index event node next)
    (sender : Nat) :
    t.outbox.toList.filterMap (pledgeOf sender) = [] ∨
      (sender = index ∧
        t.outbox.toList.filterMap (pledgeOf sender) =
          [next.connection.metric]) := by
  rcases pledges_of_handling hDispatched.handling with
    ⟨-, hNone⟩ | hOne
  · apply Or.inl
    rw [List.filterMap_eq_nil_iff]
    exact fun request hMem => hNone request hMem sender
  · rw [hOne]
    by_cases hSame : sender = index
    · subst hSame
      exact Or.inr ⟨rfl, by simp [pledgeOf]⟩
    · apply Or.inl
      simp [pledgeOf, Ne.symm hSame]

/- What others are being told does not change. -/
theorem news_of_bystander
    (hDispatched : Dispatched s t index event node next)
    {listener : Nat}
    (hOther : listener ≠ index)
    (sender : Address) :
    s.events.toList.filterMap (newsOf listener sender) =
      t.events.toList.filterMap (newsOf listener sender) := by
  rw [hDispatched.events, List.filterMap_cons,
    newsOf_of_ne (Ne.symm hOther)]

/- To others a node tells its metric, if anything. -/
theorem trail_of_bystander
    (hDispatched : Dispatched s t index event node next)
    {listener : Nat}
    (hOther : listener ≠ index)
    (table : NeighborTable)
    (sender : Nat) :
    t.trail table listener sender =
        s.trail table listener sender ∨
      (sender = index ∧
        t.trail table listener sender =
          s.trail table listener sender ++
            [next.connection.metric.toNat]) := by
  have hNews := news_of_bystander hDispatched hOther
  unfold trail
  rw [hNews, hDispatched.outbox]
  rcases pledged_of_dispatched hDispatched sender with
    hNone | ⟨rfl, hOne⟩
  · rw [hNone]
    exact Or.inl rfl
  · rw [hOne]
    refine Or.inr ⟨rfl, ?_⟩
    simp

/- What a node knows after an event, it was to know before. -/
theorem trail_of_listener
    (hDispatched : Dispatched s t index event node next)
    (hTable :
      next.connection.neighbors =
        { node.connection.neighbors with
          entries :=
            node.connection.neighbors.entries.map (fun n =>
              n.after event) })
    {sender : Nat}
    (hSender : sender ≠ index) :
    (t.trail next.connection.neighbors index
        sender).Sublist
      (s.trail node.connection.neighbors index sender) := by
  have hFind :
      next.connection.neighbors.find? (addressOf sender) =
        (node.connection.neighbors.find?
          (addressOf sender)).map (fun n =>
            n.after event) := by
    rw [hTable]
    unfold NeighborTable.find?
    rw [List.find?_map]
    have hSame :
        (fun n : Neighbor => n.address == addressOf sender) ∘
            (fun n : Neighbor => n.after event) =
          fun n : Neighbor =>
            n.address == addressOf sender := by
      funext n
      exact congrArg (· == addressOf sender)
        (n.address_after event)
    rw [hSame]
  have hQuiet :
      t.outbox.toList.filterMap (pledgeOf sender) = [] := by
    rcases pledged_of_dispatched hDispatched sender with
      hNone | ⟨hSame, -⟩
    · exact hNone
    · exact absurd hSame hSender
  have hLater :
      (t.events.toList.filterMap
          (newsOf index (addressOf sender))).Sublist
        (s.events.toList.filterMap
          (newsOf index (addressOf sender))) := by
    rw [hDispatched.events]
    exact (List.sublist_cons_self _ _).filterMap _
  unfold trail NeighborTable.heard
  rw [hFind, hQuiet, hDispatched.outbox]
  apply List.Sublist.cons_cons
  apply List.Sublist.map
  simp only [List.filterMap_nil, List.append_nil]
  cases hEntry :
    node.connection.neighbors.find? (addressOf sender) with
  | none => exact hLater
  | some n =>
      have hAddress := (NeighborTable.mem_of_find? hEntry).2
      by_cases hTold :
          ∃ metric, event = .announced n.address metric
      · -- The entry is what the event tells from now on.
        rcases hTold with ⟨metric, rfl⟩
        have hNews :
            newsOf index (addressOf sender)
                (index, .announced n.address metric) =
              some metric := by
          rw [newsOf_eq_some_iff, hAddress]
        simp only [Option.map_some, Option.toList_some,
          Neighbor.after_announced, hDispatched.events]
        rw [List.filterMap_cons_some hNews]
        exact List.sublist_cons_self _ _
      · have hSame : (n.after event).metric = n.metric :=
          Neighbor.metric_after (fun metric hEq =>
            hTold ⟨metric, hEq⟩)
        simp only [Option.map_some, hSame]
        exact hLater.append_left _

/- What a node knows of others still falls to the truth. -/
theorem Downhill.trails_of_listener
    (hDownhill : s.Downhill setup)
    (hDispatched : Dispatched s t index event node next)
    (hTable :
      next.connection.neighbors =
        { node.connection.neighbors with
          entries :=
            node.connection.neighbors.entries.map (fun n =>
              n.after event) })
    {sender : Nat}
    {other : Node}
    (hSender : sender ≠ index)
    (hOther : s.nodes[sender]? = some other)
    (hRange : setup.inRange index sender = true) :
    Falls
      (t.trail next.connection.neighbors index sender ++
        [other.connection.metric.toNat]) := by
  have hBefore :=
    hDownhill.trails index sender node other
      hDispatched.found hOther hRange
  have hLess := trail_of_listener hDispatched hTable hSender
  exact hBefore.sublist (hLess.append_right _)

/- An event makes no way through another node dearer. -/
theorem Downhill.cost_after_le
    (hDownhill : s.Downhill setup)
    (hVicinal : s.Vicinal setup)
    (hDispatched : Dispatched s t index event node next)
    (hAtOnce :
      ∀ receiver outcome transmissions,
        event = .sent receiver outcome transmissions →
          outcome = .acked ∧ transmissions = 1)
    {sender : Nat}
    {other : Node}
    (hOther : s.nodes[sender]? = some other)
    (hRange : setup.inRange index sender = true)
    {n : Neighbor}
    (hMem : n ∈ node.connection.neighbors.entries)
    (hAddress : n.address = addressOf sender) :
    (n.after event).metric.toNat +
        (n.after event).etx.toNat ≤
      n.metric.toNat + n.etx.toNat := by
  have hNode := hDispatched.found
  have hNodup := (hVicinal.tables index node hNode).nodup
  have hSteady := hDownhill.links index node hNode n hMem
  have hLink := Neighbor.link_after hSteady hAtOnce
  have hMetric :
      (n.after event).metric.toNat ≤ n.metric.toNat := by
    by_cases hTold :
        ∃ metric, event = .announced n.address metric
    · rcases hTold with ⟨metric, rfl⟩
      rw [Neighbor.after_announced]
      apply news_le_of_trail
        (hDownhill.trails index sender node other hNode
          hOther hRange)
        (NeighborTable.heard_of_mem hNodup hMem hAddress)
      rw [hDispatched.events, hAddress]
      exact List.mem_cons_self
    · rw [Neighbor.metric_after (fun metric hEq =>
        hTold ⟨metric, hEq⟩)]
  omega

/-
  An event does not raise the metric of its node, which
  remains that of the way through the node before it.
-/
theorem Downhill.metric_of_dispatched
    (hDownhill : s.Downhill setup)
    (hLine : setup.LosslessLine)
    (hSound : s.Sound)
    (hVicinal : s.Vicinal setup)
    (hDispatched : Dispatched s t index event node next)
    (hTable :
      next.connection.neighbors =
        { node.connection.neighbors with
          entries :=
            node.connection.neighbors.entries.map (fun n =>
              n.after event) })
    (hAtOnce :
      ∀ receiver outcome transmissions,
        event = .sent receiver outcome transmissions →
          outcome = .acked ∧ transmissions = 1) :
    next.connection.metric.toNat ≤
        node.connection.metric.toNat ∧
      ∀ before, index = before + 1 →
        ∃ n ∈ next.connection.neighbors.entries,
          n.address = addressOf before ∧
            next.connection.metric.toNat =
              n.metric.toNat + n.etx.toNat := by
  have hFew := hLine.few
  have hSize := hVicinal.size
  have hNode := hDispatched.found
  have hReady :=
    hDispatched.handling.ready (hSound.ready index node hNode)
  have hIndex : index < s.nodes.size :=
    (Array.getElem?_eq_some_iff.mp hNode).1
  have hNext : t.nodes[index]? = some next := by
    rw [hDispatched.nodes]
    exact Array.getElem?_setIfInBounds_self_of_lt hIndex
  have hNear :=
    (hVicinal.of_dispatched hDispatched).tables index next
      hNext
  cases index with
  | zero =>
      have hSink := hReady.role_iff.mpr rfl
      rw [hReady.coherent.sink hSink]
      exact
        ⟨Nat.zero_le _, fun before hEq =>
          absurd hEq (Nat.succ_ne_zero before).symm⟩
  | succ before =>
      have hMost := hDownhill.metric_le hLine hVicinal hNode
      rcases hDownhill.slopes before node hNode with
        ⟨n, hMem, hAddress, hMetric⟩
      have hEntry :
          n.after event ∈ next.connection.neighbors.entries := by
        rw [hTable]
        exact List.mem_map_of_mem hMem
      have hSame : (n.after event).address = addressOf before :=
        (n.address_after event).trans hAddress
      have hBefore : before < s.nodes.size := by
        omega
      have hCost :=
        hDownhill.cost_after_le hVicinal hDispatched hAtOnce
          (Array.getElem?_eq_getElem hBefore)
          ((hLine.inRange_iff (by omega) (by omega)).mpr
            (Or.inr rfl))
          hMem hAddress
      rw [← hMetric] at hCost
      -- The node after this one is as high as it was.
      have hAbove :
          ∀ m ∈ next.connection.neighbors.entries,
            before + 2 < setup.nodeCount.toNat →
              m.address = addressOf (before + 2) →
                node.connection.metric.toNat <
                  m.metric.toNat := by
        intro m hOther hLess hOtherAddress
        have hAfter : before + 2 < s.nodes.size := by
          omega
        have hAfterNode := Array.getElem?_eq_getElem hAfter
        have hHigher :=
          hDownhill.uphill hLine hVicinal hNode hAfterNode
        have hFalls :=
          hDownhill.trails_of_listener hDispatched hTable
            (by omega) hAfterNode
            ((hLine.inRange_iff (by omega) hLess).mpr
              (Or.inl rfl))
        have hHeard :=
          NeighborTable.heard_of_mem hNear.nodup hOther
            hOtherAddress
        have hBelow := (bounds_of_trail hFalls hHeard).1
        omega
      have hRoute :=
        (best_of_slope hLine (by omega) hReady hNear hEntry
          hSame hCost (by omega) hAbove).2
      refine ⟨by omega, ?_⟩
      intro other hEq
      obtain rfl : before = other := by
        omega
      exact ⟨_, hEntry, hSame, hRoute⟩

theorem Downhill.dispatched
    (hDownhill : s.Downhill setup)
    (hLine : setup.LosslessLine)
    (hSound : s.Sound)
    (hVicinal : s.Vicinal setup)
    (hDispatched : Dispatched s t index event node next)
    (hTable :
      next.connection.neighbors =
        { node.connection.neighbors with
          entries :=
            node.connection.neighbors.entries.map (fun n =>
              n.after event) })
    (hAtOnce :
      ∀ receiver outcome transmissions,
        event = .sent receiver outcome transmissions →
          outcome = .acked ∧ transmissions = 1) :
    t.Downhill setup := by
  have hNode := hDispatched.found
  have hNodes := hDispatched.nodes
  obtain ⟨hLower, hSlope⟩ :=
    hDownhill.metric_of_dispatched hLine hSound hVicinal
      hDispatched hTable hAtOnce
  refine
    { links := ?_
      trails := ?_
      slopes := ?_
      silent := silent_of_handling hDispatched.handling }
  · intro other changed hChanged n hMem
    rcases node_cases hNodes hChanged with
      ⟨rfl, rfl⟩ | ⟨-, hOld⟩
    · rw [hTable] at hMem
      rcases List.mem_map.mp hMem with ⟨m, hOld, rfl⟩
      exact
        (Neighbor.link_after
          (hDownhill.links other node hNode m hOld)
          hAtOnce).1
    · exact hDownhill.links other changed hOld n hMem
  · intro listener sender own other hOwn hOther hRange
    rcases node_cases hNodes hOther with
      ⟨rfl, rfl⟩ | ⟨hSender, hOldOther⟩
    · rcases node_cases hNodes hOwn with
        ⟨rfl, -⟩ | ⟨hListener, hOldOwn⟩
      · rw [setup.inRange_self] at hRange
        contradiction
      · have hBefore :=
          falls_lower
            (hDownhill.trails listener sender own node hOldOwn
              hNode hRange)
            hLower
        rcases trail_of_bystander hDispatched hListener
          own.connection.neighbors sender with
          hSame | ⟨-, hMore⟩
        · rw [hSame]
          exact hBefore
        · rw [hMore]
          exact falls_repeat hBefore
    · rcases node_cases hNodes hOwn with
        ⟨rfl, rfl⟩ | ⟨hListener, hOldOwn⟩
      · exact
          hDownhill.trails_of_listener hDispatched hTable
            hSender hOldOther hRange
      · rcases trail_of_bystander hDispatched hListener
          own.connection.neighbors sender with
          hSame | ⟨hIndex, -⟩
        · rw [hSame]
          exact
            hDownhill.trails listener sender own other hOldOwn
              hOldOther hRange
        · exact absurd hIndex hSender
  · intro before changed hChanged
    rcases node_cases hNodes hChanged with
      ⟨hIndex, rfl⟩ | ⟨-, hOld⟩
    · exact hSlope before hIndex.symm
    · exact hDownhill.slopes before changed hOld

end Dispatched

end Simulation

end CollectionTree
