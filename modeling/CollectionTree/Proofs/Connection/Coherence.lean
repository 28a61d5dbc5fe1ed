import CollectionTree.Proofs.Connection.Outcomes
import CollectionTree.Proofs.Routes
import CollectionTree.Proofs.Tables

/-
  The metric of a connection agrees with its table.

  Key definitions include:
    * `NeighborTable.Positive`
    * `Connection.Coherent`
    * `Connection.OpensWithoutRoute`

  Key theorems include:
    * `Connection.coherent_updateMetric`
    * `Connection.Coherent.perform`
    * `Connection.Coherent.after`
    * `Connection.metric_agrees_with_table`

  The metric is stored and not computed when it is read, so
  each operation that may change a route has to bring it up
  to date.  Only opening sets it without looking at the
  table, which is harmless while no entry has a route.
-/

namespace CollectionTree

------------------------------------------------------------
-- Links of All Entries
------------------------------------------------------------

namespace NeighborTable

/- No link has a packet on record that was free. -/
def Positive
    (t : NeighborTable) : Prop :=
  ∀ n ∈ t.entries, n.link.Positive

theorem Positive.modify
    {t : NeighborTable}
    (hPositive : t.Positive)
    (a : Address)
    {change : Neighbor → Neighbor}
    (hChange :
      ∀ n : Neighbor, n.link.Positive →
        (change n).link.Positive) :
    (t.modify a change).2.Positive := by
  intro n hMem
  rcases mem_modifyEntry hMem with hOld | ⟨m, hOld, -, rfl⟩
  · exact hPositive n hOld
  · exact hChange m (hPositive m hOld)

theorem Positive.upsert
    {t : NeighborTable}
    (hPositive : t.Positive)
    {newcomer : Neighbor}
    (hNewcomer : newcomer.link.Positive)
    {change : Neighbor → Neighbor}
    (hChange :
      ∀ n : Neighbor, n.link.Positive →
        (change n).link.Positive) :
    (t.upsert newcomer change).Positive := by
  intro n hMem
  rcases mem_upsert hMem with
    hOld | rfl | ⟨m, hOld, -, rfl⟩
  · exact hPositive n hOld
  · exact hNewcomer
  · exact hChange m (hPositive m hOld)

theorem Positive.tick
    {t : NeighborTable}
    (hPositive : t.Positive)
    (elapsed : Duration) :
    (t.tick elapsed).2.Positive := by
  intro n hMem
  rcases mem_tick hMem with ⟨m, hOld, rfl⟩
  exact hPositive m hOld

/- Entries cost the same when they are older. -/
theorem routeCosts_tick
    {t : NeighborTable}
    {elapsed : Duration}
    (hNone : (t.tick elapsed).1.isEmpty = true) :
    (t.tick elapsed).2.routeCosts = t.routeCosts := by
  have hFresh :
      ∀ n ∈ t.entries,
        (n.aged elapsed).isStale t.lifetime = false := by
    intro n hMem
    have hAged :
        n.aged elapsed ∈
          t.entries.map (fun n => n.aged elapsed) :=
      List.mem_map_of_mem hMem
    simp only [tick, List.isEmpty_iff, List.map_eq_nil_iff,
      List.filter_eq_nil_iff] at hNone
    simpa using hNone _ hAged
  rw [tick_of_fresh hFresh]
  unfold routeCosts
  rw [List.filter_map, List.map_map]
  rfl

/- The best neighbor is one of the neighbors. -/
theorem mem_addresses_of_best
    {t : NeighborTable}
    {n : Neighbor}
    (hBest : t.best = some n) :
    n.address ∈ t.addresses :=
  List.mem_map_of_mem (mem_and_hasRoute_of_best hBest).1

end NeighborTable

namespace Connection

theorem positive_noteAnnounced
    {t : NeighborTable}
    (hPositive : t.Positive)
    (sender : Address)
    (metric : Metric) :
    (noteAnnounced t sender metric).Positive := by
  rw [noteAnnounced_eq_upsert]
  exact hPositive.upsert LinkEstimate.fresh_positive
    (fun _ hLink => hLink)

theorem positive_noteAcknowledged
    {t : NeighborTable}
    (hPositive : t.Positive)
    (receiver : Address)
    {transmissions : UInt8}
    (hSent : 0 < transmissions.toNat) :
    (noteAcknowledged t receiver transmissions).Positive := by
  rw [noteAcknowledged_eq_upsert]
  exact hPositive.upsert
    (LinkEstimate.fresh_positive.record hSent)
    (fun _ hLink => hLink.record hSent)

theorem positive_recordFailure
    {t : NeighborTable}
    (hPositive : t.Positive)
    (receiver : Address)
    {transmissions : UInt8}
    (hSent : 0 < transmissions.toNat) :
    (t.recordFailure receiver transmissions).2.Positive :=
  hPositive.modify receiver (fun _ hLink =>
    hLink.record (LinkEstimate.toNat_failureCost_pos hSent))

/- A packet counts as one transmission at least. -/
theorem toNat_max_one_pos
    (transmissions : UInt8) :
    0 < (max transmissions 1).toNat := by
  have hMax :
      max transmissions 1 =
        if transmissions ≤ 1 then 1 else transmissions := rfl
  rw [hMax]
  by_cases hFew : transmissions ≤ 1
  · rw [if_pos hFew]
    decide
  · rw [if_neg hFew]
    rw [UInt8.not_le, UInt8.lt_iff_toNat_lt] at hFew
    exact Nat.zero_lt_of_lt hFew

------------------------------------------------------------
-- The Metric of a Table
------------------------------------------------------------

/- The best neighbor's cost needs no upper bound. -/
theorem routeMetric_of_best
    {c : Connection}
    {n : Neighbor}
    (hBest : c.neighbors.best = some n) :
    c.routeMetric = n.cost := by
  have hRoute :=
    (NeighborTable.mem_and_hasRoute_of_best hBest).2
  have hLt := Neighbor.toNat_cost_lt_of_hasRoute hRoute
  have hLe : n.cost ≤ Metric.unreachable := by
    rw [UInt16.le_iff_toNat_le, Metric.toNat_unreachable]
    omega
  unfold routeMetric
  simp only [hBest]
  exact if_pos hLe

/- The metric is the least exact cost of a route. -/
theorem toNat_routeMetric
    (c : Connection) :
    c.routeMetric.toNat =
      c.neighbors.routeCosts.min?.getD 511 := by
  rw [NeighborTable.min?_routeCosts]
  cases hBest : c.neighbors.best with
  | none => simp [routeMetric, hBest]
  | some n => simp [routeMetric_of_best hBest]

theorem routeMetric_eq_of_routeCosts_eq
    {c d : Connection}
    (hCosts :
      c.neighbors.routeCosts = d.neighbors.routeCosts) :
    c.routeMetric = d.routeMetric := by
  rw [← UInt16.toNat_inj, toNat_routeMetric,
    toNat_routeMetric, hCosts]

------------------------------------------------------------
-- Coherence
------------------------------------------------------------

/-
  The metric is zero at the sink.  Elsewhere it is the one
  that the table gives, and the role is that of the metric.
-/
structure Coherent
    (c : Connection) : Prop where
  links : c.neighbors.Positive
  sink : c.role = .sink → c.metric = Metric.sink
  role : c.role ≠ .sink → c.role = roleOf c.metric
  metric : c.role ≠ .sink → c.metric = c.routeMetric

theorem roleOf_ne_sink
    (metric : Metric) :
    roleOf metric ≠ .sink := by
  unfold roleOf
  split <;> simp

/- Bringing the metric up to date makes it coherent. -/
theorem coherent_updateMetric
    {c : Connection}
    (hLinks : c.neighbors.Positive)
    (hSink : c.role = .sink → c.metric = Metric.sink)
    (hRole : c.role ≠ .sink → c.role = roleOf c.metric) :
    c.updateMetric.1.Coherent := by
  rcases updateMetric_cases c with
    ⟨hSkip, hEq⟩ | ⟨-, -, hEq⟩
  · rw [hEq]
    refine ⟨hLinks, hSink, hRole, ?_⟩
    intro hOther
    rcases hSkip with hIsSink | hSame
    · contradiction
    · exact hSame.symm
  · rw [hEq]
    refine ⟨hLinks, ?_, fun _ => rfl, fun _ => rfl⟩
    intro hIsSink
    exact absurd hIsSink (roleOf_ne_sink c.routeMetric)

/- Coherence is about routes only. -/
theorem Coherent.of_route_eq
    {c d : Connection}
    (hCoherent : c.Coherent)
    (hRoute : d.route = c.route) :
    d.Coherent := by
  simp only [route, Prod.mk.injEq] at hRoute
  rcases hRoute with ⟨hNeighbors, hMetric, hRole⟩
  have hRouteMetric : d.routeMetric = c.routeMetric := by
    unfold routeMetric
    rw [hNeighbors]
  constructor
  · exact hNeighbors ▸ hCoherent.links
  · rw [hRole, hMetric]
    exact hCoherent.sink
  · rw [hRole, hMetric]
    exact hCoherent.role
  · rw [hRole, hMetric, hRouteMetric]
    exact hCoherent.metric

/- Another table in place, the metric is brought up to date. -/
theorem Coherent.withNeighbors
    {c d : Connection}
    (hCoherent : c.Coherent)
    (hMetric : d.metric = c.metric)
    (hRole : d.role = c.role)
    (hLinks : d.neighbors.Positive)
    (effects : List Effect) :
    (d.thenUpdate effects).connection.Coherent := by
  apply coherent_updateMetric hLinks
  · rw [hMetric, hRole]
    exact hCoherent.sink
  · rw [hMetric, hRole]
    exact hCoherent.role

------------------------------------------------------------
-- Operations
------------------------------------------------------------

theorem Coherent.openOn
    {c : Connection}
    (hCoherent : c.Coherent)
    (answer : Answer)
    (channel : UInt16)
    (hNoRoute : c.neighbors.HasNoRoute) :
    (c.openOn answer channel).connection.Coherent := by
  cases answer with
  | error failure => exact hCoherent
  | ok _ =>
      have hBest : c.neighbors.best = none :=
        (NeighborTable.best_eq_none_iff _).mpr hNoRoute
      refine ⟨hCoherent.links, ?_, fun _ => rfl, ?_⟩
      · intro hSink
        cases hSink
      · intro _
        simp [Connection.openOn, routeMetric, hBest]

theorem Coherent.close
    {c : Connection}
    (hCoherent : c.Coherent) :
    c.close.connection.Coherent := by
  unfold Connection.close
  split
  · exact hCoherent.of_route_eq rfl
  · exact hCoherent

theorem Coherent.setSink
    {c : Connection}
    (hCoherent : c.Coherent)
    (on : Bool) :
    (c.setSink on).connection.Coherent := by
  refine coherent_updateMetric hCoherent.links ?_ ?_
  · intro hSink
    cases on with
    | true => rfl
    | false => cases hSink
  · intro hOther
    cases on with
    | true => exact absurd rfl hOther
    | false => rfl

theorem Coherent.concludeTransmission
    {c : Connection}
    (hCoherent : c.Coherent)
    (receiver : Address)
    (outcome : TxOutcome)
    (transmissions : UInt8) :
    (c.concludeTransmission receiver outcome
      transmissions).connection.Coherent := by
  have hSent := toNat_max_one_pos transmissions
  unfold Connection.concludeTransmission
  split
  · exact hCoherent
  · split
    · refine hCoherent.withNeighbors ?_ ?_ ?_ []
      · rfl
      · rfl
      · exact positive_noteAcknowledged hCoherent.links
          receiver hSent
    · refine hCoherent.withNeighbors ?_ ?_ ?_ []
      · rfl
      · rfl
      · exact positive_recordFailure hCoherent.links
          receiver hSent

theorem Coherent.hear
    {c : Connection}
    (hCoherent : c.Coherent)
    (sender : Address)
    (metric : Metric) :
    (c.hear sender metric).connection.Coherent := by
  unfold Connection.hear
  split
  · exact hCoherent
  · refine hCoherent.withNeighbors ?_ ?_ ?_ []
    · rfl
    · rfl
    · exact positive_noteAnnounced hCoherent.links sender
        metric

/-
  Time alone changes no cost, so the metric may stay as it
  is when no entry is dropped.
-/
theorem Coherent.tick
    {c : Connection}
    (hCoherent : c.Coherent)
    (time : Duration) :
    (c.tick time).connection.Coherent := by
  unfold Connection.tick
  split
  · exact hCoherent
  · by_cases hDropped :
        (c.neighbors.tick time).1.isEmpty = true
    · simp only [hDropped, if_true]
      refine ⟨hCoherent.links.tick time, hCoherent.sink,
        hCoherent.role, ?_⟩
      intro hOther
      apply (hCoherent.metric hOther).trans
      exact routeMetric_eq_of_routeCosts_eq
        (NeighborTable.routeCosts_tick hDropped).symm
    · simp only [hDropped]
      refine hCoherent.withNeighbors ?_ ?_ ?_ []
      · rfl
      · rfl
      · exact hCoherent.links.tick time

theorem Coherent.handle
    {c : Connection}
    (hCoherent : c.Coherent)
    (answer : Answer)
    (event : Event) :
    (c.handle answer event).connection.Coherent := by
  cases event with
  | received sender packet =>
      exact hCoherent.of_route_eq
        (route_receive c answer sender packet)
  | sent receiver outcome transmissions =>
      exact hCoherent.concludeTransmission receiver outcome
        transmissions
  | announced sender metric =>
      exact hCoherent.hear sender metric
  | elapsed time => exact hCoherent.tick time

/- Opening is the only operation that has a condition. -/
def OpensWithoutRoute
    (c : Connection) : Operation → Prop
  | .openOn _ => c.neighbors.HasNoRoute
  | _ => True

instance
    (c : Connection)
    (operation : Operation) :
    Decidable (c.OpensWithoutRoute operation) := by
  unfold OpensWithoutRoute
  cases operation <;> infer_instance

theorem Coherent.perform
    {c : Connection}
    (hCoherent : c.Coherent)
    (answer : Answer)
    (operation : Operation)
    (hOpens : c.OpensWithoutRoute operation) :
    (c.perform answer operation).connection.Coherent := by
  cases operation with
  | openOn channel =>
      exact hCoherent.openOn answer channel hOpens
  | close => exact hCoherent.close
  | setSink on => exact hCoherent.setSink on
  | send payload maxRexmit =>
      exact hCoherent.of_route_eq
        (route_send c answer payload maxRexmit)
  | handle event => exact hCoherent.handle answer event

------------------------------------------------------------
-- Runs
------------------------------------------------------------

/-
  No operation of a run opens the connection while an entry
  has a route.
-/
def AlwaysOpensWithoutRoute
    (c : Connection) :
    List (Operation × Answer) → Prop
  | [] => True
  | (operation, answer) :: rest =>
      c.OpensWithoutRoute operation ∧
        (c.perform answer
          operation).connection.AlwaysOpensWithoutRoute rest

instance decidableAlwaysOpensWithoutRoute
    (c : Connection) :
    (run : List (Operation × Answer)) →
      Decidable (c.AlwaysOpensWithoutRoute run)
  | [] => .isTrue trivial
  | (operation, answer) :: rest =>
      @instDecidableAnd _ _ inferInstance
        (decidableAlwaysOpensWithoutRoute
          (c.perform answer operation).connection rest)

theorem Unused.coherent
    {c : Connection}
    (hUnused : c.Unused) :
    c.Coherent := by
  rcases hUnused.eq_withTables with
    ⟨address, config, neighbors, recent, hEmpty, rfl⟩
  have hBest : neighbors.best = none := by
    rw [NeighborTable.best_eq_none_iff]
    intro n hMem
    rw [hEmpty] at hMem
    contradiction
  refine ⟨?_, ?_, fun _ => rfl, ?_⟩
  · intro n hMem
    rw [show (withTables address config neighbors
      recent).neighbors = neighbors from rfl, hEmpty] at hMem
    contradiction
  · intro hSink
    cases hSink
  · intro _
    simp [withTables, routeMetric, hBest]

theorem Coherent.after
    {c : Connection}
    (hCoherent : c.Coherent)
    (run : List (Operation × Answer))
    (hOpens : c.AlwaysOpensWithoutRoute run) :
    (c.after run).Coherent := by
  induction run generalizing c with
  | nil => exact hCoherent
  | cons first rest ih =>
      exact ih
        (hCoherent.perform first.2 first.1 hOpens.1)
        hOpens.2

------------------------------------------------------------
-- What Coherence Says
------------------------------------------------------------

theorem Coherent.metric_of_best
    {c : Connection}
    (hCoherent : c.Coherent)
    (hOther : c.role ≠ .sink)
    {n : Neighbor}
    (hBest : c.neighbors.best = some n) :
    c.metric = n.cost :=
  (hCoherent.metric hOther).trans (routeMetric_of_best hBest)

/- Each role has its own range of metrics. -/
theorem Coherent.role_iff
    {c : Connection}
    (hCoherent : c.Coherent) :
    (c.role = .sink ↔ c.metric.toNat = 0) ∧
      (c.role = .disconnected ↔ c.metric.toNat = 511) ∧
      (c.role = .connected ↔
        8 ≤ c.metric.toNat ∧ c.metric.toNat ≤ 510) := by
  by_cases hSink : c.role = .sink
  · have hZero : c.metric.toNat = 0 := by
      rw [hCoherent.sink hSink, Metric.toNat_sink]
    simp [hSink, hZero]
  · have hRole := hCoherent.role hSink
    have hMetric := hCoherent.metric hSink
    cases hBest : c.neighbors.best with
    | none =>
        have hTop : c.metric = Metric.unreachable := by
          simpa [routeMetric, hBest] using hMetric
        rw [hTop] at hRole
        simp [hRole, hTop, roleOf]
    | some n =>
        have hCost := hCoherent.metric_of_best hSink hBest
        rcases NeighborTable.mem_and_hasRoute_of_best
          hBest with ⟨hMem, hRoute⟩
        have hLink := (hCoherent.links n hMem).le_etx
        have hSum := Neighbor.toNat_cost_of_hasRoute hRoute
        have hLt := Neighbor.toNat_cost_lt_of_hasRoute hRoute
        have hEtx : n.etx = n.link.etx := rfl
        rw [hEtx] at hSum
        have hNotTop : c.metric ≠ Metric.unreachable := by
          rw [ne_eq, Metric.eq_unreachable_iff, hCost]
          omega
        rw [roleOf, if_neg hNotTop] at hRole
        rw [hRole, hCost]
        simp
        omega

/- Off the sink, the metric is the least cost of a route. -/
theorem Coherent.toNat_metric
    {c : Connection}
    (hCoherent : c.Coherent)
    (hOther : c.role ≠ .sink) :
    c.metric.toNat = c.neighbors.routeCosts.min?.getD 511 := by
  rw [hCoherent.metric hOther, toNat_routeMetric]

theorem Coherent.disconnected_iff_best
    {c : Connection}
    (hCoherent : c.Coherent)
    (hOther : c.role ≠ .sink) :
    c.role = .disconnected ↔ c.neighbors.best = none := by
  rw [hCoherent.role_iff.2.1]
  cases hBest : c.neighbors.best with
  | none =>
      have hMetric := hCoherent.metric hOther
      rw [hMetric]
      simp [routeMetric, hBest]
  | some n =>
      have hRoute :=
        (NeighborTable.mem_and_hasRoute_of_best hBest).2
      have hLt := Neighbor.toNat_cost_lt_of_hasRoute hRoute
      rw [hCoherent.metric_of_best hOther hBest]
      simp
      omega

/- A connected node has a next hop, which is its parent. -/
theorem Coherent.parent?_of_connected
    {c : Connection}
    (hCoherent : c.Coherent)
    (hConnected : c.role = .connected) :
    ∃ n,
      c.neighbors.best = some n ∧
        c.parent? = some n.address := by
  have hOther : c.role ≠ .sink := by
    simp [hConnected]
  cases hBest : c.neighbors.best with
  | none =>
      have hRole :=
        (hCoherent.disconnected_iff_best hOther).mpr hBest
      rw [hRole] at hConnected
      contradiction
  | some n =>
      exact ⟨n, rfl, by simp [parent?, hConnected, hBest]⟩

theorem parent?_of_not_connected
    {c : Connection}
    (hOther : c.role ≠ .connected) :
    c.parent? = none := by
  unfold parent?
  cases hRole : c.role with
  | connected => contradiction
  | sink => rfl
  | disconnected => rfl

/- A parent is one of the neighbors. -/
theorem mem_addresses_of_parent?
    {c : Connection}
    {a : Address}
    (hParent : c.parent? = some a) :
    a ∈ c.neighbors.addresses := by
  unfold parent? at hParent
  split at hParent
  next =>
    rcases Option.map_eq_some_iff.mp hParent with
      ⟨n, hBest, rfl⟩
    exact NeighborTable.mem_addresses_of_best hBest
  next => contradiction

/-
  All that a caller can see of the metric and the role fits
  what the table holds.
-/
structure AgreesWithTable
    (c : Connection) : Prop where
  sink_iff :
    c.role = .sink ↔ c.metric.toNat = 0
  disconnected_iff :
    c.role = .disconnected ↔ c.metric.toNat = 511
  connected_iff :
    c.role = .connected ↔
      8 ≤ c.metric.toNat ∧ c.metric.toNat ≤ 510
  metric_eq :
    c.role ≠ .sink →
      c.metric.toNat =
        c.neighbors.routeCosts.min?.getD 511
  best_eq_none_iff :
    c.role ≠ .sink →
      (c.role = .disconnected ↔ c.neighbors.best = none)
  parent_of_connected :
    c.role = .connected →
      ∃ n,
        c.neighbors.best = some n ∧
          c.parent? = some n.address
  parent_of_other :
    c.role ≠ .connected → c.parent? = none

/-
  Whatever is done to an unused connection and whatever the
  transport answers, the metric agrees with the table, as
  long as no opening finds a route in it.
-/
theorem metric_agrees_with_table
    (start : Connection)
    (hUnused : start.Unused)
    (run : List (Operation × Answer))
    (hOpens : start.AlwaysOpensWithoutRoute run) :
    (start.after run).AgreesWithTable := by
  have hCoherent := hUnused.coherent.after run hOpens
  rcases hCoherent.role_iff with
    ⟨hSink, hDisconnected, hConnected⟩
  exact
    { sink_iff := hSink
      disconnected_iff := hDisconnected
      connected_iff := hConnected
      metric_eq := hCoherent.toNat_metric
      best_eq_none_iff := hCoherent.disconnected_iff_best
      parent_of_connected := hCoherent.parent?_of_connected
      parent_of_other := parent?_of_not_connected }

/-
  A node is opened by a transport that refuses at first,
  learns of one route and of a neighbor too far away, is the
  sink for a while and loses a packet.
-/
theorem metric_agrees_with_table_after_refusals :
    let start :=
      Connection.withConfig ⟨2, 0⟩ Config.standard
    let near : Address := ⟨1, 0⟩
    let far : Address := ⟨3, 0⟩
    let run : List (Operation × Answer) :=
      [ (.openOn 128, .error .transportBusy),
        (.openOn 128, .ok ()),
        (.handle (.announced near 0), .ok ()),
        (.handle (.announced far 500), .ok ()),
        (.setSink true, .ok ()),
        (.setSink false, .ok ()),
        (.send [1] 4, .ok ()),
        (.handle (.sent near .timeout 5), .ok ()),
        (.send [2] 4, .error .transportBusy) ]
    start.Unused ∧
      start.AlwaysOpensWithoutRoute run ∧
      (start.after run).metric.toNat = 35 ∧
      (start.after run).AgreesWithTable := by
  have hUnused :
      (Connection.withConfig ⟨2, 0⟩
        Config.standard).Unused :=
    .ofConfig ⟨2, 0⟩ Config.standard _ rfl
  refine ⟨hUnused, by decide, by decide, ?_⟩
  exact metric_agrees_with_table _ hUnused _ (by decide)

end Connection

end CollectionTree
