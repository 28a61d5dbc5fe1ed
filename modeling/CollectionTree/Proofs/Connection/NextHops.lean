import CollectionTree.Proofs.Connection.Coherence
import CollectionTree.Proofs.Connection.Steps

/-
  Where a connection hands its packets over to.

  Key definitions include:
    * `NeighborTable.LacksRouteVia`
    * `Connection.WellRouted`
    * `Connection.Occurrence.handovers`
    * `Connection.Occurrence.Safe`

  Key theorems include:
    * `Connection.Step.wellRouted`
    * `Connection.WellRouted.downhill`
    * `Connection.Step.safe`
    * `Connection.handovers_are_safe`

  A reopened connection is not coherent while its table has
  a route, so this rests on less: off the sink, the metric
  is the one that the table gives or that of a node without
  a route.  A packet goes downhill in both cases, since each
  link costs one transmission at least.
-/

namespace CollectionTree

------------------------------------------------------------
-- The Entry of the Node Itself
------------------------------------------------------------

namespace NeighborTable

/-
  An address may have an entry, for it may acknowledge, but
  its entry never tells of a route.
-/
def LacksRouteVia
    (t : NeighborTable)
    (a : Address) : Prop :=
  ∀ n ∈ t.entries,
    n.address = a → n.metric = Metric.unreachable

theorem LacksRouteVia.noteAnnounced
    {t : NeighborTable}
    {a : Address}
    (hLacks : t.LacksRouteVia a)
    {sender : Address}
    (hOther : sender ≠ a)
    (metric : Metric) :
    (Connection.noteAnnounced t sender
      metric).LacksRouteVia a := by
  rw [Connection.noteAnnounced_eq_upsert]
  intro n hMem hOwn
  rcases mem_upsert hMem with
    hOld | rfl | ⟨m, -, hSender, rfl⟩
  · exact hLacks n hOld hOwn
  · exact absurd hOwn hOther
  · exact absurd (hSender.symm.trans hOwn) hOther

theorem LacksRouteVia.noteAcknowledged
    {t : NeighborTable}
    {a : Address}
    (hLacks : t.LacksRouteVia a)
    (receiver : Address)
    (transmissions : UInt8) :
    (Connection.noteAcknowledged t receiver
      transmissions).LacksRouteVia a := by
  rw [Connection.noteAcknowledged_eq_upsert]
  intro n hMem hOwn
  rcases mem_upsert hMem with
    hOld | rfl | ⟨m, hOld, -, rfl⟩
  · exact hLacks n hOld hOwn
  · rfl
  · exact hLacks m hOld hOwn

theorem LacksRouteVia.recordFailure
    {t : NeighborTable}
    {a : Address}
    (hLacks : t.LacksRouteVia a)
    (receiver : Address)
    (transmissions : UInt8) :
    (t.recordFailure receiver
      transmissions).2.LacksRouteVia a := by
  intro n hMem hOwn
  rcases mem_modifyEntry hMem with hOld | ⟨m, hOld, -, rfl⟩
  · exact hLacks n hOld hOwn
  · exact hLacks m hOld hOwn

theorem LacksRouteVia.tick
    {t : NeighborTable}
    {a : Address}
    (hLacks : t.LacksRouteVia a)
    (elapsed : Duration) :
    (t.tick elapsed).2.LacksRouteVia a := by
  intro n hMem hOwn
  rcases mem_tick hMem with ⟨m, hOld, rfl⟩
  exact hLacks m hOld hOwn

/- Packets never go to an address without a route. -/
theorem LacksRouteVia.address_best_ne
    {t : NeighborTable}
    {a : Address}
    (hLacks : t.LacksRouteVia a)
    {n : Neighbor}
    (hBest : t.best = some n) :
    n.address ≠ a := by
  intro hOwn
  rcases mem_and_hasRoute_of_best hBest with ⟨hMem, hRoute⟩
  have hBound := ((Neighbor.hasRoute_iff n).mp hRoute).1
  rw [hLacks n hMem hOwn, Metric.toNat_unreachable] at hBound
  exact Nat.lt_irrefl 511 hBound

end NeighborTable

namespace Connection

------------------------------------------------------------
-- Metrics of All Sessions
------------------------------------------------------------

/-
  What is known of the table and the metric at any time, in
  sessions that begin with routes in the table as well.
-/
structure WellRouted
    (c : Connection) : Prop where
  links : c.neighbors.Positive
  own : c.neighbors.LacksRouteVia c.address
  metric :
    c.role ≠ .sink →
      c.metric = c.routeMetric ∨
        c.metric = Metric.unreachable

theorem Unused.wellRouted
    {c : Connection}
    (hUnused : c.Unused) :
    c.WellRouted := by
  refine ⟨hUnused.coherent.links, ?_, ?_⟩
  · rcases hUnused.eq_withTables with
      ⟨address, config, neighbors, recent, hEmpty, rfl⟩
    intro n hMem
    rw [show (withTables address config neighbors
      recent).neighbors = neighbors from rfl, hEmpty] at hMem
    contradiction
  · intro hRole
    exact Or.inl (hUnused.coherent.metric hRole)

/- It holds of what has the same table, metric and role. -/
theorem WellRouted.of_route_eq
    {c d : Connection}
    (hRouted : c.WellRouted)
    (hAddress : d.address = c.address)
    (hRoute : d.route = c.route) :
    d.WellRouted := by
  simp only [route, Prod.mk.injEq] at hRoute
  rcases hRoute with ⟨hNeighbors, hMetric, hRole⟩
  have hRouteMetric : d.routeMetric = c.routeMetric := by
    unfold routeMetric
    rw [hNeighbors]
  refine ⟨?_, ?_, ?_⟩
  · exact hNeighbors ▸ hRouted.links
  · rw [hNeighbors, hAddress]
    exact hRouted.own
  · rw [hRole, hMetric, hRouteMetric]
    exact hRouted.metric

/- Bringing the metric up to date makes up for any metric. -/
theorem wellRouted_thenUpdate
    {c : Connection}
    (hLinks : c.neighbors.Positive)
    (hOwn : c.neighbors.LacksRouteVia c.address)
    (effects : List Effect) :
    (c.thenUpdate effects).connection.WellRouted := by
  rcases thenUpdate_cases c effects with
    ⟨hSkip, hEq⟩ | ⟨-, -, hEq⟩
  · rw [hEq]
    refine ⟨hLinks, hOwn, ?_⟩
    intro hRole
    rcases hSkip with hSink | hSame
    · contradiction
    · exact Or.inl hSame.symm
  · rw [hEq]
    exact ⟨hLinks, hOwn, fun _ => Or.inl rfl⟩

theorem WellRouted.concluded
    {c : Connection}
    (hRouted : c.WellRouted)
    (receiver : Address)
    (outcome : TxOutcome)
    (transmissions : UInt8) :
    ((c.concluded receiver outcome
      transmissions).thenUpdate []).connection.WellRouted := by
  have hSent := toNat_max_one_pos transmissions
  unfold Connection.concluded
  split
  · apply wellRouted_thenUpdate
    · exact positive_noteAcknowledged hRouted.links receiver
        hSent
    · exact hRouted.own.noteAcknowledged receiver
        (max transmissions 1)
  · apply wellRouted_thenUpdate
    · exact positive_recordFailure hRouted.links receiver
        hSent
    · exact hRouted.own.recordFailure receiver
        (max transmissions 1)

theorem WellRouted.aged
    {c : Connection}
    (hRouted : c.WellRouted)
    {time : Duration}
    (hKept : (c.neighbors.tick time).1.isEmpty = true) :
    (c.aged time).WellRouted := by
  refine
    ⟨hRouted.links.tick time, hRouted.own.tick time, ?_⟩
  have hSame : (c.aged time).routeMetric = c.routeMetric :=
    routeMetric_eq_of_routeCosts_eq
      (NeighborTable.routeCosts_tick hKept)
  rw [hSame]
  exact hRouted.metric

theorem Step.wellRouted
    {c : Connection}
    {answer : Answer}
    {operation : Operation}
    {outcome : Outcome}
    (hStep : Step c answer operation outcome)
    (hRouted : c.WellRouted) :
    outcome.connection.WellRouted := by
  cases hStep with
  | unopened _ _ _ => exact hRouted
  | opened _ _ =>
      exact
        ⟨hRouted.links, hRouted.own, fun _ => Or.inr rfl⟩
  | unclosed _ => exact hRouted
  | closed _ => exact hRouted.of_route_eq rfl rfl
  | assigned on =>
      exact wellRouted_thenUpdate (c := c.assigned on)
        hRouted.links hRouted.own _
  | unsent _ _ _ => exact hRouted
  | sent _ _ _ _ hSending =>
      cases hSending <;> exact hRouted.of_route_eq rfl rfl
  | unheard _ _ => exact hRouted
  | received _ _ _ _ hReception =>
      cases hReception <;> exact hRouted.of_route_eq rfl rfl
  | concluded _ receiver ended transmissions =>
      exact hRouted.concluded receiver ended transmissions
  | echoed _ _ => exact hRouted
  | informed _ sender hOther metric =>
      exact wellRouted_thenUpdate
        (positive_noteAnnounced hRouted.links sender metric)
        (hRouted.own.noteAnnounced hOther metric) []
  | aged _ _ hKept => exact hRouted.aged hKept
  | thinned _ time _ =>
      exact wellRouted_thenUpdate (hRouted.links.tick time)
        (hRouted.own.tick time) []

/-
  The best neighbor is nearer to the sink than the metric
  says of the node, by one transmission at least.
-/
theorem WellRouted.downhill
    {c : Connection}
    (hRouted : c.WellRouted)
    (hRole : c.role ≠ .sink)
    {n : Neighbor}
    (hBest : c.neighbors.best = some n) :
    n.metric.toNat + 8 ≤ c.metric.toNat := by
  rcases NeighborTable.mem_and_hasRoute_of_best hBest with
    ⟨hMem, hRoute⟩
  have hLink : 8 ≤ n.etx.toNat :=
    (hRouted.links n hMem).le_etx
  have hSum := Neighbor.toNat_cost_of_hasRoute hRoute
  have hLt := Neighbor.toNat_cost_lt_of_hasRoute hRoute
  rcases hRouted.metric hRole with hMetric | hMetric
  · rw [hMetric, routeMetric_of_best hBest]
    omega
  · rw [hMetric, Metric.toNat_unreachable]
    omega

------------------------------------------------------------
-- Handing Over
------------------------------------------------------------

/-
  The packets that a step handed to the transport, accepted
  or not.
-/
def Occurrence.handovers
    (o : Occurrence) : List Handover :=
  o.outcome.effects.filterMap Effect.handover?

/-
  A packet that came from a neighbor, and the same packet on
  its way to the next one.
-/
structure PassedOn
    (sender : Address)
    (packet : Packet)
    (handover : Handover) : Prop where
  away : handover.nextHop ≠ sender
  originator : handover.packet.originator = packet.originator
  seqno : handover.packet.seqno = packet.seqno
  payload : handover.packet.payload = packet.payload
  budget :
    handover.maxRexmit = packet.maxRexmit ∧
      handover.packet.maxRexmit = packet.maxRexmit
  ttl :
    handover.packet.ttl.toNat + 1 = packet.ttl.toNat

/-
  A packet is handed over by a node other than the sink, for
  its best neighbor, which is nearer to the sink.  The table
  and the metric are the same all through the step.
-/
structure Occurrence.Safe
    (o : Occurrence)
    (handover : Handover) : Prop where
  moment : o.outcome.connection.route = o.before.route
  other : o.before.isSink = false
  downhill :
    ∃ n,
      o.before.neighbors.best = some n ∧
        handover.nextHop = n.address ∧
        n.metric.toNat + 8 ≤ o.before.metric.toNat
  sender : handover.packet.sender = o.before.address
  receiver : handover.packet.receiver = handover.nextHop
  away : handover.nextHop ≠ o.before.address
  passedOn :
    ∀ sender packet,
      o.operation = .handle (.received sender packet) →
        PassedOn sender packet handover

theorem passedOn_advance
    {c : Connection}
    {sender : Address}
    {packet : Packet}
    (hTtl : ¬ packet.ttl ≤ 1)
    {n : Neighbor}
    (hAway : n.address ≠ sender) :
    PassedOn sender packet
      (c.handover n.address (advance packet)) where
  away := hAway
  originator := rfl
  seqno := rfl
  payload := rfl
  budget := ⟨rfl, rfl⟩
  ttl := toNat_ttl_advance hTtl

/- Bringing the metric up to date hands nothing over. -/
@[simp] theorem handovers_thenUpdate
    (c : Connection)
    (effects : List Effect) :
    (c.thenUpdate effects).effects.filterMap
        Effect.handover? =
      effects.filterMap Effect.handover? :=
  filterMap_thenUpdate (fun _ => rfl) c effects

/- What is common to all packets for the best neighbor. -/
theorem WellRouted.safe
    {c : Connection}
    (hRouted : c.WellRouted)
    (hRole : c.role ≠ .sink)
    {n : Neighbor}
    (hBest : c.neighbors.best = some n)
    (packet : Packet)
    {answer : Answer}
    {operation : Operation}
    {outcome : Outcome}
    (hMoment : outcome.connection.route = c.route)
    (hPassedOn :
      ∀ sender received,
        operation = .handle (.received sender received) →
          PassedOn sender received
            (c.handover n.address packet)) :
    Occurrence.Safe ⟨c, operation, answer, outcome⟩
      (c.handover n.address packet) where
  moment := hMoment
  other := by simpa [isSink] using hRole
  downhill :=
    ⟨n, hBest, rfl, hRouted.downhill hRole hBest⟩
  sender := rfl
  receiver := rfl
  away := hRouted.own.address_best_ne hBest
  passedOn := hPassedOn

theorem Reception.safe
    {c : Connection}
    {answer : Answer}
    {sender : Address}
    {packet : Packet}
    {outcome : Outcome}
    (hReception :
      Reception c answer sender packet outcome)
    (hRouted : c.WellRouted)
    {handover : Handover}
    (hMem :
      handover ∈
        outcome.effects.filterMap Effect.handover?) :
    Occurrence.Safe
      ⟨c, .handle (.received sender packet), answer,
        outcome⟩
      handover := by
  cases hReception with
  | refused _ hRole hTtl _ _ n hBest hAway _ _ =>
      rw [List.mem_singleton.mp hMem]
      refine hRouted.safe hRole hBest _ rfl ?_
      rintro _ _ ⟨rfl, rfl⟩
      exact passedOn_advance hTtl hAway
  | relayed _ hRole hTtl _ _ n hBest hAway _ =>
      rw [List.mem_singleton.mp hMem]
      refine hRouted.safe hRole hBest _ rfl ?_
      rintro _ _ ⟨rfl, rfl⟩
      exact passedOn_advance hTtl hAway
  -- Nothing is handed over on the other ways.
  | _ => cases hMem

theorem Step.safe
    {c : Connection}
    {answer : Answer}
    {operation : Operation}
    {outcome : Outcome}
    (hStep : Step c answer operation outcome)
    (hRouted : c.WellRouted)
    {handover : Handover}
    (hMem :
      handover ∈
        outcome.effects.filterMap Effect.handover?) :
    Occurrence.Safe ⟨c, operation, answer, outcome⟩
      handover := by
  cases hStep with
  | sent _ payload maxRexmit _ hSending =>
      cases hSending with
      | refused hRole n hBest failure _ =>
          rw [List.mem_singleton.mp hMem]
          exact hRouted.safe hRole hBest _ rfl
            (fun _ _ => Operation.noConfusion)
      | handedOver hRole n hBest _ =>
          rw [List.mem_singleton.mp hMem]
          exact hRouted.safe hRole hBest _ rfl
            (fun _ _ => Operation.noConfusion)
      | _ => cases hMem
  | received _ _ _ _ hReception =>
      exact hReception.safe hRouted hMem
  -- Nothing is handed over by the other steps.
  | _ => simp [unchanged, Effect.handover?] at hMem

------------------------------------------------------------
-- Runs
------------------------------------------------------------

/-
  Whatever is done to an unused connection and whatever the
  transport answers, each packet is handed over for a next
  hop that is nearer to the sink.
-/
theorem handovers_are_safe
    (start : Connection)
    (hUnused : start.Unused)
    (run : List (Operation × Answer)) :
    ∀ o ∈ start.history run,
      ∀ handover ∈ o.handovers,
        o.before.address = start.address ∧
          o.Safe handover := by
  intro o hOccurs handover hMem
  have hKept :
      ∀ {c : Connection} {answer : Answer}
        {operation : Operation} {outcome : Outcome},
        Step c answer operation outcome →
          (c.address = start.address ∧ c.WellRouted) →
            outcome.connection.address = start.address ∧
              outcome.connection.WellRouted :=
    fun hStep hHeld =>
      ⟨hStep.address_eq.trans hHeld.1,
        hStep.wellRouted hHeld.2⟩
  rcases invariant_of_mem_history hKept
      ⟨rfl, hUnused.wellRouted⟩ hOccurs with
    ⟨⟨hAddress, hRouted⟩, hStep⟩
  exact ⟨hAddress, hStep.safe hRouted hMem⟩

/-
  A node that gets an acknowledgement of its own address has
  an entry for itself.  It passes one packet on, is opened
  again while it knows a route, and originates a packet.
-/
theorem handovers_are_safe_after_reopening :
    let start :=
      Connection.withConfig ⟨2, 0⟩ Config.standard
    let nearer : Address := ⟨1, 0⟩
    let packet : Packet :=
      { Packet.empty with
        originator := ⟨3, 0⟩
        hops := 1
        ttl := 10
        payload := [7] }
    let run : List (Operation × Answer) :=
      [ (.openOn 128, .ok ()),
        (.handle (.sent ⟨2, 0⟩ .acked 1), .ok ()),
        (.handle (.announced nearer 0), .ok ()),
        (.handle (.received ⟨3, 0⟩ packet), .ok ()),
        (.handle (.sent nearer .acked 1), .ok ()),
        (.close, .ok ()),
        (.openOn 128, .ok ()),
        (.send [1] 4, .error .transportBusy) ]
    start.Unused ∧
      ((start.history run).flatMap
          Occurrence.handovers).map (fun handover =>
            (handover.nextHop, handover.packet.ttl)) =
        [(nearer, 9), (nearer, 10)] ∧
      ∀ o ∈ start.history run,
        ∀ handover ∈ o.handovers,
          o.before.address = start.address ∧
            o.Safe handover := by
  intro start nearer packet run
  have hUnused : start.Unused :=
    .ofConfig ⟨2, 0⟩ Config.standard _ rfl
  refine ⟨hUnused, by decide, ?_⟩
  exact handovers_are_safe start hUnused run

end Connection

end CollectionTree
