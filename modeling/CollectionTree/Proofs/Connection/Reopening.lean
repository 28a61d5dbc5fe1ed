import CollectionTree.Proofs.Connection.Coherence

/-
  What a connection remembers when it is opened again.

  Key definitions include:
    * `Operation.isCalm`
    * `Connection.Isolated`
    * `Connection.StartsFromScratch`

  Key theorems include:
    * `Connection.Detached.perform`
    * `Connection.reopening_from_scratch_iff`
    * `Connection.reopening_keeps_routes`

  Opening resets the metric and the role, and closing keeps
  the table.  A connection that is opened again therefore
  starts as a new one does exactly when no route is left in
  its table.
-/

namespace CollectionTree

/-
  Whether an operation leaves a node open and tells it
  nothing of its neighbors.
-/
def Operation.isCalm : Operation → Bool
  | .openOn _ => true
  | .send _ _ => true
  | .handle (.received _ _) => true
  | .handle (.elapsed _) => true
  | _ => false

/- Time gives no entry a route. -/
theorem NeighborTable.HasNoRoute.tick
    {t : NeighborTable}
    (hNone : t.HasNoRoute)
    (elapsed : Duration) :
    (t.tick elapsed).2.HasNoRoute := by
  intro n hMem
  rcases mem_tick hMem with ⟨m, hOld, rfl⟩
  exact hNone m hOld

namespace Connection

------------------------------------------------------------
-- Nodes Without a Route
------------------------------------------------------------

/-
  What a node does that has no route, as anyone can see: it
  is disconnected when its table gives it no next hop, and a
  packet of its own is dropped while the neighbors are asked
  to announce.
-/
structure Isolated
    (c : Connection) : Prop where
  disconnected_iff :
    c.role = .disconnected ↔ c.neighbors.best = none
  reply :
    ∀ (answer : Answer) (payload : List UInt8)
      (maxRexmit : UInt8),
      (c.send answer payload maxRexmit).reply =
        .sent .droppedNoRoute
  effects :
    ∀ (answer : Answer) (payload : List UInt8)
      (maxRexmit : UInt8),
      (c.send answer payload maxRexmit).effects =
        [.listen c.config.noRouteListenBursts]

/-
  Once the connection is opened, it has no route until it is
  told of one.
-/
def StartsFromScratch
    (c : Connection) : Prop :=
  ∀ (channel : UInt16) (run : List (Operation × Answer)),
    (∀ entry ∈ run, entry.1.isCalm = true) →
      ((c.openOn (.ok ()) channel).connection.after
        run).Isolated

/- An open node that is not the sink and has no next hop. -/
structure Detached
    (c : Connection) : Prop where
  isOpen : c.isOpen = true
  role : c.role = .disconnected
  noRoute : c.neighbors.HasNoRoute

theorem Detached.best_eq_none
    {c : Connection}
    (hDetached : c.Detached) :
    c.neighbors.best = none :=
  (NeighborTable.best_eq_none_iff _).mpr hDetached.noRoute

theorem Detached.isolated
    {c : Connection}
    (hDetached : c.Detached) :
    c.Isolated := by
  have hBest := hDetached.best_eq_none
  have hDropped :
      ∀ (answer : Answer) (payload : List UInt8)
        (maxRexmit : UInt8),
        (c.send answer payload maxRexmit).reply =
            .sent .droppedNoRoute ∧
          (c.send answer payload maxRexmit).effects =
            [.listen c.config.noRouteListenBursts] := by
    intro answer payload maxRexmit
    have hSending :=
      sending hDetached.isOpen answer payload maxRexmit
    generalize c.send answer payload maxRexmit = outcome
      at hSending
    cases hSending with
    | delivered hSink =>
        rw [hDetached.role] at hSink
        contradiction
    | dropped _ _ => exact ⟨rfl, rfl⟩
    | refused _ n hSome _ _ =>
        rw [hBest] at hSome
        contradiction
    | handedOver _ n hSome _ =>
        rw [hBest] at hSome
        contradiction
  constructor
  · constructor
    · intro _
      exact hBest
    · intro _
      exact hDetached.role
  · intro answer payload maxRexmit
    exact (hDropped answer payload maxRexmit).1
  · intro answer payload maxRexmit
    exact (hDropped answer payload maxRexmit).2

------------------------------------------------------------
-- Calm Operations
------------------------------------------------------------

/- Packets change neither routes nor whether a node is open. -/
theorem Detached.of_route_eq
    {c d : Connection}
    (hDetached : c.Detached)
    (hRoute : d.route = c.route)
    (hOpen : d.isOpen = c.isOpen) :
    d.Detached := by
  simp only [route, Prod.mk.injEq] at hRoute
  rcases hRoute with ⟨hNeighbors, -, hRole⟩
  constructor
  · exact hOpen.trans hDetached.isOpen
  · exact hRole.trans hDetached.role
  · rw [hNeighbors]
    exact hDetached.noRoute

/- Without a route, no metric that is noted is a finite one. -/
theorem Detached.updateMetric
    {c : Connection}
    (hDetached : c.Detached) :
    c.updateMetric.1.Detached := by
  rcases updateMetric_cases c with
    ⟨-, hEq⟩ | ⟨-, -, hEq⟩
  · rw [hEq]
    exact hDetached
  · have hMetric : c.routeMetric = Metric.unreachable := by
      simp [routeMetric, hDetached.best_eq_none]
    rw [hEq]
    constructor
    · exact hDetached.isOpen
    · change roleOf c.routeMetric = .disconnected
      rw [hMetric]
      exact if_pos rfl
    · exact hDetached.noRoute

theorem Detached.tick
    {c : Connection}
    (hDetached : c.Detached)
    (time : Duration) :
    (c.tick time).connection.Detached := by
  have hAged :
      ({ c with
          neighbors :=
            (c.neighbors.tick time).2 }).Detached :=
    { isOpen := hDetached.isOpen
      role := hDetached.role
      noRoute := hDetached.noRoute.tick time }
  unfold Connection.tick
  split
  · exact hDetached
  · by_cases hDropped :
        (c.neighbors.tick time).1.isEmpty = true
    · simp only [hDropped, if_true]
      exact hAged
    · simp only [hDropped]
      exact hAged.updateMetric

theorem Detached.openOn
    {c : Connection}
    (hDetached : c.Detached)
    (answer : Answer)
    (channel : UInt16) :
    (c.openOn answer channel).connection.Detached := by
  cases answer with
  | error failure => exact hDetached
  | ok _ =>
      exact
        { isOpen := rfl
          role := rfl
          noRoute := hDetached.noRoute }

theorem Detached.perform
    {c : Connection}
    (hDetached : c.Detached)
    (answer : Answer)
    {operation : Operation}
    (hCalm : operation.isCalm = true) :
    (c.perform answer operation).connection.Detached := by
  cases operation with
  | openOn channel => exact hDetached.openOn answer channel
  | close => contradiction
  | setSink on => contradiction
  | send payload maxRexmit =>
      apply hDetached.of_route_eq
      · exact route_send c answer payload maxRexmit
      · exact isOpen_send c answer payload maxRexmit
  | handle event =>
      cases event with
      | received sender packet =>
          apply hDetached.of_route_eq
          · exact route_receive c answer sender packet
          · exact isOpen_receive c answer sender packet
      | elapsed time => exact hDetached.tick time
      | sent receiver outcome transmissions => contradiction
      | announced sender metric => contradiction

theorem Detached.after
    {c : Connection}
    (hDetached : c.Detached)
    (run : List (Operation × Answer))
    (hCalm : ∀ entry ∈ run, entry.1.isCalm = true) :
    (c.after run).Detached := by
  induction run generalizing c with
  | nil => exact hDetached
  | cons first rest ih =>
      have hFirst := hCalm first List.mem_cons_self
      apply ih (hDetached.perform first.2 hFirst)
      intro entry hMem
      exact hCalm entry (List.mem_cons_of_mem first hMem)

------------------------------------------------------------
-- Opening Again
------------------------------------------------------------

/-
  Whatever was done to a connection before, it starts from
  scratch exactly when no entry of its table has a route.
  Otherwise it says that it is disconnected, and hands each
  packet that it originates to the best neighbor it had.
-/
theorem reopening_from_scratch_iff
    (c : Connection) :
    (c.StartsFromScratch ↔ c.neighbors.HasNoRoute) ∧
      ∀ (channel : UInt16) (n : Neighbor),
        c.neighbors.best = some n →
          (c.openOn (.ok ()) channel).connection.role =
              .disconnected ∧
            ∀ (payload : List UInt8) (maxRexmit : UInt8),
              ((c.openOn (.ok ()) channel).connection.send
                  (.ok ()) payload maxRexmit).reply =
                .sent (.forwarded n.address) := by
  refine ⟨⟨?_, ?_⟩, ?_⟩
  · intro hScratch
    have hIsolated := hScratch 0 [] (by simp)
    apply (NeighborTable.best_eq_none_iff _).mp
    exact hIsolated.disconnected_iff.mp rfl
  · intro hNone channel run hCalm
    have hDetached :
        (c.openOn (.ok ()) channel).connection.Detached :=
      { isOpen := rfl
        role := rfl
        noRoute := hNone }
    exact (hDetached.after run hCalm).isolated
  · intro channel n hBest
    refine ⟨rfl, ?_⟩
    intro payload maxRexmit
    have hSending :=
      sending
        (c := (c.openOn (.ok ()) channel).connection) rfl
        (.ok ()) payload maxRexmit
    generalize
      (c.openOn (.ok ()) channel).connection.send (.ok ())
        payload maxRexmit = outcome at hSending
    cases hSending with
    | delivered hSink => contradiction
    | dropped _ hNone =>
        rw [show c.neighbors.best = none from hNone] at hBest
        contradiction
    | refused _ _ _ _ hAnswer => contradiction
    | handedOver _ m hSome _ =>
        rw [show c.neighbors.best = some m from hSome,
          Option.some.injEq] at hBest
        rw [hBest]

/-
  A node hears the sink, is closed and opened again.  Its
  route is still there, so it does not start from scratch.
-/
theorem reopening_keeps_routes :
    ¬ ∀ (start : Connection)
        (history : List (Operation × Answer)),
        start.Unused →
          (start.after history).isOpen = false →
            (start.after history).StartsFromScratch := by
  intro hAlways
  let start := Connection.withConfig ⟨2, 0⟩ Config.standard
  let history : List (Operation × Answer) :=
    [ (.openOn 128, .ok ()),
      (.handle (.announced ⟨1, 0⟩ 0), .ok ()),
      (.close, .ok ()) ]
  have hScratch :=
    hAlways start history
      (.ofConfig ⟨2, 0⟩ Config.standard _ rfl) (by decide)
  have hIsolated := hScratch 128 [] (by simp)
  have hForwarded :
      ((start.after history).openOn (.ok ())
        128).connection.neighbors.best ≠ none := by
    decide
  exact hForwarded (hIsolated.disconnected_iff.mp rfl)

end Connection

end CollectionTree
