import CollectionTree.Proofs.Connection.Coherence
import CollectionTree.Proofs.Connection.Steps

/-
  What a connection learns of routes from a run.

  Key definitions include:
    * `Operation.concernsRoutes`
    * `Connection.opens`
    * `Connection.lessons`
    * `Connection.knowledge`

  Key theorems include:
    * `Connection.knowledge_perform_congr`
    * `Connection.knowledge_after_lessons`
    * `Connection.coherent_after_one_opening`
    * `Connection.routes_ignore_data`

  Packets that a node originates or passes on, and the time
  that it spends as the sink, teach it nothing of routes.  A
  run can be told again without them, and leaves the same
  table.  In the first session the table gives the metric as
  well, so nothing shows that the node was the sink.
-/

namespace CollectionTree

------------------------------------------------------------
-- Lessons
------------------------------------------------------------

/-
  Whether an operation may tell a node of routes.  Data and
  the role of the sink do not.
-/
def Operation.concernsRoutes : Operation → Bool
  | .setSink _ => false
  | .send _ _ => false
  | .handle (.received _ _) => false
  | _ => true

namespace Connection

/- Whether an operation opens the connection. -/
def opens : Operation × Answer → Bool
  | (.openOn _, .ok _) => true
  | _ => false

/-
  What is left of a run without data and without roles, and
  which of the operations opened the connection.
-/
def lessons
    (run : List (Operation × Answer)) :
    List (Operation × Bool) :=
  (run.filter (fun entry => entry.1.concernsRoutes)).map
    (fun entry => (entry.1, opens entry))

/- A lesson as an operation with an answer that fits it. -/
def retold
    (lesson : Operation × Bool) : Operation × Answer :=
  (lesson.1,
    if lesson.2 then .ok () else .error .notOpen)

/- A lesson opens the connection as its operation did. -/
theorem opens_retold
    (operation : Operation)
    (answer : Answer) :
    opens (retold (operation, opens (operation, answer))) =
      opens (operation, answer) := by
  cases operation with
  | openOn channel => cases answer <;> rfl
  | _ => rfl

/- As many lessons open the connection as operations do. -/
theorem countP_lessons
    (run : List (Operation × Answer)) :
    (lessons run).countP Prod.snd = run.countP opens := by
  unfold lessons
  rw [List.countP_map, List.countP_filter]
  apply List.countP_congr
  rintro ⟨operation, answer⟩ -
  cases operation with
  | handle event =>
      cases event <;> simp [opens, Operation.concernsRoutes]
  | _ => simp [opens, Operation.concernsRoutes]

------------------------------------------------------------
-- Knowledge
------------------------------------------------------------

/-
  What decides how a node takes an event about routes: who
  it is, whether it listens, and what it knows already.
-/
def knowledge
    (c : Connection) : Address × Bool × NeighborTable :=
  (c.address, c.isOpen, c.neighbors)

/- Data and roles leave what a node knows as it is. -/
theorem knowledge_perform_of_data
    (c : Connection)
    (answer : Answer)
    {operation : Operation}
    (hData : operation.concernsRoutes = false) :
    (c.perform answer operation).connection.knowledge =
      c.knowledge := by
  have hStep := step c answer operation
  generalize c.perform answer operation = outcome at hStep
  cases hStep with
  | assigned on => exact eq_of_thenUpdate knowledge _ _ rfl
  | unsent _ _ _ => rfl
  | sent _ _ _ _ hSending => cases hSending <;> rfl
  | unheard _ _ => rfl
  | received _ _ _ _ hReception => cases hReception <;> rfl
  -- The other operations may tell of routes.
  | _ => contradiction

/- The table after an event depends on what is known only. -/
theorem neighborsAfter_congr
    {c d : Connection}
    (hAddress : c.address = d.address)
    (hNeighbors : c.neighbors = d.neighbors)
    (event : Event) :
    c.neighborsAfter event = d.neighborsAfter event := by
  unfold neighborsAfter
  rw [hAddress, hNeighbors]

theorem knowledge_handle_congr
    {c d : Connection}
    (hSame : c.knowledge = d.knowledge)
    (answer other : Answer)
    (event : Event) :
    (c.handle answer event).connection.knowledge =
      (d.handle other event).connection.knowledge := by
  have hParts := hSame
  simp only [knowledge, Prod.mk.injEq] at hParts
  rcases hParts with ⟨hAddress, hListening, hNeighbors⟩
  cases hOpen : c.isOpen with
  | false =>
      rw [handle_closed hOpen,
        handle_closed (hListening ▸ hOpen)]
      exact hSame
  | true =>
      have hOther : d.isOpen = true := hListening ▸ hOpen
      have hFirst := (step c answer (.handle event)).address_eq
      have hSecond := (step d other (.handle event)).address_eq
      unfold perform at hFirst hSecond
      unfold knowledge
      rw [isOpen_handle, isOpen_handle, hListening,
        neighbors_handle hOpen, neighbors_handle hOther,
        neighborsAfter_congr hAddress hNeighbors]
      rw [hFirst, hSecond, hAddress]

theorem knowledge_close
    (c : Connection) :
    c.close.connection.knowledge =
      (c.address, false, c.neighbors) := by
  unfold close
  cases hOpen : c.isOpen with
  | true => rfl
  | false => simp [unchanged, knowledge, hOpen]

/-
  Two nodes that know the same learn the same from an
  operation, if both are opened by it or neither is.
-/
theorem knowledge_perform_congr
    {c d : Connection}
    (hSame : c.knowledge = d.knowledge)
    {answer other : Answer}
    {operation : Operation}
    (hRoutes : operation.concernsRoutes = true)
    (hOpens :
      opens (operation, answer) = opens (operation, other)) :
    (c.perform answer operation).connection.knowledge =
      (d.perform other operation).connection.knowledge := by
  have hParts := hSame
  simp only [knowledge, Prod.mk.injEq] at hParts
  rcases hParts with ⟨hAddress, -, hNeighbors⟩
  cases operation with
  | openOn channel =>
      cases answer with
      | error _ =>
          cases other with
          | error _ => exact hSame
          | ok _ => exact Bool.noConfusion hOpens
      | ok _ =>
          cases other with
          | error _ => exact Bool.noConfusion hOpens
          | ok _ =>
              simp only [perform, openOn, knowledge,
                hAddress, hNeighbors]
  | close =>
      unfold perform
      dsimp only
      rw [knowledge_close, knowledge_close, hAddress,
        hNeighbors]
  | setSink on => contradiction
  | send payload maxRexmit => contradiction
  | handle event =>
      exact knowledge_handle_congr hSame answer other event

/- A run teaches what is left of it without data and roles. -/
theorem knowledge_after_lessons
    {c d : Connection}
    (hSame : c.knowledge = d.knowledge)
    (run : List (Operation × Answer)) :
    (c.after run).knowledge =
      (d.after ((lessons run).map retold)).knowledge := by
  induction run generalizing c d with
  | nil => exact hSame
  | cons entry rest ih =>
      rcases entry with ⟨operation, answer⟩
      cases hRoutes : operation.concernsRoutes with
      | false =>
          have hLessons :
              lessons ((operation, answer) :: rest) =
                lessons rest := by
            simp [lessons, hRoutes]
          rw [hLessons]
          apply ih
          rw [knowledge_perform_of_data c answer hRoutes]
          exact hSame
      | true =>
          have hLessons :
              lessons ((operation, answer) :: rest) =
                (operation, opens (operation, answer)) ::
                  lessons rest := by
            simp [lessons, hRoutes]
          rw [hLessons, List.map_cons]
          apply ih
          exact knowledge_perform_congr hSame hRoutes
            (opens_retold operation answer).symm

------------------------------------------------------------
-- The First Session
------------------------------------------------------------

/- Without being opened, a coherent node stays coherent. -/
theorem Coherent.perform_unless_opens
    {c : Connection}
    (hCoherent : c.Coherent)
    {entry : Operation × Answer}
    (hUnopened : opens entry = false) :
    (c.perform entry.2 entry.1).connection.Coherent := by
  rcases entry with ⟨operation, answer⟩
  cases operation with
  | openOn channel =>
      cases answer with
      | error _ => exact hCoherent
      | ok _ => exact Bool.noConfusion hUnopened
  | close => exact hCoherent.close
  | setSink on => exact hCoherent.setSink on
  | send payload maxRexmit =>
      exact hCoherent.perform answer _ trivial
  | handle event => exact hCoherent.handle answer event

theorem Coherent.after_unless_opens
    {c : Connection}
    (hCoherent : c.Coherent)
    {run : List (Operation × Answer)}
    (hUnopened : run.countP opens = 0) :
    (c.after run).Coherent := by
  induction run generalizing c with
  | nil => exact hCoherent
  | cons entry rest ih =>
      rw [List.countP_eq_zero] at hUnopened
      have hFirst : opens entry = false := by
        simpa using hUnopened entry List.mem_cons_self
      refine ih (hCoherent.perform_unless_opens hFirst) ?_
      rw [List.countP_eq_zero]
      intro other hMem
      exact hUnopened other (List.mem_cons_of_mem entry hMem)

/- A closed node that is not opened learns nothing. -/
theorem knowledge_perform_of_closed
    {c : Connection}
    (hClosed : c.isOpen = false)
    {entry : Operation × Answer}
    (hUnopened : opens entry = false) :
    (c.perform entry.2 entry.1).connection.knowledge =
      c.knowledge := by
  rcases entry with ⟨operation, answer⟩
  have hStep := step c answer operation
  dsimp only
  generalize c.perform answer operation = outcome at hStep
  have hOther {p : Prop} (hOpen : c.isOpen = true) : p := by
    rw [hClosed] at hOpen
    contradiction
  cases hStep with
  | unopened _ _ _ => rfl
  | opened _ hAnswer =>
      rw [hAnswer] at hUnopened
      exact Bool.noConfusion hUnopened
  | unclosed _ => rfl
  | assigned on => exact eq_of_thenUpdate knowledge _ _ rfl
  | unsent _ _ _ => rfl
  | unheard _ _ => rfl
  | closed hOpen => exact hOther hOpen
  | sent hOpen _ _ _ _ => exact hOther hOpen
  | received hOpen _ _ _ _ => exact hOther hOpen
  | concluded hOpen _ _ _ => exact hOther hOpen
  | echoed hOpen _ => exact hOther hOpen
  | informed hOpen _ _ _ => exact hOther hOpen
  | aged hOpen _ _ => exact hOther hOpen
  | thinned hOpen _ _ => exact hOther hOpen

/-
  A table is empty until the connection is opened, so a node
  that is opened once starts without a route.
-/
theorem coherent_after_one_opening
    {c : Connection}
    (hCoherent : c.Coherent)
    (hClosed : c.isOpen = false)
    (hEmpty : c.neighbors.entries = [])
    {run : List (Operation × Answer)}
    (hOnce : run.countP opens ≤ 1) :
    (c.after run).Coherent := by
  induction run generalizing c with
  | nil => exact hCoherent
  | cons entry rest ih =>
      rw [List.countP_cons] at hOnce
      cases hOpens : opens entry with
      | false =>
          have hKnown :=
            knowledge_perform_of_closed hClosed hOpens
          simp only [knowledge, Prod.mk.injEq] at hKnown
          apply ih (hCoherent.perform_unless_opens hOpens)
          · exact hKnown.2.1.trans hClosed
          · rw [hKnown.2.2]
            exact hEmpty
          · simpa [hOpens] using hOnce
      | true =>
          have hRest : rest.countP opens = 0 := by
            simpa [hOpens] using hOnce
          have hOpened :
              (c.perform entry.2
                entry.1).connection.Coherent := by
            rcases entry with ⟨operation, answer⟩
            cases operation with
            | openOn channel =>
                apply hCoherent.openOn answer channel
                intro n hMem
                rw [hEmpty] at hMem
                contradiction
            | _ => exact Bool.noConfusion hOpens
          exact hOpened.after_unless_opens hRest

/- Off the sink, the table of a coherent node tells it all. -/
theorem Coherent.route_eq
    {c d : Connection}
    (hCoherent : c.Coherent)
    (hOther : d.Coherent)
    (hNeighbors : c.neighbors = d.neighbors)
    (hRole : c.role ≠ .sink)
    (hOtherRole : d.role ≠ .sink) :
    c.route = d.route := by
  have hRouteMetric : c.routeMetric = d.routeMetric := by
    unfold routeMetric
    rw [hNeighbors]
  have hMetric : c.metric = d.metric := by
    rw [hCoherent.metric hRole, hOther.metric hOtherRole,
      hRouteMetric]
  unfold route
  rw [hNeighbors, hMetric, hCoherent.role hRole,
    hOther.role hOtherRole, hMetric]

theorem parent?_eq_of_route_eq
    {c d : Connection}
    (hRoute : c.route = d.route) :
    c.parent? = d.parent? := by
  simp only [route, Prod.mk.injEq] at hRoute
  unfold parent?
  rw [hRoute.1, hRoute.2.2]

------------------------------------------------------------
-- Two Runs
------------------------------------------------------------

/-
  Two runs of the same unused connection that differ in data
  and roles only, whatever the transport answers to packets,
  leave the same table.  If the connection was opened once
  and is not the sink in the end, its metric, role and
  parent are the same, too.
-/
theorem routes_ignore_data
    (start : Connection)
    (hUnused : start.Unused)
    (run other : List (Operation × Answer))
    (hSame : lessons run = lessons other) :
    (start.after run).neighbors =
        (start.after other).neighbors ∧
      (run.countP opens ≤ 1 →
        (start.after run).isSink = false →
        (start.after other).isSink = false →
          (start.after run).metric =
              (start.after other).metric ∧
            (start.after run).role =
              (start.after other).role ∧
            (start.after run).parent? =
              (start.after other).parent?) := by
  have hKnown :
      (start.after run).knowledge =
        (start.after other).knowledge := by
    rw [knowledge_after_lessons rfl run, hSame,
      ← knowledge_after_lessons rfl other]
  have hNeighbors :
      (start.after run).neighbors =
        (start.after other).neighbors :=
    congrArg (fun known => known.2.2) hKnown
  refine ⟨hNeighbors, ?_⟩
  intro hOnce hRole hOtherRole
  have hOtherOnce : other.countP opens ≤ 1 := by
    rw [← countP_lessons, ← hSame, countP_lessons]
    exact hOnce
  have hFresh :
      start.isOpen = false ∧ start.neighbors.entries = [] := by
    rcases hUnused.eq_withTables with
      ⟨_, _, _, _, hEmpty, rfl⟩
    exact ⟨rfl, hEmpty⟩
  have hCoherent :=
    coherent_after_one_opening hUnused.coherent hFresh.1
      hFresh.2 hOnce
  have hOtherCoherent :=
    coherent_after_one_opening hUnused.coherent hFresh.1
      hFresh.2 hOtherOnce
  have hRoute :=
    hCoherent.route_eq hOtherCoherent hNeighbors
      (by simpa [isSink] using hRole)
      (by simpa [isSink] using hOtherRole)
  have hParts := hRoute
  simp only [route, Prod.mk.injEq] at hParts
  exact
    ⟨hParts.2.1, hParts.2.2, parent?_eq_of_route_eq hRoute⟩

/-
  A node that was the sink while it heard of two neighbors,
  that passed a packet on and was refused one of its own,
  ends up as one that only heard and forgot.
-/
theorem routes_ignore_data_of_former_sink :
    let start := Connection.withConfig ⟨2, 0⟩ Config.standard
    let packet : Packet :=
      { Packet.empty with
        originator := ⟨3, 0⟩
        hops := 1
        ttl := 10 }
    let run : List (Operation × Answer) :=
      [ (.openOn 128, .error (.transport "no radio")),
        (.setSink true, .ok ()),
        (.openOn 128, .ok ()),
        (.setSink true, .ok ()),
        (.handle (.announced ⟨1, 0⟩ 0), .ok ()),
        (.handle (.received ⟨3, 0⟩ packet), .ok ()),
        (.handle (.announced ⟨4, 0⟩ 8), .ok ()),
        (.setSink false, .ok ()),
        (.send [1] 4, .error .transportBusy),
        (.handle (.sent ⟨1, 0⟩ .timeout 5), .ok ()),
        (.handle (.elapsed ⟨10000000000⟩), .ok ()) ]
    let other : List (Operation × Answer) :=
      [ (.openOn 128, .error .transportBusy),
        (.openOn 128, .ok ()),
        (.handle (.announced ⟨1, 0⟩ 0), .ok ()),
        (.handle (.announced ⟨4, 0⟩ 8), .ok ()),
        (.send [2] 4, .ok ()),
        (.handle (.sent ⟨1, 0⟩ .timeout 5), .ok ()),
        (.handle (.elapsed ⟨10000000000⟩), .ok ()) ]
    start.Unused ∧
      lessons run = lessons other ∧
      (start.after run).neighbors =
        (start.after other).neighbors ∧
      (start.after run).metric = (start.after other).metric ∧
      (start.after run).role = (start.after other).role ∧
      (start.after run).parent? =
        (start.after other).parent? := by
  intro start packet run other
  have hUnused : start.Unused :=
    .ofConfig ⟨2, 0⟩ Config.standard _ rfl
  have hSame : lessons run = lessons other := by
    decide
  rcases routes_ignore_data start hUnused run other hSame with
    ⟨hNeighbors, hRoute⟩
  exact
    ⟨hUnused, hSame, hNeighbors,
      hRoute (by decide) (by decide) (by decide)⟩

end Connection

end CollectionTree
