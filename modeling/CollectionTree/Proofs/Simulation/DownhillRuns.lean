import CollectionTree.Proofs.Simulation.Downhill

/-
  Along a line that loses nothing, runs go downhill.

  Key definitions include:
    * `Simulation.SameRoutes`
    * `Simulation.Flowing`

  Key theorems include:
    * `Simulation.Flowing.turn`
    * `Simulation.Flowing.report`
    * `Simulation.Flowing.beaconsSent`
    * `Simulation.Quiet.flowing`

  What is announced goes from the requests to the events in
  the order that it was pledged in, so trails stay as they
  are.  A beacon repeats the last number of a trail.
-/

namespace CollectionTree

namespace Simulation

variable {γ : Type}

------------------------------------------------------------
-- Trails That Stay
------------------------------------------------------------

/- No node has another table or another metric than before. -/
def SameRoutes
    (s t : Simulation γ) : Prop :=
  ∀ (index : Nat) (next : Node),
    t.nodes[index]? = some next →
      ∃ node, s.nodes[index]? = some node ∧
        next.connection.neighbors =
          node.connection.neighbors ∧
        next.connection.metric = node.connection.metric

theorem sameRoutes_of_nodes_eq
    {s t : Simulation γ}
    (hNodes : t.nodes = s.nodes) :
    SameRoutes s t := by
  intro index next hNext
  rw [hNodes] at hNext
  exact ⟨next, hNext, rfl, rfl⟩

theorem SameRoutes.tables
    {s t : Simulation γ}
    (hRoutes : SameRoutes s t)
    (index : Nat)
    (next : Node)
    (hNext : t.nodes[index]? = some next) :
    ∃ node, s.nodes[index]? = some node ∧
      next.connection.neighbors =
        node.connection.neighbors := by
  rcases hRoutes index next hNext with
    ⟨node, hNode, hSame, -⟩
  exact ⟨node, hNode, hSame⟩

/- With the same routes, only the trails need to be told of. -/
theorem Downhill.of_routes
    {setup : Setup}
    {s t : Simulation γ}
    (hDownhill : s.Downhill setup)
    (hRoutes : SameRoutes s t)
    (hTrails :
      ∀ (listener sender : Nat) (node other : Node),
        s.nodes[listener]? = some node →
          s.nodes[sender]? = some other →
          setup.inRange listener sender = true →
            Falls
              (s.trail node.connection.neighbors listener
                  sender ++
                [other.connection.metric.toNat]) →
            Falls
              (t.trail node.connection.neighbors listener
                  sender ++
                [other.connection.metric.toNat]))
    (hSilent :
      ∀ request ∈ t.outbox.toList,
        request.isListen = false) :
    t.Downhill setup := by
  refine
    { links := ?_
      trails := ?_
      slopes := ?_
      silent := hSilent }
  · intro index next hNext n hMem
    rcases hRoutes index next hNext with
      ⟨node, hNode, hTable, -⟩
    rw [hTable] at hMem
    exact hDownhill.links index node hNode n hMem
  · intro listener sender own other hOwn hOther hRange
    rcases hRoutes listener own hOwn with
      ⟨node, hNode, hTable, -⟩
    rcases hRoutes sender other hOther with
      ⟨before, hBefore, -, hMetric⟩
    rw [hTable, hMetric]
    exact
      hTrails listener sender node before hNode hBefore hRange
        (hDownhill.trails listener sender node before hNode
          hBefore hRange)
  · intro index next hNext
    rcases hRoutes (index + 1) next hNext with
      ⟨node, hNode, hTable, hMetric⟩
    rw [hTable, hMetric]
    exact hDownhill.slopes index node hNode

/- A trail grows by news, and by what is yet to be told. -/
theorem trail_of_more
    {s t : Simulation γ}
    {more : List (Nat × Event)}
    (hEvents : t.events.toList = s.events.toList ++ more)
    {requests : List Request}
    (hOutbox :
      t.outbox.toList = s.outbox.toList ++ requests)
    {listener sender : Nat}
    (hNews :
      more.filterMap (newsOf listener (addressOf sender)) =
        [])
    (hPledges : requests.filterMap (pledgeOf sender) = [])
    (table : NeighborTable) :
    t.trail table listener sender =
      s.trail table listener sender := by
  unfold trail
  rw [hEvents, hOutbox, List.filterMap_append,
    List.filterMap_append, hNews, hPledges,
    List.append_nil, List.append_nil]

------------------------------------------------------------
-- Broadcasts
------------------------------------------------------------

/- A broadcast tells everyone in range once. -/
theorem newsOf_broadcast_self
    {s : Simulation γ}
    {listener sender : Nat}
    (hHearer : listener ∈ s.hearers sender)
    (metric : Metric) :
    (s.broadcastNews sender metric).filterMap
        (newsOf listener (addressOf sender)) =
      [metric] := by
  have hNodup : (s.hearers sender).Nodup :=
    List.nodup_range.filter _
  have hOnce :
      (s.hearers sender).filter (· == listener) =
        [listener] := by
    rw [List.filter_beq,
      List.count_eq_one_of_mem hNodup hHearer]
    rfl
  have hTold :
      (fun index =>
        newsOf listener (addressOf sender)
          (index, .announced (addressOf sender) metric)) =
        fun index =>
          if (index == listener) = true then
            some metric
          else
            none := by
    funext index
    simp [newsOf]
  unfold broadcastNews
  rw [List.filterMap_map, Function.comp_def, hTold,
    ← List.filterMap_filter, hOnce]
  rfl

theorem newsOf_broadcast_of_ne
    {s : Simulation γ}
    (hFew : s.nodes.size ≤ 255)
    {sender other : Nat}
    (hSender : sender < s.nodes.size)
    (hOther : other < s.nodes.size)
    (hNe : other ≠ sender)
    (listener : Nat)
    (metric : Metric) :
    (s.broadcastNews sender metric).filterMap
        (newsOf listener (addressOf other)) =
      [] := by
  rw [List.filterMap_eq_nil_iff]
  intro event hMem
  cases hNews : newsOf listener (addressOf other) event with
  | none => rfl
  | some m =>
      rw [newsOf_eq_some_iff.mp hNews] at hMem
      exact
        absurd
          (eq_of_mem_broadcast (by omega) (by omega) hMem).1
          hNe

/-
  What is announced was pledged before anything else that
  is yet to be announced.
-/
theorem trail_of_announced
    {s t : Simulation γ}
    (hFew : s.nodes.size ≤ 255)
    {index : Nat}
    {metric : Metric}
    (hIndex : index < s.nodes.size)
    (hOutbox :
      s.outbox.toList =
        .announce index metric :: t.outbox.toList)
    (hEvents :
      t.events.toList =
        s.events.toList ++ s.broadcastNews index metric)
    {listener sender : Nat}
    (hListener : listener < s.nodes.size)
    (hSender : sender < s.nodes.size)
    (hRange : s.setup.inRange listener sender = true)
    (table : NeighborTable) :
    t.trail table listener sender =
      s.trail table listener sender := by
  unfold trail
  rw [hEvents, hOutbox, List.filterMap_append,
    List.filterMap_cons]
  by_cases hSame : sender = index
  · subst hSame
    rw [newsOf_broadcast_self
      (mem_hearers.mpr ⟨hListener, hRange⟩)]
    simp [pledgeOf]
  · rw [newsOf_broadcast_of_ne hFew hIndex hSender hSame]
    simp [pledgeOf, Ne.symm hSame]

/- A beacon repeats the metric that its node has. -/
theorem trail_of_beacon
    {s t : Simulation γ}
    (hFew : s.nodes.size ≤ 255)
    {index : Nat}
    {node : Node}
    (hNode : s.nodes[index]? = some node)
    (hOutbox : s.outbox.toList = [])
    (hSame : t.outbox.toList = s.outbox.toList)
    (hEvents :
      t.events.toList =
        s.events.toList ++
          s.broadcastNews index node.connection.metric)
    {listener sender : Nat}
    {other : Node}
    (hListener : listener < s.nodes.size)
    (hOther : s.nodes[sender]? = some other)
    (hRange : s.setup.inRange listener sender = true)
    (table : NeighborTable)
    (hFalls :
      Falls
        (s.trail table listener sender ++
          [other.connection.metric.toNat])) :
    Falls
      (t.trail table listener sender ++
        [other.connection.metric.toNat]) := by
  have hIndex := (Array.getElem?_eq_some_iff.mp hNode).1
  have hSender := (Array.getElem?_eq_some_iff.mp hOther).1
  by_cases hBeacon : sender = index
  · subst hBeacon
    have hMetric : other = node :=
      Option.some.inj (hOther.symm.trans hNode)
    subst hMetric
    have hMore :
        t.trail table listener sender =
          s.trail table listener sender ++
            [other.connection.metric.toNat] := by
      unfold trail
      rw [hEvents, hSame, hOutbox, List.filterMap_append,
        newsOf_broadcast_self
          (mem_hearers.mpr ⟨hListener, hRange⟩)]
      simp
    rw [hMore]
    exact falls_repeat hFalls
  · rw [trail_of_more hEvents
      (hSame.trans (List.append_nil _).symm)
      (newsOf_broadcast_of_ne hFew hIndex hSender hBeacon
        listener _) rfl]
    exact hFalls

------------------------------------------------------------
-- Requests and Readings
------------------------------------------------------------

/-
  Metrics go downhill, nodes know all nodes in range, and
  all of them are heard often enough.
-/
structure Flowing
    (setup : Setup)
    (s : Simulation γ) : Prop where
  downhill : s.Downhill setup
  acquainted : s.Acquainted setup
  timely : s.Timely setup
  refreshed : s.Refreshed setup

/- News that change no routes yet make no entry older. -/
theorem Flowing.of_routes
    {setup : Setup}
    {s t : Simulation γ}
    (hFlowing : s.Flowing setup)
    (hRoutes : SameRoutes s t)
    (hSteps : t.steps = s.steps)
    {more : List (Nat × Event)}
    (hEvents : t.events.toList = s.events.toList ++ more)
    (hNoTick : ∀ event ∈ more, event.2.isTick = false)
    (hDownhill : t.Downhill setup) :
    t.Flowing setup := by
  have hMore :=
    hFlowing.timely.of_more hRoutes.tables hSteps hEvents
      hNoTick
  exact
    { downhill := hDownhill
      acquainted :=
        hFlowing.acquainted.of_tables hRoutes.tables
      timely := hMore.1
      refreshed := hMore.2 hFlowing.refreshed }

section Runs

variable
  [LossSource γ]
  {setup : Setup}
  {s t : Simulation γ}

/- A packet that is transmitted tells nothing of metrics. -/
theorem Flowing.transmitted
    (hFlowing : s.Flowing setup)
    {sender : Nat}
    {handover : Handover}
    {outbox : Queue Request}
    (hOutbox :
      s.outbox.toList =
        .unicast sender handover :: outbox.toList) :
    (serve { s with outbox := outbox }
      (.unicast sender handover)).Flowing setup := by
  let now : Simulation γ := { s with outbox := outbox }
  obtain ⟨-, hNodes, hSame, -⟩ :=
    serveUnicast_frame now sender handover
  have hClock := clock_serve now (.unicast sender handover)
  have hSteps := (Prod.mk.inj (Prod.mk.inj hClock).2).1
  have hRest :
      (serve now (.unicast sender handover)).outbox.toList =
        outbox.toList :=
    congrArg Queue.toList hSame
  have hRoutes :
      SameRoutes s (serve now (.unicast sender handover)) :=
    sameRoutes_of_nodes_eq hNodes
  have hAdded :
      ∃ more,
        (serve now
              (.unicast sender handover)).events.toList =
            s.events.toList ++ more ∧
          ∀ event ∈ more, event.2.isRouting = false := by
    rcases serveUnicast_cases now sender handover with
      ⟨index, transmissions, -, hEvents, -⟩ |
      ⟨transmissions, hEvents, -⟩
    · exact ⟨_, hEvents, by simp [Event.isRouting]⟩
    · exact ⟨_, hEvents, by simp [Event.isRouting]⟩
  rcases hAdded with ⟨more, hEvents, hCargo⟩
  refine hFlowing.of_routes hRoutes hSteps hEvents ?_ ?_
  · intro event hMem
    have hRouting := hCargo event hMem
    cases hEvent : event.2 with
    | elapsed time =>
        rw [hEvent] at hRouting
        contradiction
    | _ => rfl
  · apply hFlowing.downhill.of_routes hRoutes
    · intro listener sender' node other _ _ _ hFalls
      have hNews :
          more.filterMap
              (newsOf listener (addressOf sender')) =
            [] := by
        rw [List.filterMap_eq_nil_iff]
        intro event hMem
        have hRouting := hCargo event hMem
        cases hNews :
          newsOf listener (addressOf sender') event with
        | none => rfl
        | some metric =>
            rw [newsOf_eq_some_iff.mp hNews] at hRouting
            contradiction
      have hTrail :
          (serve now (.unicast sender handover)).trail
              node.connection.neighbors listener sender' =
            s.trail node.connection.neighbors listener
              sender' := by
        unfold trail
        rw [hEvents, hRest, hOutbox, List.filterMap_append,
          hNews, List.append_nil]
        rfl
      rw [hTrail]
      exact hFalls
    · intro request hMem
      rw [hRest] at hMem
      apply hFlowing.downhill.silent
      rw [hOutbox]
      exact List.mem_cons_of_mem _ hMem

/- What was pledged is announced. -/
theorem Flowing.announced
    (hFlowing : s.Flowing setup)
    (hFew : setup.nodeCount.toNat ≤ 255)
    (hVicinal : s.Vicinal setup)
    (hLossless : Losses.Lossless s.losses)
    {index : Nat}
    {metric : Metric}
    (hIndex : index < s.nodes.size)
    {outbox : Queue Request}
    (hOutbox :
      s.outbox.toList =
        .announce index metric :: outbox.toList) :
    (serve { s with outbox := outbox }
      (.announce index metric)).Flowing setup := by
  let now : Simulation γ := { s with outbox := outbox }
  obtain ⟨hEvents, -⟩ :=
    broadcast_of_lossless (s := now) hLossless index metric
  have hSmall : s.nodes.size ≤ 255 := by
    rw [hVicinal.size]
    exact hFew
  have hRoutes :
      SameRoutes s (serve now (.announce index metric)) :=
    sameRoutes_of_nodes_eq rfl
  refine hFlowing.of_routes hRoutes rfl hEvents ?_ ?_
  · intro event hMem
    rcases List.mem_map.mp hMem with ⟨listener, -, rfl⟩
    rfl
  · apply hFlowing.downhill.of_routes hRoutes
    · intro listener sender node other hNode hOther hRange
        hFalls
      rw [← hVicinal.setup_eq] at hRange
      have hTrail :=
        trail_of_announced
          (t := serve now (.announce index metric)) hSmall
          hIndex hOutbox hEvents
          (Array.getElem?_eq_some_iff.mp hNode).1
          (Array.getElem?_eq_some_iff.mp hOther).1 hRange
          node.connection.neighbors
      rw [hTrail]
      exact hFalls
    · intro request hMem
      apply hFlowing.downhill.silent
      rw [hOutbox]
      exact List.mem_cons_of_mem _ hMem

/- A turn goes on downhill if packets arrive at once. -/
theorem Flowing.turn
    (hFlowing : s.Flowing setup)
    (hLine : setup.LosslessLine)
    (hSound : s.Sound)
    (hVicinal : s.Vicinal setup)
    (hLossless : Losses.Lossless s.losses)
    (hAtOnce :
      ∀ sender receiver outcome transmissions,
        (sender, .sent receiver outcome transmissions) ∈
            s.events.toList →
          outcome = .acked ∧ transmissions = 1)
    (hTurn : s.turn? = some t) :
    t.Flowing setup := by
  have hLasting := hLine.lasting
  rcases turn_cases hSound hTurn with
    ⟨request, outbox, hOutbox, rfl⟩ |
    ⟨index, event, node, next, hDispatched⟩
  · have hMem : request ∈ s.outbox.toList := by
      rw [hOutbox]
      exact List.mem_cons_self
    cases request with
    | unicast sender handover =>
        exact hFlowing.transmitted hOutbox
    | announce index metric =>
        exact
          hFlowing.announced hLasting.addresses hVicinal
            hLossless (hSound.requests _ hMem) hOutbox
    | listen listener bursts =>
        have hSilent := hFlowing.downhill.silent _ hMem
        contradiction
  · have hTable :=
      neighbors_of_dispatched hLasting hSound hVicinal
        hFlowing.acquainted hFlowing.timely hDispatched
    have hTimely :=
      hFlowing.timely.dispatched hFlowing.refreshed
        hDispatched hTable
    refine
      { downhill := ?_
        acquainted :=
          hFlowing.acquainted.dispatched hDispatched hTable
        timely := hTimely.1
        refreshed := hTimely.2 }
    apply hFlowing.downhill.dispatched hLine hSound hVicinal
      hDispatched hTable
    intro receiver outcome transmissions hSent
    subst hSent
    apply hAtOnce index receiver outcome transmissions
    rw [hDispatched.events]
    exact List.mem_cons_self

omit [LossSource γ] in
/- Every reading is handed over to the node before. -/
theorem Flowing.handedOver
    (hFlowing : s.Flowing setup)
    (hLine : setup.LosslessLine)
    (hSound : s.Sound)
    (hVicinal : s.Vicinal setup)
    {index : Nat}
    {node next : Node}
    {requests : List Request}
    {reply : Reply}
    (hReported :
      Reported s t index node next requests reply) :
    ∃ before, index = before + 1 ∧
      reply = .sent (.forwarded (addressOf before)) ∧
      requests =
        [ .unicast index
            (node.connection.handover (addressOf before)
              (node.connection.originate
                (reading s.steps node.connection.address)
                s.setup.maxRexmit)) ] ∧
      next =
        { node with
          connection :=
            { node.connection.countOriginated with
              forwarding := true }
          inFlight := true } := by
  have hNode := hReported.found
  have hReady := hSound.ready index node hNode
  cases index with
  | zero => exact absurd (hReady.role_iff.mpr rfl) hReported.role
  | succ before =>
      rcases hFlowing.downhill.next_hop hLine hSound hVicinal
        hNode with ⟨n, hBest, hAddress, -⟩
      have hReporting := hReported.reporting
      cases hReporting with
      | dropped hNone =>
          rw [hBest] at hNone
          contradiction
      | handedOver m hSome =>
          have hSame : m = n :=
            Option.some.inj (hSome.symm.trans hBest)
          rw [hSame, hAddress]
          exact ⟨before, rfl, rfl, rfl, rfl⟩

omit [LossSource γ] in
theorem Flowing.report
    (hFlowing : s.Flowing setup)
    (hLine : setup.LosslessLine)
    (hSound : s.Sound)
    (hVicinal : s.Vicinal setup)
    (index : Nat) :
    (s.report index).Flowing setup := by
  rcases report_cases (hSound.ready index) with
    ⟨hSame, -⟩ | ⟨node, next, requests, reply, hReported⟩
  · rw [hSame]
    exact hFlowing
  · rcases hFlowing.handedOver hLine hSound hVicinal
      hReported with ⟨before, -, -, hRequests, hNext⟩
    have hSteps :=
      (Prod.mk.inj (report_frame s index)).2
    have hEvents :
        (s.report index).events.toList =
          s.events.toList ++ [] := by
      rw [hReported.events, List.append_nil]
    have hRoutes : SameRoutes s (s.report index) := by
      intro other changed hChanged
      rcases node_cases hReported.nodes hChanged with
        ⟨rfl, rfl⟩ | ⟨-, hOld⟩
      · refine ⟨node, hReported.found, ?_⟩
        rw [hNext]
        exact ⟨rfl, rfl⟩
      · exact ⟨changed, hOld, rfl, rfl⟩
    refine hFlowing.of_routes hRoutes hSteps hEvents
      (by simp) ?_
    apply hFlowing.downhill.of_routes hRoutes
    · intro listener sender own other _ _ _ hFalls
      rw [trail_of_more hEvents hReported.outbox rfl
        (by rw [hRequests]; rfl)]
      exact hFalls
    · intro request hMem
      rw [hReported.outbox, List.mem_append] at hMem
      rcases hMem with hOld | hNew
      · exact hFlowing.downhill.silent request hOld
      · rw [hRequests, List.mem_singleton] at hNew
        rw [hNew]
        rfl

------------------------------------------------------------
-- Steps
------------------------------------------------------------

theorem Downhill.beacon
    (hDownhill : s.Downhill setup)
    (hFew : setup.nodeCount.toNat ≤ 255)
    (hSound : s.Sound)
    (hVicinal : s.Vicinal setup)
    (hLossless : Losses.Lossless s.losses)
    (hOutbox : s.outbox.toList = [])
    (index : Nat) :
    (s.beacon index).Downhill setup := by
  obtain ⟨-, hNodes, hSame, -⟩ := beacon_frame s index
  have hSmall : s.nodes.size ≤ 255 := by
    rw [hVicinal.size]
    exact hFew
  cases hNode : s.nodes[index]? with
  | none =>
      have hSilent : s.beacon index = s := by
        unfold Simulation.beacon announced?
        rw [hNode]
        rfl
      rw [hSilent]
      exact hDownhill
  | some node =>
      obtain ⟨hEvents, -⟩ :=
        broadcast_of_lossless hLossless index
          node.connection.metric
      rw [← beacon_eq hSound hNode] at hEvents
      apply hDownhill.of_routes (sameRoutes_of_nodes_eq hNodes)
      · intro listener sender own other hOwn hOther hRange
        rw [← hVicinal.setup_eq] at hRange
        exact
          trail_of_beacon hSmall hNode hOutbox
            (congrArg Queue.toList hSame) hEvents
            (Array.getElem?_eq_some_iff.mp hOwn).1 hOther
            hRange own.connection.neighbors
      · intro request hMem
        rw [hSame, hOutbox] at hMem
        contradiction

theorem Downhill.beacons
    (hDownhill : s.Downhill setup)
    (hFew : setup.nodeCount.toNat ≤ 255)
    (hSound : s.Sound)
    (hVicinal : s.Vicinal setup)
    (hLossless : Losses.Lossless s.losses)
    (hOutbox : s.outbox.toList = [])
    (indices : List Nat) :
    (indices.foldl Simulation.beacon s).Downhill setup := by
  induction indices generalizing s with
  | nil => exact hDownhill
  | cons index rest ih =>
      have hNext := Next.beacon s index
      obtain ⟨-, -, hSame, -⟩ := beacon_frame s index
      exact
        ih
          (hDownhill.beacon hFew hSound hVicinal hLossless
            hOutbox index)
          ((hNext.move hSound).sound hSound)
          (hVicinal.next hSound hNext)
          (hLossless.beacon index)
          ((congrArg Queue.toList hSame).trans hOutbox)

omit [LossSource γ] in
/- Time that passes is no news of any metric. -/
theorem Downhill.ticked
    (hDownhill : s.Downhill setup) :
    s.ticked.Downhill setup := by
  have hRoutes : SameRoutes s s.ticked :=
    sameRoutes_of_nodes_eq rfl
  apply hDownhill.of_routes hRoutes
  · intro listener sender node other _ _ _ hFalls
    have hNews :
        ((List.range s.nodes.size).map (fun index =>
              (index, .elapsed s.setup.stepTime))).filterMap
            (newsOf listener (addressOf sender)) =
          [] := by
      rw [List.filterMap_map, List.filterMap_eq_nil_iff]
      intro index _
      rfl
    rw [trail_of_more (t := s.ticked) (events_ticked s)
      (List.append_nil _).symm hNews rfl]
    exact hFalls
  · exact hDownhill.silent

/- Beacons are sent in time. -/
theorem Flowing.beaconsSent
    (hFlowing : s.Flowing setup)
    (hLine : setup.LosslessLine)
    (hSound : s.Sound)
    (hVicinal : s.Vicinal setup)
    (hLossless : Losses.Lossless s.losses)
    (hOutbox : s.outbox.toList = [])
    (hEvents : s.events.toList = []) :
    s.ticked.beaconsSent.Flowing setup := by
  have hLasting := hLine.lasting
  have hTicked : s.ticked.Downhill setup :=
    hFlowing.downhill.ticked
  have hNodes : s.ticked.beaconsSent.nodes = s.nodes :=
    (Prod.mk.inj (beaconsSent_frame s.ticked)).2
  refine
    { downhill := ?_
      acquainted :=
        hFlowing.acquainted.of_tables
          (sameRoutes_of_nodes_eq hNodes).tables
      timely :=
        Timely.beaconsSent hVicinal.setup_eq
          hFlowing.refreshed hEvents
      refreshed :=
        Refreshed.beaconsSent hLasting hSound
          hVicinal.setup_eq hVicinal.size hLossless
          (fun index node hNode n hMem =>
            (hVicinal.tables index node hNode).near n.address
              (List.mem_map_of_mem hMem))
          hFlowing.refreshed hEvents }
  unfold Simulation.beaconsSent
  split
  · have hNext := Next.tick s
    exact
      hTicked.beacons hLasting.addresses
        ((hNext.move hSound).sound hSound)
        (hVicinal.next hSound hNext) hLossless hOutbox _
  · exact hTicked

------------------------------------------------------------
-- The First Packets
------------------------------------------------------------

/- Before links are used, metrics fall to node 0 by steps. -/
theorem Quiet.downhill
    (hQuiet : s.Quiet setup)
    (hLine : setup.LosslessLine) :
    s.Downhill setup := by
  have hSeveral := hLine.several
  have hMetric :
      ∀ (index : Nat) (node : Node),
        s.nodes[index]? = some node →
          node.connection.metric.toNat = 32 * index := by
    intro index node hNode
    rw [← metricAt_of_node hNode]
    exact
      hLine.eq_of_settled (hQuiet.settled (by omega))
        (hQuiet.gossip.lt_of_node hNode)
  refine
    { links := ?_
      trails := ?_
      slopes := ?_
      silent := ?_ }
  · intro index node hNode n hMem
    have hTable := hQuiet.gossip.tables index node hNode
    rw [(hTable.entries n hMem).1]
    exact LinkEstimate.steady_fresh
  · intro listener sender node other hNode hOther hRange
    have hHeard := hQuiet.heard hNode hOther hRange
    have hEq := hMetric sender other hOther
    unfold trail
    rw [hQuiet.events, hQuiet.outbox, hHeard]
    simp [Falls, hEq]
  · intro index node hNode
    have hNext := hQuiet.gossip.lt_of_node hNode
    have hRange : setup.inRange (index + 1) index = true :=
      (hLine.inRange_iff hNext (by omega)).mpr (Or.inr rfl)
    rcases hQuiet.exists_node (Nat.lt_of_succ_lt hNext) with
      ⟨other, hOther⟩
    rcases Option.map_eq_some_iff.mp
      (hQuiet.heard hNode hOther hRange) with
      ⟨n, hFind, hSame⟩
    rcases NeighborTable.mem_of_find? hFind with
      ⟨hMem, hAddress⟩
    rcases hQuiet.entry hNode hMem with ⟨_, -, -, hEtx, -⟩
    refine ⟨n, hMem, hAddress, ?_⟩
    rw [hMetric _ node hNode, hSame, hMetric _ other hOther,
      hEtx]
    omega
  · intro request hMem
    rw [hQuiet.outbox] at hMem
    contradiction

theorem Quiet.flowing
    (hQuiet : s.Quiet setup)
    (hRefreshed : s.Refreshed setup)
    (hLine : setup.LosslessLine) :
    s.Flowing setup := by
  refine
    { downhill := hQuiet.downhill hLine
      acquainted := ?_
      timely := hQuiet.gossip.timely
      refreshed := hRefreshed }
  intro index node hNode a hNear
  rcases hNear with ⟨other, hOther, hRange, rfl⟩
  rcases hQuiet.exists_node hOther with ⟨next, hNext⟩
  rcases Option.map_eq_some_iff.mp
    (hQuiet.heard hNode hNext hRange) with ⟨n, hFind, -⟩
  rcases NeighborTable.mem_of_find? hFind with
    ⟨hMem, hAddress⟩
  rw [← hAddress]
  exact List.mem_map_of_mem hMem

end Runs

end Simulation

end CollectionTree
