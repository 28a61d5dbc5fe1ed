import CollectionTree.Proofs.Simulation.Gossip

/-
  Gossip goes on from turn to turn.

  Key theorems include:
    * `Simulation.Gossip.elapsed`
    * `Simulation.Gossip.heard`
    * `Simulation.Gossip.turn`
    * `Simulation.Gossip.pump`

  Time passes at all nodes before anything is heard in a
  step, so what is heard in a step is new at its end.
-/

namespace CollectionTree

/- A node has another table, and tells of another metric. -/
theorem Node.Rerouted.spread
    {index : Nat}
    {node next : Node}
    {d : Connection}
    {requests : List Request}
    (hRerouted : Node.Rerouted index node d next requests) :
    next.connection.neighbors = d.neighbors ∧
      ((requests = [] ∧
          next.connection.metric = d.metric) ∨
        requests =
          [.announce index next.connection.metric]) := by
  cases hRerouted with
  | kept _ => exact ⟨rfl, Or.inl ⟨rfl, rfl⟩⟩
  | changed _ _ => exact ⟨rfl, Or.inr rfl⟩

namespace Simulation

variable {γ : Type}

------------------------------------------------------------
-- Events Leave the Queue
------------------------------------------------------------

section Events

variable
  {s t : Simulation γ}
  {index : Nat}
  {event : Event}

theorem ticksFor_of_pop
    (hEvents :
      s.events.toList = (index, event) :: t.events.toList)
    (other : Nat) :
    s.ticksFor other =
      t.ticksFor other +
        if index = other then event.isTick.toNat else 0 := by
  unfold ticksFor
  rw [hEvents, List.countP_cons]
  by_cases hSame : index = other
  · cases event.isTick <;> simp [hSame]
  · simp [hSame]

theorem lastNews_of_pop
    (hEvents :
      s.events.toList = (index, event) :: t.events.toList)
    (listener sender : Nat) :
    s.lastNews listener sender =
      (t.lastNews listener sender).or
        (newsOf listener (addressOf sender)
          (index, event)) := by
  unfold lastNews
  rw [hEvents, List.filterMap_cons]
  cases newsOf listener (addressOf sender) (index, event) with
  | none => simp
  | some metric =>
      rw [List.getLast?_cons]
      cases (t.events.toList.filterMap
        (newsOf listener (addressOf sender))).getLast? <;> rfl

/- What a node is told is not told to another node. -/
theorem newsOf_of_ne
    {listener : Nat}
    (hOther : index ≠ listener)
    (sender : Address) :
    newsOf listener sender (index, event) = none := by
  cases hNews : newsOf listener sender (index, event) with
  | none => rfl
  | some metric =>
      rw [newsOf_eq_some_iff, Prod.mk.injEq] at hNews
      exact absurd hNews.1 hOther

/- The news of other nodes stay when an event leaves. -/
theorem lastNews_of_bystander
    (hEvents :
      s.events.toList = (index, event) :: t.events.toList)
    {listener : Nat}
    (hOther : listener ≠ index)
    (sender : Nat) :
    s.lastNews listener sender =
      t.lastNews listener sender := by
  rw [lastNews_of_pop hEvents, newsOf_of_ne (Ne.symm hOther),
    Option.or_none]

theorem lastPledge_of_quiet
    (hOutbox : s.outbox.toList = [])
    (sender : Nat) :
    s.lastPledge sender = none := by
  unfold lastPledge
  rw [hOutbox]
  rfl

/- Only the node that was told something has requests. -/
theorem lastPledge_of_one
    {metric : Metric}
    (hOutbox : s.outbox.toList = [.announce index metric])
    (sender : Nat) :
    s.lastPledge sender =
      if index = sender then some metric else none := by
  unfold lastPledge
  rw [hOutbox]
  by_cases hSame : index = sender
  · simp [pledgeOf, hSame]
  · simp [pledgeOf, hSame]

variable [LossSource γ]

/-
  What is believed stays true when a node was told
  something: it announces a new metric, and knows as much as
  what it was told and what it knew before.
-/
theorem Gossip.beliefs_of_handled
    {setup : Setup}
    (hGossip : s.Gossip setup)
    {node next : Node}
    (hOutbox : s.outbox.toList = [])
    (hEvents :
      s.events.toList = (index, event) :: t.events.toList)
    (hNode : s.nodes[index]? = some node)
    (hNodes : t.nodes = s.nodes.setIfInBounds index next)
    (hRequests :
      (t.outbox.toList = [] ∧
          next.connection.metric = node.connection.metric) ∨
        t.outbox.toList =
          [.announce index next.connection.metric])
    (hHeard :
      ∀ sender, sender < setup.nodeCount.toNat →
        setup.inRange index sender = true →
          (t.lastNews index sender).or
              (next.connection.neighbors.heard
                (addressOf sender)) =
            (s.lastNews index sender).or
              (node.connection.neighbors.heard
                (addressOf sender)))
    {listener sender : Nat}
    {own other : Node}
    (hOwn : t.nodes[listener]? = some own)
    (hOther : t.nodes[sender]? = some other)
    (hRange : setup.inRange listener sender = true) :
    t.belief listener own.connection.neighbors sender =
      some other.connection.metric := by
  -- Nothing was about to be announced before.
  have hBefore :
      ∀ (own other : Node),
        s.nodes[listener]? = some own →
          s.nodes[sender]? = some other →
            (s.lastNews listener sender).or
                (own.connection.neighbors.heard
                  (addressOf sender)) =
              some other.connection.metric := by
    intro own other hOwn hOther
    have hBelief :=
      hGossip.beliefs listener sender own other hOwn hOther
        hRange
    unfold belief at hBelief
    rw [lastPledge_of_quiet hOutbox] at hBelief
    exact hBelief
  unfold belief
  rcases node_cases hNodes hOther with
    ⟨rfl, rfl⟩ | ⟨hSender, hOld⟩
  · rcases node_cases hNodes hOwn with
      ⟨rfl, -⟩ | ⟨hListener, hOldOwn⟩
    · rw [setup.inRange_self] at hRange
      contradiction
    · rcases hRequests with ⟨hNone, hMetric⟩ | hOne
      · rw [lastPledge_of_quiet hNone, hMetric,
          ← lastNews_of_bystander hEvents hListener]
        exact hBefore own node hOldOwn hNode
      · rw [lastPledge_of_one hOne, if_pos rfl]
        rfl
  · have hQuiet : t.lastPledge sender = none := by
      rcases hRequests with ⟨hNone, -⟩ | hOne
      · exact lastPledge_of_quiet hNone sender
      · rw [lastPledge_of_one hOne, if_neg (Ne.symm hSender)]
    rw [hQuiet]
    rcases node_cases hNodes hOwn with
      ⟨rfl, rfl⟩ | ⟨hListener, hOldOwn⟩
    · rw [hHeard sender (hGossip.lt_of_node hOld) hRange]
      exact hBefore node other hNode hOld
    · rw [← lastNews_of_bystander hEvents hListener]
      exact hBefore own other hOldOwn hOld

/-
  What it takes for an event to be no more than gossip: the
  new table of the node is local, not too old, and right
  about what is still to be heard.
-/
theorem Gossip.of_handled
    {setup : Setup}
    (hGossip : s.Gossip setup)
    {node next : Node}
    (hOutbox : s.outbox.toList = [])
    (hEvents :
      s.events.toList = (index, event) :: t.events.toList)
    (hNode : s.nodes[index]? = some node)
    (hSound : t.Sound)
    (hSetup : t.setup = s.setup)
    (hNodes : t.nodes = s.nodes.setIfInBounds index next)
    (hSteps : t.steps = s.steps)
    (hLosses : t.losses = s.losses)
    (hRequests :
      (t.outbox.toList = [] ∧
          next.connection.metric = node.connection.metric) ∨
        t.outbox.toList =
          [.announce index next.connection.metric])
    (hLocal :
      next.connection.neighbors.Local setup index)
    (hAges :
      ∀ n ∈ next.connection.neighbors.entries,
        n.age.nanos +
            t.ticksFor index * setup.stepTime.nanos ≤
          ((s.steps - 1) % setup.beaconInterval.toNat + 1) *
            setup.stepTime.nanos)
    (hHeard :
      ∀ sender, sender < setup.nodeCount.toNat →
        setup.inRange index sender = true →
          (t.lastNews index sender).or
              (next.connection.neighbors.heard
                (addressOf sender)) =
            (s.lastNews index sender).or
              (node.connection.neighbors.heard
                (addressOf sender))) :
    t.Gossip setup := by
  refine
    { sound := hSound
      setup_eq := hSetup.trans hGossip.setup_eq
      size := ?_
      lossless := hLosses ▸ hGossip.lossless
      requests := ?_
      events := ?_
      order := ?_
      tables := ?_
      ages := ?_
      beliefs := ?_ }
  · rw [hNodes, Array.size_setIfInBounds]
    exact hGossip.size
  · intro request hMem
    rcases hRequests with ⟨hNone, -⟩ | hOne
    · rw [hNone] at hMem
      contradiction
    · rw [hOne, List.mem_singleton] at hMem
      rw [hMem]
      rfl
  · intro other hMem
    exact hGossip.events other
      (hEvents ▸ List.mem_cons_of_mem _ hMem)
  · have hOrder := hGossip.order
    rw [hEvents, List.pairwise_cons] at hOrder
    exact hOrder.2
  · intro other changed hChanged
    rcases node_cases hNodes hChanged with
      ⟨rfl, rfl⟩ | ⟨-, hOld⟩
    · exact hLocal
    · exact hGossip.tables other changed hOld
  · intro other changed hChanged n hMem
    rw [hSteps]
    rcases node_cases hNodes hChanged with
      ⟨rfl, rfl⟩ | ⟨hOther, hOld⟩
    · exact hAges n hMem
    · have hBefore := hGossip.ages other changed hOld n hMem
      rw [ticksFor_of_pop hEvents,
        if_neg (Ne.symm hOther)] at hBefore
      exact hBefore
  · intro listener sender own other hOwn hOther hRange
    exact hGossip.beliefs_of_handled hOutbox hEvents hNode
      hNodes hRequests hHeard hOwn hOther hRange

end Events

------------------------------------------------------------
-- Time Passes at a Node
------------------------------------------------------------

section Turns

variable [LossSource γ]

/- The time that a lifetime lasts at least. -/
theorem lt_lifetime
    {setup : Setup}
    (hLasting : setup.Lasting)
    (step : Nat) :
    (step % setup.beaconInterval.toNat + 1) *
        setup.stepTime.nanos <
      (Duration.ofSeconds
        setup.collect.neighborLifetime.toNat 0).nanos := by
  have hRest :
      step % setup.beaconInterval.toNat + 1 ≤
        setup.beaconInterval.toNat :=
    Nat.mod_lt step hLasting.interval
  have hScaled :=
    Nat.mul_le_mul_right setup.stepTime.nanos hRest
  have hLifetime := hLasting.lifetime
  have hTime :
      setup.beaconInterval.toNat * setup.stepTime.nanos =
        setup.beaconInterval.toNat *
          setup.stepMillis.toNat * 1000000 := by
    simp only [Setup.stepTime, Duration.ofMillis,
      Nat.mul_assoc]
  have hSeconds :
      (Duration.ofSeconds
        setup.collect.neighborLifetime.toNat 0).nanos =
        setup.collect.neighborLifetime.toNat *
          1000000000 := by
    simp only [Duration.ofSeconds, Duration.nanosPerSecond,
      Nat.add_zero]
  omega

theorem address_aged
    (n : Neighbor)
    (time : Duration) :
    (n.aged time).address = n.address :=
  rfl

theorem nanos_aged_le
    (n : Neighbor)
    (time : Duration) :
    (n.aged time).age.nanos ≤ n.age.nanos + time.nanos :=
  Nat.min_le_left _ _

omit [LossSource γ] in
/- An entry is as old as it was going to be. -/
theorem age_of_tick
    {setup : Setup}
    {s t : Simulation γ}
    {index : Nat}
    (hEvents :
      s.events.toList =
        (index, .elapsed setup.stepTime) :: t.events.toList)
    (n : Neighbor) :
    (n.aged setup.stepTime).age.nanos +
        t.ticksFor index * setup.stepTime.nanos ≤
      n.age.nanos +
        s.ticksFor index * setup.stepTime.nanos := by
  have hAged := nanos_aged_le n setup.stepTime
  have hOne :
      (t.ticksFor index + 1) * setup.stepTime.nanos =
        t.ticksFor index * setup.stepTime.nanos +
          setup.stepTime.nanos :=
    Nat.succ_mul _ _
  have hTick :
      (Event.elapsed setup.stepTime).isTick.toNat = 1 := rfl
  rw [ticksFor_of_pop hEvents, if_pos rfl, hTick, hOne]
  omega

omit [LossSource γ] in
/- An entry that is young enough is not dropped. -/
theorem fresh_of_tick
    {setup : Setup}
    (hLasting : setup.Lasting)
    {s t : Simulation γ}
    {index : Nat}
    (hEvents :
      s.events.toList =
        (index, .elapsed setup.stepTime) :: t.events.toList)
    {n : Neighbor}
    (hAge :
      n.age.nanos +
          s.ticksFor index * setup.stepTime.nanos ≤
        ((s.steps - 1) % setup.beaconInterval.toNat + 1) *
          setup.stepTime.nanos) :
    (n.aged setup.stepTime).isStale
      (Duration.ofSeconds
        setup.collect.neighborLifetime.toNat 0) = false := by
  have hOlder := age_of_tick hEvents n
  have hLifetime := lt_lifetime hLasting (s.steps - 1)
  refine decide_eq_false (Nat.not_le_of_lt ?_)
  omega

/- No entry is dropped when time passes at its node. -/
theorem Gossip.fresh_of_tick
    {setup : Setup}
    (hLasting : setup.Lasting)
    {s t : Simulation γ}
    (hGossip : s.Gossip setup)
    {index : Nat}
    {node : Node}
    (hEvents :
      s.events.toList =
        (index, .elapsed setup.stepTime) :: t.events.toList)
    (hNode : s.nodes[index]? = some node) :
    ∀ n ∈ node.connection.neighbors.entries,
      (n.aged setup.stepTime).isStale
        node.connection.neighbors.lifetime = false := by
  intro n hMem
  rw [(hGossip.tables index node hNode).lifetime]
  exact Simulation.fresh_of_tick hLasting hEvents
    (hGossip.ages index node hNode n hMem)

omit [LossSource γ] in
/- What an event that leaves the queue leaves behind. -/
theorem Refreshed.of_handled
    {setup : Setup}
    {s t : Simulation γ}
    (hRefreshed : s.Refreshed setup)
    {index : Nat}
    {event : Event}
    {next : Node}
    (hEvents :
      s.events.toList = (index, event) :: t.events.toList)
    (hNodes : t.nodes = s.nodes.setIfInBounds index next)
    (hSteps : t.steps = s.steps)
    (hOwn :
      ∀ n ∈ next.connection.neighbors.entries,
        n.age.nanos +
              t.ticksFor index * setup.stepTime.nanos ≤
            (s.steps % setup.beaconInterval.toNat) *
              setup.stepTime.nanos ∨
          ∃ metric,
            (index, .announced n.address metric) ∈
              t.events.toList) :
    t.Refreshed setup := by
  intro other changed hChanged n hMem
  rw [hSteps]
  rcases node_cases hNodes hChanged with
    ⟨rfl, rfl⟩ | ⟨hOther, hOld⟩
  · exact hOwn n hMem
  · rcases hRefreshed other changed hOld n hMem with
      hYoung | ⟨metric, hSoon⟩
    · rw [ticksFor_of_pop hEvents,
        if_neg (Ne.symm hOther)] at hYoung
      exact Or.inl hYoung
    · rw [hEvents, List.mem_cons] at hSoon
      rcases hSoon with hFirst | hLater
      · rw [Prod.mk.injEq] at hFirst
        exact absurd hFirst.1 hOther
      · exact Or.inr ⟨metric, hLater⟩

/- Time has passed at a node. -/
theorem Gossip.elapsed
    {setup : Setup}
    (hLasting : setup.Lasting)
    {s t : Simulation γ}
    (hGossip : s.Gossip setup)
    (hRefreshed : s.Refreshed setup)
    {index : Nat}
    {node next : Node}
    (hDispatched :
      Dispatched s t index (.elapsed setup.stepTime)
        node next) :
    t.Gossip setup ∧ t.Refreshed setup := by
  have hSound := hGossip.sound.of_dispatched hDispatched
  have hEvents := hDispatched.events
  have hNode := hDispatched.found
  have hFresh := hGossip.fresh_of_tick hLasting hEvents hNode
  have hHandling := hDispatched.handling
  generalize hAsked : t.outbox.toList = requests at hHandling
  cases hHandling with
  | aged _ _ _ hRerouted =>
      obtain ⟨hTable, hRequests⟩ := hRerouted.spread
      have hMem :
          ∀ n ∈ next.connection.neighbors.entries,
            ∃ m ∈ node.connection.neighbors.entries,
              n = m.aged setup.stepTime := by
        rw [hTable]
        exact fun n hn => NeighborTable.mem_tick hn
      constructor
      · apply hGossip.of_handled hDispatched.outbox hEvents
          hNode hSound hDispatched.setup
          hDispatched.nodes hDispatched.steps
          hDispatched.losses (hAsked ▸ hRequests)
        · rw [hTable]
          exact (hGossip.tables index node hNode).tick hFresh
        · intro n hn
          rcases hMem n hn with ⟨m, hOld, rfl⟩
          exact Nat.le_trans (age_of_tick hEvents m)
            (hGossip.ages index node hNode m hOld)
        · intro sender _ _
          rw [hTable, lastNews_of_pop hEvents]
          change _ = ((t.lastNews index sender).or none).or _
          rw [Option.or_none]
          exact congrArg _ (NeighborTable.heard_tick hFresh _)
      · apply hRefreshed.of_handled hEvents
          hDispatched.nodes hDispatched.steps
        intro n hn
        rcases hMem n hn with ⟨m, hOld, rfl⟩
        rcases hRefreshed index node hNode m hOld with
          hYoung | ⟨metric, hSoon⟩
        · exact Or.inl
            (Nat.le_trans (age_of_tick hEvents m) hYoung)
        · rw [hEvents, List.mem_cons] at hSoon
          rcases hSoon with hFirst | hLater
          · rw [Prod.mk.injEq] at hFirst
            exact absurd hFirst.2 Event.noConfusion
          · rw [address_aged]
            exact Or.inr ⟨metric, hLater⟩

------------------------------------------------------------
-- A Node Hears Another One
------------------------------------------------------------

/- No time is to pass in a step once something was heard. -/
theorem Gossip.ticksFor_of_heard
    {setup : Setup}
    {s t : Simulation γ}
    (hGossip : s.Gossip setup)
    {index : Nat}
    {sender : Address}
    {metric : Metric}
    (hEvents :
      s.events.toList =
        (index, .announced sender metric) ::
          t.events.toList)
    (other : Nat) :
    t.ticksFor other = 0 := by
  have hOrder := hGossip.order
  rw [hEvents, List.pairwise_cons] at hOrder
  unfold ticksFor
  rw [List.countP_eq_zero]
  intro event hMem hTick
  rw [Bool.and_eq_true] at hTick
  have hFirst := hOrder.1 event hMem hTick.1
  contradiction

/- What was on its way to a node is in its table now. -/
theorem Gossip.known_of_announced
    {setup : Setup}
    (hLasting : setup.Lasting)
    {s t : Simulation γ}
    (hGossip : s.Gossip setup)
    {index : Nat}
    {node : Node}
    {sender : Nat}
    {metric : Metric}
    (hSender : sender < setup.nodeCount.toNat)
    (hEvents :
      s.events.toList =
        (index, .announced (addressOf sender) metric) ::
          t.events.toList)
    (hNode : s.nodes[index]? = some node)
    {other : Nat}
    (hOther : other < setup.nodeCount.toNat)
    (hReach : setup.inRange index other = true) :
    (t.lastNews index other).or
        ((node.connection.informed (addressOf sender)
          metric).neighbors.heard (addressOf other)) =
      (s.lastNews index other).or
        (node.connection.neighbors.heard
          (addressOf other)) := by
  have hAddresses := hLasting.addresses
  have hIndex := hGossip.lt_of_node hNode
  have hLocal := hGossip.tables index node hNode
  rw [lastNews_of_pop hEvents]
  by_cases hSame : other = sender
  · subst hSame
    have hNews :
        newsOf index (addressOf other)
            (index, .announced (addressOf other) metric) =
          some metric :=
      newsOf_eq_some_iff.mpr rfl
    have hHeard :
        (node.connection.informed (addressOf other)
            metric).neighbors.heard (addressOf other) =
          some metric :=
      NeighborTable.heard_noteAnnounced_self
        (hLocal.room hLasting hIndex hOther hReach) metric
    rw [hNews, hHeard]
    cases t.lastNews index other <;> rfl
  · have hAddress : addressOf other ≠ addressOf sender := by
      intro hEq
      exact hSame (addressOf_inj (by omega) (by omega) hEq)
    have hNews :
        newsOf index (addressOf other)
            (index, .announced (addressOf sender) metric) =
          none := by
      simp [newsOf, Ne.symm hAddress]
    rw [hNews, Option.or_none]
    exact congrArg _
      (NeighborTable.heard_noteAnnounced_of_ne _
        hAddress metric)

/- A node has heard a node in range. -/
theorem Gossip.heard
    {setup : Setup}
    (hLasting : setup.Lasting)
    {s t : Simulation γ}
    (hGossip : s.Gossip setup)
    (hRefreshed : s.Refreshed setup)
    {index : Nat}
    {node next : Node}
    {sender : Nat}
    {metric : Metric}
    (hSender : sender < setup.nodeCount.toNat)
    (hRange : setup.inRange index sender = true)
    (hDispatched :
      Dispatched s t index
        (.announced (addressOf sender) metric) node next) :
    t.Gossip setup ∧ t.Refreshed setup := by
  have hAddresses := hLasting.addresses
  have hSound := hGossip.sound.of_dispatched hDispatched
  have hEvents := hDispatched.events
  have hNode := hDispatched.found
  have hIndex := hGossip.lt_of_node hNode
  have hLocal := hGossip.tables index node hNode
  have hNoTicks := hGossip.ticksFor_of_heard hEvents
  have hTicks :
      s.ticksFor index = t.ticksFor index := by
    rw [ticksFor_of_pop hEvents, if_pos rfl]
    rfl
  have hHandling := hDispatched.handling
  generalize hAsked : t.outbox.toList = requests at hHandling
  cases hHandling with
  | echoed _ _ hOwn =>
      rw [(hGossip.sound.ready index node hNode).address]
        at hOwn
      have hSame :=
        addressOf_inj (by omega) (by omega) hOwn
      rw [hSame, setup.inRange_self] at hRange
      contradiction
  | heard _ _ _ _ _ hRerouted =>
      obtain ⟨hTable, hRequests⟩ := hRerouted.spread
      have hMem :
          ∀ n ∈ next.connection.neighbors.entries,
            (n ∈ node.connection.neighbors.entries ∧
                n.address ≠ addressOf sender) ∨
              n.age = Duration.zero := by
        rw [hTable]
        exact fun n hn =>
          NeighborTable.mem_noteAnnounced hLocal.nodup hn
      constructor
      · apply hGossip.of_handled hDispatched.outbox hEvents
          hNode hSound hDispatched.setup
          hDispatched.nodes hDispatched.steps
          hDispatched.losses (hAsked ▸ hRequests)
        · rw [hTable]
          exact hLocal.noteAnnounced hSender hRange metric
        · intro n hn
          rcases hMem n hn with ⟨hOld, -⟩ | hZero
          · rw [← hTicks]
            exact hGossip.ages index node hNode n hOld
          · rw [hZero, hNoTicks, Nat.zero_mul]
            exact Nat.zero_le _
        · intro other hOther hReach
          rw [hTable]
          exact hGossip.known_of_announced hLasting hSender
            hEvents hNode hOther hReach
      · apply hRefreshed.of_handled hEvents
          hDispatched.nodes hDispatched.steps
        intro n hn
        rcases hMem n hn with ⟨hOld, hOther⟩ | hZero
        · rcases hRefreshed index node hNode n hOld with
            hYoung | ⟨m, hSoon⟩
          · rw [hTicks] at hYoung
            exact Or.inl hYoung
          · rw [hEvents, List.mem_cons] at hSoon
            rcases hSoon with hFirst | hLater
            · simp only [Prod.mk.injEq,
                Event.announced.injEq] at hFirst
              exact absurd hFirst.2.1 hOther
            · exact Or.inr ⟨m, hLater⟩
        · apply Or.inl
          rw [hZero, hNoTicks, Nat.zero_mul]
          exact Nat.zero_le _

------------------------------------------------------------
-- Turns
------------------------------------------------------------

/- A request for the air was served. -/
theorem Gossip.served
    {setup : Setup}
    (hLasting : setup.Lasting)
    {s : Simulation γ}
    (hGossip : s.Gossip setup)
    (hRefreshed : s.Refreshed setup)
    {request : Request}
    {outbox : Queue Request}
    (hOutbox :
      s.outbox.toList = request :: outbox.toList) :
    (({ s with outbox := outbox } :
      Simulation γ).serve request).Gossip setup ∧
      (({ s with outbox := outbox } :
        Simulation γ).serve request).Refreshed setup := by
  cases request with
  | unicast sender handover =>
      have hRouting :=
        hGossip.requests (.unicast sender handover)
          (by simp [hOutbox])
      contradiction
  | announce sender metric =>
      have hSender : sender < setup.nodeCount.toNat := by
        rw [← hGossip.size]
        exact hGossip.sound.requests (.announce sender metric)
          (by simp [hOutbox])
      obtain ⟨hEvents, -⟩ :=
        broadcast_of_lossless
          (s := { s with outbox := outbox })
          hGossip.lossless sender metric
      constructor
      · exact hGossip.announced hLasting hOutbox
      · exact hRefreshed.of_news rfl rfl
          (areNews_broadcast hGossip hSender metric) hEvents
  | listen listener bursts =>
      obtain ⟨hListened, hNews, hEvents⟩ :=
        hGossip.listened hLasting hOutbox
      constructor
      · exact hListened
      · exact hRefreshed.of_news rfl rfl hNews hEvents

theorem Gossip.turn
    {setup : Setup}
    (hLasting : setup.Lasting)
    {s t : Simulation γ}
    (hGossip : s.Gossip setup)
    (hRefreshed : s.Refreshed setup)
    (hTurn : s.turn? = some t) :
    t.Gossip setup ∧ t.Refreshed setup := by
  rcases turn_cases hGossip.sound hTurn with
    ⟨request, outbox, hOutbox, rfl⟩ |
    ⟨index, event, node, next, hDispatched⟩
  · exact hGossip.served hLasting hRefreshed hOutbox
  · have hMem : (index, event) ∈ s.events.toList := by
      rw [hDispatched.events]
      exact List.mem_cons_self
    rcases hGossip.events (index, event) hMem with
      hTick | ⟨sender, metric, hSender, hRange, hHeard⟩
    · simp only at hTick
      subst hTick
      exact hGossip.elapsed hLasting hRefreshed hDispatched
    · simp only at hHeard
      subst hHeard
      exact hGossip.heard hLasting hRefreshed hSender hRange
        hDispatched

/- Gossip goes on, however many turns are taken. -/
theorem Gossip.pump
    {setup : Setup}
    (hLasting : setup.Lasting)
    {s : Simulation γ}
    (hGossip : s.Gossip setup)
    (hRefreshed : s.Refreshed setup)
    (budget : Nat) :
    (s.pump budget).Gossip setup ∧
      (s.pump budget).Refreshed setup := by
  induction budget generalizing s with
  | zero => exact ⟨hGossip, hRefreshed⟩
  | succ budget ih =>
      unfold Simulation.pump
      cases hTurn : s.turn? with
      | none => exact ⟨hGossip, hRefreshed⟩
      | some next =>
          obtain ⟨hNext, hNextRefreshed⟩ :=
            hGossip.turn hLasting hRefreshed hTurn
          exact ih hNext hNextRefreshed

end Turns

end Simulation

end CollectionTree
