import CollectionTree.Proofs.Simulation.Lossless
import CollectionTree.Proofs.Simulation.Start

/-
  How metrics spread when nothing is lost and no packets are
  sent.

  Key definitions include:
    * `Setup.Lasting`
    * `NeighborTable.Local`
    * `Simulation.belief`
    * `Simulation.Gossip`
    * `Simulation.Refreshed`

  Key theorems include:
    * `Simulation.Gossip.beacon`
    * `Simulation.Gossip.announced`
    * `Simulation.Gossip.listened`

  The metric that a listener holds for a sender may be old.
  What it will hold once the queues are empty is not: the
  newest of what the sender is about to announce, of what is
  on its way to the listener, and of what the listener has
  in its table, is always the sender's own metric.
-/

namespace CollectionTree

------------------------------------------------------------
-- Setups
------------------------------------------------------------

/-
  All nodes have addresses, tables have room for all that a
  node can hear, and beacons come before entries get stale.
-/
structure Setup.Lasting
    (setup : Setup) : Prop where
  addresses : setup.nodeCount.toNat ≤ 255
  interval : 0 < setup.beaconInterval.toNat
  room :
    ∀ index, index < setup.nodeCount.toNat →
      ((List.range setup.nodeCount.toNat).filter
        (setup.inRange index)).length ≤
          setup.collect.neighborCapacity.toNat
  lifetime :
    setup.beaconInterval.toNat * setup.stepMillis.toNat <
      1000 * setup.collect.neighborLifetime.toNat

------------------------------------------------------------
-- Tables of Nodes in Range
------------------------------------------------------------

namespace NeighborTable

/-
  The table of a node holds nodes in range, each of them
  once and with a link that was never used.
-/
structure Local
    (setup : Setup)
    (index : Nat)
    (t : NeighborTable) : Prop where
  nodup : t.addresses.Nodup
  entries :
    ∀ n ∈ t.entries,
      n.link = LinkEstimate.fresh ∧
        ∃ other, other < setup.nodeCount.toNat ∧
          setup.inRange index other = true ∧
          n.address = Simulation.addressOf other
  capacity :
    t.capacity = setup.collect.neighborCapacity.toNat
  lifetime :
    t.lifetime =
      Duration.ofSeconds
        setup.collect.neighborLifetime.toNat 0

/- The metric that a table has for an address. -/
def heard
    (t : NeighborTable)
    (a : Address) : Option Metric :=
  (t.find? a).map Neighbor.metric

/- There is room for whoever is not in the table. -/
theorem Local.room
    {setup : Setup}
    (hLasting : setup.Lasting)
    {index : Nat}
    (hIndex : index < setup.nodeCount.toNat)
    {t : NeighborTable}
    (hLocal : t.Local setup index)
    {other : Nat}
    (hOther : other < setup.nodeCount.toNat)
    (hRange : setup.inRange index other = true) :
    Simulation.addressOf other ∈ t.addresses ∨
      t.size < t.capacity := by
  by_cases hKnown :
    Simulation.addressOf other ∈ t.addresses
  · exact Or.inl hKnown
  · apply Or.inr
    let near :=
      (List.range setup.nodeCount.toNat).filter
        (setup.inRange index)
    have hNear : other ∈ near :=
      List.mem_filter.mpr
        ⟨List.mem_range.mpr hOther, hRange⟩
    have hAll :
        Simulation.addressOf other :: t.addresses ⊆
          near.map Simulation.addressOf := by
      intro a hMem
      rcases List.mem_cons.mp hMem with rfl | hEntry
      · exact List.mem_map.mpr ⟨other, hNear, rfl⟩
      · rcases List.mem_map.mp hEntry with ⟨n, hn, rfl⟩
        rcases (hLocal.entries n hn).2 with
          ⟨m, hm, hReach, hAddress⟩
        exact List.mem_map.mpr
          ⟨m, List.mem_filter.mpr
            ⟨List.mem_range.mpr hm, hReach⟩,
            hAddress.symm⟩
    have hNodup :
        (Simulation.addressOf other :: t.addresses).Nodup :=
      List.nodup_cons.mpr ⟨hKnown, hLocal.nodup⟩
    have hLength := hNodup.length_le_of_subset hAll
    have hRoom := hLasting.room index hIndex
    rw [List.length_map, List.length_cons,
      length_addresses] at hLength
    rw [hLocal.capacity]
    exact Nat.lt_of_lt_of_le hLength hRoom

/- The table after a node in range announced a metric. -/
theorem Local.noteAnnounced
    {setup : Setup}
    {index : Nat}
    {t : NeighborTable}
    (hLocal : t.Local setup index)
    {other : Nat}
    (hOther : other < setup.nodeCount.toNat)
    (hRange : setup.inRange index other = true)
    (metric : Metric) :
    (Connection.noteAnnounced t
      (Simulation.addressOf other) metric).Local setup
        index := by
  rw [Connection.noteAnnounced_eq_upsert]
  refine
    { nodup := nodup_upsert hLocal.nodup _ (fun _ => rfl)
      entries := ?_
      capacity := (capacity_upsert t _ _).trans hLocal.capacity
      lifetime :=
        (lifetime_upsert t _ _).trans hLocal.lifetime }
  intro n hMem
  rcases mem_upsert hMem with
    hOld | rfl | ⟨m, hOld, hAddress, rfl⟩
  · exact hLocal.entries n hOld
  · exact ⟨rfl, other, hOther, hRange, rfl⟩
  · exact hLocal.entries m hOld

/- What was announced is what the table has from then on. -/
theorem heard_noteAnnounced_self
    {t : NeighborTable}
    {a : Address}
    (hRoom : a ∈ t.addresses ∨ t.size < t.capacity)
    (metric : Metric) :
    (Connection.noteAnnounced t a metric).heard a =
      some metric := by
  have hKeep :
      ∀ n : Neighbor,
        (n.announcing metric).address = n.address :=
    fun _ => rfl
  have hFind :=
    find?_upsert_self t (Neighbor.new a metric) hKeep hRoom
  unfold heard
  rw [Connection.noteAnnounced_eq_upsert]
  change ((t.upsert (Neighbor.new a metric) _).find?
    (Neighbor.new a metric).address).map _ = _
  rw [hFind]
  cases t.find? (Neighbor.new a metric).address <;> rfl

theorem heard_noteAnnounced_of_ne
    (t : NeighborTable)
    {a b : Address}
    (hOther : b ≠ a)
    (metric : Metric) :
    (Connection.noteAnnounced t a metric).heard b =
      t.heard b := by
  have hKeep :
      ∀ n : Neighbor,
        (n.announcing metric).address = n.address :=
    fun _ => rfl
  unfold heard
  rw [Connection.noteAnnounced_eq_upsert,
    find?_upsert_of_ne t hKeep
      (show b ≠ (Neighbor.new a metric).address from hOther)]

/- An entry that is changed has just been heard. -/
theorem mem_noteAnnounced
    {t : NeighborTable}
    {a : Address}
    {metric : Metric}
    (hNodup : t.addresses.Nodup)
    {n : Neighbor}
    (hMem :
      n ∈ (Connection.noteAnnounced t a metric).entries) :
    (n ∈ t.entries ∧ n.address ≠ a) ∨
      n.age = Duration.zero := by
  have hKeep :
      ∀ n : Neighbor,
        (n.announcing metric).address = n.address :=
    fun _ => rfl
  have hUnique :=
    nodup_upsert hNodup (Neighbor.new a metric) hKeep
  rw [Connection.noteAnnounced_eq_upsert] at hMem
  rcases mem_upsert hMem with
    hOld | rfl | ⟨m, hOld, hAddress, rfl⟩
  · by_cases hSame : n.address = a
    · apply Or.inr
      have hKnown : a ∈ t.addresses :=
        List.mem_map.mpr ⟨n, hOld, hSame⟩
      have hFind := find?_of_mem hUnique hMem
      rw [hSame] at hFind
      have hChanged :=
        find?_upsert_self t (Neighbor.new a metric) hKeep
          (Or.inl hKnown)
      have hEq :=
        Option.some.inj (hFind.symm.trans hChanged)
      rw [hEq]
      cases t.find? (Neighbor.new a metric).address <;> rfl
    · exact Or.inl ⟨hOld, hSame⟩
  · exact Or.inr rfl
  · exact Or.inr rfl

/- Nothing is dropped before its lifetime is over. -/
theorem Local.tick
    {setup : Setup}
    {index : Nat}
    {t : NeighborTable}
    (hLocal : t.Local setup index)
    {time : Duration}
    (hFresh :
      ∀ n ∈ t.entries,
        (n.aged time).isStale t.lifetime = false) :
    (t.tick time).2.Local setup index := by
  rw [tick_of_fresh hFresh]
  refine
    { nodup := ?_
      entries := ?_
      capacity := hLocal.capacity
      lifetime := hLocal.lifetime }
  · unfold addresses
    rw [List.map_map]
    exact hLocal.nodup
  · intro n hMem
    rcases List.mem_map.mp hMem with ⟨m, hOld, rfl⟩
    exact hLocal.entries m hOld

theorem heard_tick
    {t : NeighborTable}
    {time : Duration}
    (hFresh :
      ∀ n ∈ t.entries,
        (n.aged time).isStale t.lifetime = false)
    (a : Address) :
    (t.tick time).2.heard a = t.heard a := by
  rw [tick_of_fresh hFresh]
  unfold heard find?
  rw [List.find?_map, Option.map_map]
  rfl

end NeighborTable

------------------------------------------------------------
-- What Waits in the Queues
------------------------------------------------------------

/- Whether an event is the passing of time. -/
def Event.isTick : Event → Bool
  | .elapsed _ => true
  | _ => false

namespace Simulation

/- The metric of a sender that an event tells a listener. -/
def newsOf
    (listener : Nat)
    (sender : Address) :
    Nat × Event → Option Metric
  | (index, .announced a metric) =>
      if index = listener ∧ a = sender then
        some metric
      else
        none
  | _ => none

/- The metric that a sender is about to announce. -/
def pledgeOf
    (sender : Nat) :
    Request → Option Metric
  | .announce index metric =>
      if index = sender then some metric else none
  | _ => none

theorem newsOf_eq_some_iff
    {listener : Nat}
    {sender : Address}
    {event : Nat × Event}
    {metric : Metric} :
    newsOf listener sender event = some metric ↔
      event = (listener, .announced sender metric) := by
  obtain ⟨index, event⟩ := event
  cases event with
  | announced a m =>
      simp only [newsOf, Option.ite_none_right_eq_some,
        Option.some.injEq, Prod.mk.injEq,
        Event.announced.injEq]
      constructor
      · rintro ⟨⟨rfl, rfl⟩, rfl⟩
        exact ⟨rfl, rfl, rfl⟩
      · rintro ⟨rfl, rfl, rfl⟩
        exact ⟨⟨rfl, rfl⟩, rfl⟩
  | _ => simp [newsOf]

variable {γ : Type}

/- How many times a node is yet to be told that time passed. -/
def ticksFor
    (s : Simulation γ)
    (index : Nat) : Nat :=
  s.events.toList.countP
    (fun event => event.2.isTick && event.1 == index)

/- What is not about time does not change the time. -/
theorem ticksFor_append
    {s t : Simulation γ}
    {more : List (Nat × Event)}
    (hEvents : t.events.toList = s.events.toList ++ more)
    (hNone : ∀ event ∈ more, event.2.isTick = false)
    (index : Nat) :
    t.ticksFor index = s.ticksFor index := by
  have hZero :
      more.countP (fun event =>
        event.2.isTick && event.1 == index) = 0 := by
    rw [List.countP_eq_zero]
    intro event hMem
    rw [hNone event hMem]
    exact Bool.false_ne_true
  unfold ticksFor
  rw [hEvents, List.countP_append, hZero, Nat.add_zero]

/- The last that a listener is to be told of a sender. -/
def lastNews
    (s : Simulation γ)
    (listener sender : Nat) : Option Metric :=
  (s.events.toList.filterMap
    (newsOf listener (addressOf sender))).getLast?

/- The last that a sender is to announce. -/
def lastPledge
    (s : Simulation γ)
    (sender : Nat) : Option Metric :=
  (s.outbox.toList.filterMap (pledgeOf sender)).getLast?

/-
  The metric that a listener, with a table, will hold for a
  sender once the queues are empty.
-/
def belief
    (s : Simulation γ)
    (listener : Nat)
    (t : NeighborTable)
    (sender : Nat) : Option Metric :=
  (s.lastPledge sender).or
    ((s.lastNews listener sender).or
      (t.heard (addressOf sender)))

theorem lastPledge_of_pop
    {s t : Simulation γ}
    {request : Request}
    (hOutbox :
      s.outbox.toList = request :: t.outbox.toList)
    (sender : Nat) :
    s.lastPledge sender =
      (t.lastPledge sender).or (pledgeOf sender request) := by
  unfold lastPledge
  rw [hOutbox, List.filterMap_cons]
  cases pledgeOf sender request with
  | none => simp
  | some metric =>
      rw [List.getLast?_cons]
      cases (t.outbox.toList.filterMap
        (pledgeOf sender)).getLast? <;> rfl

/- All elements of a list are the last one. -/
theorem getLast?_of_forall_eq
    {α : Type}
    {xs : List α}
    {x : α}
    (hMem : x ∈ xs)
    (hAll : ∀ y ∈ xs, y = x) :
    xs.getLast? = some x := by
  cases hLast : xs.getLast? with
  | none =>
      rw [List.getLast?_eq_none_iff] at hLast
      rw [hLast] at hMem
      contradiction
  | some y =>
      rw [hAll y (List.mem_of_getLast? hLast)]

theorem lastNews_append
    {s t : Simulation γ}
    {more : List (Nat × Event)}
    (hEvents : t.events.toList = s.events.toList ++ more)
    (listener sender : Nat) :
    t.lastNews listener sender =
      ((more.filterMap
          (newsOf listener (addressOf sender))).getLast?).or
        (s.lastNews listener sender) := by
  unfold lastNews
  rw [hEvents, List.filterMap_append, List.getLast?_append]

/- News are believed, or what is believed stays. -/
theorem belief_of_news
    {s t : Simulation γ}
    {sender : Nat}
    (hPledge : t.lastPledge sender = s.lastPledge sender)
    {more : List (Nat × Event)}
    (hEvents : t.events.toList = s.events.toList ++ more)
    (listener : Nat)
    (table : NeighborTable) :
    t.belief listener table sender =
        s.belief listener table sender ∨
      ∃ metric,
        (listener, .announced (addressOf sender) metric) ∈
            more ∧
          t.belief listener table sender = some metric := by
  unfold belief
  rw [hPledge, lastNews_append hEvents]
  cases hLast :
    (more.filterMap
      (newsOf listener (addressOf sender))).getLast? with
  | none => exact Or.inl rfl
  | some metric =>
      cases s.lastPledge sender with
      | some pledge => exact Or.inl rfl
      | none =>
          have hMem := List.mem_of_getLast? hLast
          rcases List.mem_filterMap.mp hMem with
            ⟨event, hEvent, hNews⟩
          rw [newsOf_eq_some_iff] at hNews
          exact Or.inr ⟨metric, hNews ▸ hEvent, rfl⟩

/- News that are true do not change what will be believed. -/
theorem belief_of_true_news
    {s t : Simulation γ}
    {listener sender : Nat}
    {table : NeighborTable}
    {metric : Metric}
    (hBelief :
      s.belief listener table sender = some metric)
    (hPledge : t.lastPledge sender = s.lastPledge sender)
    {more : List (Nat × Event)}
    (hEvents : t.events.toList = s.events.toList ++ more)
    (hTrue :
      ∀ m,
        (listener, .announced (addressOf sender) m) ∈ more →
          m = metric) :
    t.belief listener table sender = some metric := by
  rcases belief_of_news hPledge hEvents listener table with
    hSame | ⟨m, hMem, hNew⟩
  · exact hSame.trans hBelief
  · rw [hNew, hTrue m hMem]

------------------------------------------------------------
-- Gossip
------------------------------------------------------------

/-
  Only metrics and the passing of time are on the way, what
  tables hold is local and not too old, and what listeners
  will believe of senders is right.
-/
structure Gossip
    [LossSource γ]
    (setup : Setup)
    (s : Simulation γ) : Prop where
  sound : s.Sound
  setup_eq : s.setup = setup
  size : s.nodes.size = setup.nodeCount.toNat
  lossless : Losses.Lossless s.losses
  requests :
    ∀ request ∈ s.outbox.toList, request.isUnicast = false
  events :
    ∀ event ∈ s.events.toList,
      event.2 = .elapsed setup.stepTime ∨
        ∃ sender metric, sender < setup.nodeCount.toNat ∧
          setup.inRange event.1 sender = true ∧
          event.2 = .announced (addressOf sender) metric
  order :
    s.events.toList.Pairwise (fun first later =>
      later.2.isTick = true → first.2.isTick = true)
  tables :
    ∀ (index : Nat) (node : Node),
      s.nodes[index]? = some node →
        node.connection.neighbors.Local setup index
  ages :
    ∀ (index : Nat) (node : Node),
      s.nodes[index]? = some node →
        ∀ n ∈ node.connection.neighbors.entries,
          n.age.nanos +
              s.ticksFor index * setup.stepTime.nanos ≤
            ((s.steps - 1) % setup.beaconInterval.toNat +
              1) * setup.stepTime.nanos
  beliefs :
    ∀ (listener sender : Nat) (node other : Node),
      s.nodes[listener]? = some node →
        s.nodes[sender]? = some other →
        setup.inRange listener sender = true →
          s.belief listener node.connection.neighbors
              sender =
            some other.connection.metric

/-
  Entries were heard since the last beacons, as far as time
  has passed at the node, or are about to be heard.
-/
def Refreshed
    (setup : Setup)
    (s : Simulation γ) : Prop :=
  ∀ (index : Nat) (node : Node),
    s.nodes[index]? = some node →
      ∀ n ∈ node.connection.neighbors.entries,
        n.age.nanos +
              s.ticksFor index * setup.stepTime.nanos ≤
            (s.steps % setup.beaconInterval.toNat) *
              setup.stepTime.nanos ∨
          ∃ metric,
            (index, .announced n.address metric) ∈
              s.events.toList

------------------------------------------------------------
-- News
------------------------------------------------------------

section News

variable [LossSource γ]

/- News of senders in range, for listeners that exist. -/
def AreNews
    (setup : Setup)
    (more : List (Nat × Event)) : Prop :=
  ∀ event ∈ more,
    event.1 < setup.nodeCount.toNat ∧
      ∃ sender metric, sender < setup.nodeCount.toNat ∧
        setup.inRange event.1 sender = true ∧
        event.2 = .announced (addressOf sender) metric

omit [LossSource γ] in
theorem AreNews.ticksFor_eq
    {setup : Setup}
    {s t : Simulation γ}
    {more : List (Nat × Event)}
    (hNews : AreNews setup more)
    (hEvents : t.events.toList = s.events.toList ++ more)
    (index : Nat) :
    t.ticksFor index = s.ticksFor index := by
  refine ticksFor_append hEvents ?_ index
  intro event hMem
  rcases (hNews event hMem).2 with ⟨_, _, _, _, hEvent⟩
  rw [hEvent]
  rfl

/- What it takes for news to be no more than gossip. -/
theorem Gossip.of_news
    {setup : Setup}
    {s t : Simulation γ}
    (hGossip : s.Gossip setup)
    (hSetup : t.setup = s.setup)
    (hNodes : t.nodes = s.nodes)
    (hSteps : t.steps = s.steps)
    (hLossless : Losses.Lossless t.losses)
    (hRequests :
      ∀ request ∈ t.outbox.toList,
        request ∈ s.outbox.toList)
    {more : List (Nat × Event)}
    (hNews : AreNews setup more)
    (hEvents : t.events.toList = s.events.toList ++ more)
    (hBeliefs :
      ∀ (listener sender : Nat) (node other : Node),
        s.nodes[listener]? = some node →
          s.nodes[sender]? = some other →
          setup.inRange listener sender = true →
            t.belief listener node.connection.neighbors
                sender =
              some other.connection.metric) :
    t.Gossip setup := by
  have hTicks := hNews.ticksFor_eq hEvents
  refine
    { sound := ?_
      setup_eq := hSetup.trans hGossip.setup_eq
      size := by rw [hNodes]; exact hGossip.size
      lossless := hLossless
      requests := fun request hMem =>
        hGossip.requests request (hRequests request hMem)
      events := ?_
      order := ?_
      tables := by rw [hNodes]; exact hGossip.tables
      ages := ?_
      beliefs := by rw [hNodes]; exact hBeliefs }
  · apply hGossip.sound.of_nodes_eq hNodes hRequests hEvents
    intro event hMem
    rw [hGossip.size]
    exact (hNews event hMem).1
  · intro event hMem
    rw [hEvents, List.mem_append] at hMem
    rcases hMem with hOld | hNew
    · exact hGossip.events event hOld
    · exact Or.inr (hNews event hNew).2
  · rw [hEvents, List.pairwise_append]
    have hNoTick :
        ∀ event ∈ more, event.2.isTick = false := by
      intro event hMem
      rcases (hNews event hMem).2 with ⟨_, _, _, _, hEvent⟩
      rw [hEvent]
      rfl
    refine ⟨hGossip.order, ?_, ?_⟩
    · apply List.pairwise_of_forall_mem_list
      intro first _ later hLater hTick
      rw [hNoTick later hLater] at hTick
      contradiction
    · intro first _ later hLater hTick
      rw [hNoTick later hLater] at hTick
      contradiction
  · intro index node hNode n hMem
    rw [hNodes] at hNode
    rw [hTicks, hSteps]
    exact hGossip.ages index node hNode n hMem

omit [LossSource γ] in
theorem Refreshed.of_news
    {setup : Setup}
    {s t : Simulation γ}
    (hRefreshed : s.Refreshed setup)
    (hNodes : t.nodes = s.nodes)
    (hSteps : t.steps = s.steps)
    {more : List (Nat × Event)}
    (hNews : AreNews setup more)
    (hEvents : t.events.toList = s.events.toList ++ more) :
    t.Refreshed setup := by
  have hTicks := hNews.ticksFor_eq hEvents
  intro index node hNode n hMem
  rw [hNodes] at hNode
  rw [hTicks, hSteps]
  rcases hRefreshed index node hNode n hMem with
    hYoung | ⟨metric, hSoon⟩
  · exact Or.inl hYoung
  · refine Or.inr ⟨metric, ?_⟩
    rw [hEvents, List.mem_append]
    exact Or.inl hSoon

/- The news of a broadcast. -/
def broadcastNews
    (s : Simulation γ)
    (sender : Nat)
    (metric : Metric) : List (Nat × Event) :=
  (s.hearers sender).map (fun index =>
    (index, .announced (addressOf sender) metric))

theorem mem_hearers_iff
    {setup : Setup}
    {s : Simulation γ}
    (hGossip : s.Gossip setup)
    (sender index : Nat) :
    index ∈ s.hearers sender ↔
      index < setup.nodeCount.toNat ∧
        setup.inRange index sender = true := by
  rw [mem_hearers, hGossip.size, hGossip.setup_eq]

/- Without losses, a broadcast reaches everyone in range. -/
theorem broadcast_of_lossless
    {s : Simulation γ}
    (hLossless : Losses.Lossless s.losses)
    (sender : Nat)
    (metric : Metric) :
    (s.broadcast sender metric).events.toList =
        s.events.toList ++ s.broadcastNews sender metric ∧
      Losses.Lossless (s.broadcast sender metric).losses := by
  obtain ⟨hAll, hRest⟩ :=
    hLossless.survivors (s.hearers sender)
  refine ⟨?_, hRest⟩
  unfold broadcast broadcastNews
  simp only [Queue.toList_pushAll, hAll]

theorem areNews_broadcast
    {setup : Setup}
    {s : Simulation γ}
    (hGossip : s.Gossip setup)
    {sender : Nat}
    (hSender : sender < setup.nodeCount.toNat)
    (metric : Metric) :
    AreNews setup (s.broadcastNews sender metric) := by
  intro event hMem
  rcases List.mem_map.mp hMem with ⟨index, hHeard, rfl⟩
  obtain ⟨hIndex, hRange⟩ :=
    (mem_hearers_iff hGossip sender index).mp hHeard
  exact ⟨hIndex, sender, metric, hSender, hRange, rfl⟩

omit [LossSource γ] in
/- What is in a broadcast comes from its sender. -/
theorem eq_of_mem_broadcast
    {s : Simulation γ}
    {sender other : Nat}
    (hSender : sender < 255)
    (hOther : other < 255)
    {listener : Nat}
    {metric m : Metric}
    (hMem :
      (listener, .announced (addressOf other) m) ∈
        s.broadcastNews sender metric) :
    other = sender ∧ m = metric := by
  rcases List.mem_map.mp hMem with ⟨index, -, hEq⟩
  simp only [Prod.mk.injEq, Event.announced.injEq] at hEq
  obtain ⟨-, hAddress, hMetric⟩ := hEq
  exact
    ⟨addressOf_inj hOther hSender hAddress.symm,
      hMetric.symm⟩

theorem Gossip.lt_of_node
    {setup : Setup}
    {s : Simulation γ}
    (hGossip : s.Gossip setup)
    {index : Nat}
    {node : Node}
    (hNode : s.nodes[index]? = some node) :
    index < setup.nodeCount.toNat := by
  rw [← hGossip.size]
  exact (Array.getElem?_eq_some_iff.mp hNode).1

omit [LossSource γ] in
/- The metric that a node announces is its own. -/
theorem announced?_eq_some_iff
    {s : Simulation γ}
    (hSound : s.Sound)
    {index : Nat}
    {metric : Metric} :
    s.announced? index = some metric ↔
      ∃ node, s.nodes[index]? = some node ∧
        node.connection.metric = metric := by
  unfold announced?
  cases hNode : s.nodes[index]? with
  | none => simp
  | some node =>
      have hAnnounced :=
        (hSound.ready index node hNode).announced
      simp [hAnnounced]

------------------------------------------------------------
-- Beacons
------------------------------------------------------------

/- A beacon is news, and whoever is in range gets it. -/
theorem beacon_cases
    {setup : Setup}
    {s : Simulation γ}
    (hGossip : s.Gossip setup)
    (index : Nat) :
    (s.nodes[index]? = none ∧ s.beacon index = s) ∨
      ∃ node, s.nodes[index]? = some node ∧
        s.beacon index =
          s.broadcast index node.connection.metric := by
  unfold beacon
  cases hMetric : s.announced? index with
  | some metric =>
      rcases (announced?_eq_some_iff hGossip.sound).mp
        hMetric with ⟨node, hNode, rfl⟩
      exact Or.inr ⟨node, hNode, rfl⟩
  | none =>
      refine Or.inl ⟨?_, rfl⟩
      cases hNode : s.nodes[index]? with
      | none => rfl
      | some node =>
          have hSome :=
            (announced?_eq_some_iff hGossip.sound).mpr
              ⟨node, hNode, rfl⟩
          rw [hMetric] at hSome
          contradiction

theorem Gossip.broadcast
    {setup : Setup}
    (hLasting : setup.Lasting)
    {s : Simulation γ}
    (hGossip : s.Gossip setup)
    {index : Nat}
    {node : Node}
    (hNode : s.nodes[index]? = some node) :
    (s.broadcast index
      node.connection.metric).Gossip setup := by
  have hIndex := hGossip.lt_of_node hNode
  obtain ⟨hEvents, hLossless⟩ :=
    broadcast_of_lossless hGossip.lossless index
      node.connection.metric
  refine hGossip.of_news rfl rfl rfl hLossless
    (fun request hMem => hMem)
    (areNews_broadcast hGossip hIndex _) hEvents ?_
  intro listener sender own other hOwn hOther hRange
  refine belief_of_true_news
    (hGossip.beliefs listener sender own other hOwn hOther
      hRange)
    rfl hEvents ?_
  intro m hMem
  have hSender := hGossip.lt_of_node hOther
  have hAddresses := hLasting.addresses
  obtain ⟨hSame, hMetric⟩ :=
    eq_of_mem_broadcast (by omega) (by omega) hMem
  subst hSame
  rw [hMetric, Option.some.inj (hOther.symm.trans hNode)]

theorem Gossip.beacon
    {setup : Setup}
    (hLasting : setup.Lasting)
    {s : Simulation γ}
    (hGossip : s.Gossip setup)
    (index : Nat) :
    (s.beacon index).Gossip setup := by
  rcases beacon_cases hGossip index with
    ⟨-, hSame⟩ | ⟨node, hNode, hBroadcast⟩
  · rw [hSame]
    exact hGossip
  · rw [hBroadcast]
    exact hGossip.broadcast hLasting hNode

------------------------------------------------------------
-- Requests
------------------------------------------------------------

omit [LossSource γ] in
/- What was about to be announced is on its way. -/
theorem belief_of_announced
    {s t : Simulation γ}
    {sender : Nat}
    {metric : Metric}
    (hSender : sender < 255)
    (hOutbox :
      s.outbox.toList =
        .announce sender metric :: t.outbox.toList)
    (hEvents :
      t.events.toList =
        s.events.toList ++ s.broadcastNews sender metric)
    {listener other : Nat}
    (hOther : other < 255)
    (hHeard : listener ∈ s.hearers other)
    (table : NeighborTable) :
    t.belief listener table other =
      s.belief listener table other := by
  by_cases hSame : other = sender
  · subst hSame
    have hPledge :
        pledgeOf other (.announce other metric) =
          some metric :=
      if_pos rfl
    have hNews :
        t.lastNews listener other = some metric := by
      rw [lastNews_append hEvents]
      have hLast :
          ((s.broadcastNews other metric).filterMap
              (newsOf listener
                (addressOf other))).getLast? =
            some metric := by
        refine getLast?_of_forall_eq ?_ ?_
        · refine List.mem_filterMap.mpr
            ⟨_, List.mem_map_of_mem hHeard, ?_⟩
          rw [newsOf_eq_some_iff]
        · intro other' hMem
          rcases List.mem_filterMap.mp hMem with
            ⟨event, hEvent, hNews⟩
          rw [newsOf_eq_some_iff] at hNews
          exact
            (eq_of_mem_broadcast hOther hOther
              (hNews ▸ hEvent)).2
      rw [hLast]
      rfl
    unfold belief
    rw [lastPledge_of_pop hOutbox, hPledge, Option.or_assoc,
      Option.some_or, hNews, Option.some_or]
  · have hPledge :
        t.lastPledge other = s.lastPledge other := by
      have hNone :
          pledgeOf other (.announce sender metric) = none :=
        if_neg (Ne.symm hSame)
      rw [lastPledge_of_pop hOutbox, hNone, Option.or_none]
    rcases belief_of_news hPledge hEvents listener table with
      hKept | ⟨m, hMem, -⟩
    · exact hKept
    · exact absurd
        (eq_of_mem_broadcast hSender hOther hMem).1 hSame

theorem Gossip.announced
    {setup : Setup}
    (hLasting : setup.Lasting)
    {s : Simulation γ}
    (hGossip : s.Gossip setup)
    {outbox : Queue Request}
    {sender : Nat}
    {metric : Metric}
    (hOutbox :
      s.outbox.toList =
        .announce sender metric :: outbox.toList) :
    (({ s with outbox := outbox } :
      Simulation γ).broadcast sender metric).Gossip
        setup := by
  have hSender : sender < setup.nodeCount.toNat := by
    rw [← hGossip.size]
    exact hGossip.sound.requests (.announce sender metric)
      (by simp [hOutbox])
  have hAddresses := hLasting.addresses
  obtain ⟨hEvents, hLossless⟩ :=
    broadcast_of_lossless
      (s := { s with outbox := outbox })
      hGossip.lossless sender metric
  refine hGossip.of_news rfl rfl rfl hLossless
    (fun request hMem => ?_)
    (areNews_broadcast hGossip hSender metric) hEvents ?_
  · rw [hOutbox]
    exact List.mem_cons_of_mem _ hMem
  · intro listener other own node hOwn hNode hRange
    have hOther := hGossip.lt_of_node hNode
    have hHeard : listener ∈ s.hearers other :=
      (mem_hearers_iff hGossip other listener).mpr
        ⟨hGossip.lt_of_node hOwn, hRange⟩
    apply Eq.trans
      (belief_of_announced (s := s) (by omega) hOutbox
        hEvents (by omega) hHeard _)
    exact hGossip.beliefs listener other own node hOwn hNode
      hRange

/- The news that a node gets when it listens. -/
def listenNews
    (s : Simulation γ)
    (listener bursts : Nat) : List (Nat × Event) :=
  ((List.replicate bursts (s.audible listener)).flatten).map
    (fun beacon =>
      (listener, .announced (addressOf beacon.1) beacon.2))

/- What a listener hears is what its neighbors announce. -/
theorem mem_listenNews
    {setup : Setup}
    {s : Simulation γ}
    (hGossip : s.Gossip setup)
    {listener bursts : Nat}
    {event : Nat × Event}
    (hMem : event ∈ s.listenNews listener bursts) :
    ∃ sender node, s.nodes[sender]? = some node ∧
      setup.inRange listener sender = true ∧
      event =
        (listener,
          .announced (addressOf sender)
            node.connection.metric) := by
  rcases List.mem_map.mp hMem with
    ⟨⟨sender, metric⟩, hBeacon, rfl⟩
  rcases List.mem_flatten.mp hBeacon with
    ⟨burst, hBurst, hHeard⟩
  rw [List.eq_of_mem_replicate hBurst] at hHeard
  rcases List.mem_filterMap.mp hHeard with
    ⟨index, hHearer, hMetric⟩
  rcases Option.map_eq_some_iff.mp hMetric with
    ⟨m, hAnnounced, hEq⟩
  simp only [Prod.mk.injEq] at hEq
  obtain ⟨rfl, rfl⟩ := hEq
  rcases (announced?_eq_some_iff hGossip.sound).mp
    hAnnounced with ⟨node, hNode, rfl⟩
  have hRange :=
    ((mem_hearers_iff hGossip listener index).mp hHearer).2
  rw [setup.inRange_comm] at hRange
  exact ⟨index, node, hNode, hRange, rfl⟩

theorem Gossip.listened
    {setup : Setup}
    (hLasting : setup.Lasting)
    {s : Simulation γ}
    (hGossip : s.Gossip setup)
    {outbox : Queue Request}
    {listener : Nat}
    {bursts : UInt8}
    (hOutbox :
      s.outbox.toList =
        .listen listener bursts :: outbox.toList) :
    (({ s with outbox := outbox } :
      Simulation γ).serveListen listener
        bursts.toNat).Gossip setup ∧
      AreNews setup (s.listenNews listener bursts.toNat) ∧
      (({ s with outbox := outbox } :
        Simulation γ).serveListen listener
          bursts.toNat).events.toList =
        s.events.toList ++
          s.listenNews listener bursts.toNat := by
  have hAddresses := hLasting.addresses
  have hListener : listener < setup.nodeCount.toNat := by
    rw [← hGossip.size]
    exact hGossip.sound.requests (.listen listener bursts)
      (by simp [hOutbox])
  have hNews :
      AreNews setup (s.listenNews listener bursts.toNat) := by
    intro event hMem
    rcases mem_listenNews hGossip hMem with
      ⟨sender, node, hNode, hRange, rfl⟩
    exact
      ⟨hListener, sender, _, hGossip.lt_of_node hNode,
        hRange, rfl⟩
  obtain ⟨hAll, hLossless⟩ :=
    hGossip.lossless.survivors
      (List.replicate bursts.toNat
        (s.audible listener)).flatten
  have hEvents :
      (({ s with outbox := outbox } :
        Simulation γ).serveListen listener
          bursts.toNat).events.toList =
        s.events.toList ++
          s.listenNews listener bursts.toNat := by
    apply (Queue.toList_pushAll _ _).trans
    exact
      congrArg
        (fun beacons : List (Nat × Metric) =>
          s.events.toList ++ beacons.map (fun beacon =>
            (listener,
              .announced (addressOf beacon.1) beacon.2)))
        hAll
  refine ⟨?_, hNews, hEvents⟩
  refine hGossip.of_news rfl rfl rfl hLossless
    (fun request hMem => ?_) hNews hEvents ?_
  · rw [hOutbox]
    exact List.mem_cons_of_mem _ hMem
  · intro own other node changed hOwn hOther hRange
    refine belief_of_true_news
      (hGossip.beliefs own other node changed hOwn hOther
        hRange) ?_ hEvents ?_
    · unfold lastPledge
      rw [hOutbox, List.filterMap_cons]
      rfl
    · intro m hMem
      rcases mem_listenNews hGossip hMem with
        ⟨sender, speaker, hSpeaker, -, hEq⟩
      simp only [Prod.mk.injEq,
        Event.announced.injEq] at hEq
      obtain ⟨-, hAddress, rfl⟩ := hEq
      have hFirst := hGossip.lt_of_node hOther
      have hSecond := hGossip.lt_of_node hSpeaker
      have hSame :=
        addressOf_inj (by omega) (by omega) hAddress
      subst hSame
      rw [Option.some.inj (hOther.symm.trans hSpeaker)]

end News

end Simulation

end CollectionTree
