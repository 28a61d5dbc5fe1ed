import CollectionTree.Proofs.Simulation.GossipRuns
import CollectionTree.Proofs.Simulation.Vicinity

/-
  What nodes believe of each other when nothing is lost.

  Key definitions include:
    * `Simulation.Rumors`

  Key theorems include:
    * `Connection.heard_neighborsAfter`
    * `Simulation.Rumors.dispatched`
    * `Simulation.Rumors.next`
    * `Simulation.rumors_of_reaches`

  With packets on the air, tables may be full, entries may
  be dropped, and a node that is not in a table gets back
  into it without a route by an acknowledgement.  So what a
  listener will believe of a sender need not be right.  But
  when it is wrong it is that the sender has no route.
-/

namespace CollectionTree

------------------------------------------------------------
-- Metrics in Tables
------------------------------------------------------------

namespace NeighborTable

/-
  The address that is changed or added has the metric of the
  newcomer, or that of its entry after the change.
-/
theorem heard_upsert_self
    {t : NeighborTable}
    {newcomer : Neighbor}
    {change : Neighbor → Neighbor}
    (hKeep : ∀ n, (change n).address = n.address)
    {a : Address}
    (hAddress : newcomer.address = a)
    {m : Metric}
    (hHeard :
      (t.upsert newcomer change).heard a = some m) :
    m = newcomer.metric ∨
      ∃ n, t.find? a = some n ∧ m = (change n).metric := by
  subst hAddress
  unfold heard at hHeard
  rcases Option.map_eq_some_iff.mp hHeard with
    ⟨n, hFind, rfl⟩
  by_cases hRoom :
    newcomer.address ∈ t.addresses ∨ t.size < t.capacity
  · rw [find?_upsert_self t newcomer hKeep hRoom,
      Option.some.injEq] at hFind
    subst hFind
    cases t.find? newcomer.address with
    | none => exact Or.inl rfl
    | some old => exact Or.inr ⟨old, rfl, rfl⟩
  · -- A full table does not get to know the newcomer.
    rw [not_or, Nat.not_lt] at hRoom
    obtain ⟨hAbsent, hFull⟩ := hRoom
    rcases upsert_cases t newcomer change with
      ⟨hKnown, -⟩ | ⟨-, -, hSame⟩ | ⟨-, hLess, -⟩
    · exact absurd hKnown hAbsent
    · rw [hSame, find?_eq_none_of_not_mem hAbsent] at hFind
      contradiction
    · exact absurd hLess (Nat.not_lt.mpr hFull)

/- What a table has for a sender is what it announced. -/
theorem eq_of_heard_noteAnnounced
    {t : NeighborTable}
    {sender : Address}
    {metric m : Metric}
    (hHeard :
      (Connection.noteAnnounced t sender metric).heard
          sender =
        some m) :
    m = metric := by
  have hKeep :
      ∀ n : Neighbor,
        (n.announcing metric).address = n.address :=
    fun _ => rfl
  rw [Connection.noteAnnounced_eq_upsert] at hHeard
  rcases heard_upsert_self hKeep rfl hHeard with
    hNew | ⟨n, -, hChanged⟩
  · exact hNew
  · exact hChanged

/- An acknowledgement tells of no route. -/
theorem heard_of_noteAcknowledged
    {t : NeighborTable}
    {receiver a : Address}
    {transmissions : UInt8}
    {m : Metric}
    (hHeard :
      (Connection.noteAcknowledged t receiver
        transmissions).heard a = some m) :
    m = Metric.unreachable ∨ t.heard a = some m := by
  have hKeep :
      ∀ n : Neighbor,
        (n.acknowledging transmissions).address =
          n.address :=
    fun _ => rfl
  rw [Connection.noteAcknowledged_eq_upsert] at hHeard
  by_cases hSame : receiver = a
  · rcases heard_upsert_self hKeep hSame hHeard with
      hVoid | ⟨n, hFind, rfl⟩
    · exact Or.inl hVoid
    · exact Or.inr (congrArg (Option.map _) hFind)
  · apply Or.inr
    unfold heard at hHeard ⊢
    rw [find?_upsert_of_ne t hKeep (Ne.symm hSame)] at hHeard
    exact hHeard

/- Time makes no metrics, though it may take some. -/
theorem heard_of_tick
    {t : NeighborTable}
    (hNodup : t.addresses.Nodup)
    {time : Duration}
    {a : Address}
    {m : Metric}
    (hHeard : (t.tick time).2.heard a = some m) :
    t.heard a = some m := by
  unfold heard at hHeard ⊢
  rcases Option.map_eq_some_iff.mp hHeard with
    ⟨n, hFind, rfl⟩
  rcases mem_of_find? hFind with ⟨hMem, rfl⟩
  rcases mem_tick hMem with ⟨old, hOld, rfl⟩
  have hFound := find?_of_mem hNodup hOld
  exact Option.map_eq_some_iff.mpr ⟨old, hFound, rfl⟩

/- A packet that is lost leaves the metrics as they are. -/
theorem heard_recordFailure
    (t : NeighborTable)
    (receiver a : Address)
    (transmissions : UInt8) :
    (t.recordFailure receiver transmissions).2.heard a =
      t.heard a := by
  have hKeep :
      ∀ n : Neighbor,
        (n.failing transmissions).address = n.address :=
    fun _ => rfl
  have hFind := find?_modifyEntry receiver a hKeep t.entries
  unfold heard find?
  refine (congrArg (Option.map Neighbor.metric) hFind).trans
    ?_
  split
  · rw [Option.map_map]
    rfl
  · rfl

end NeighborTable

/-
  After an event, a metric in the table is void, or it is
  what the event announces, or it was there before and the
  event announces nothing else.
-/
theorem Connection.heard_neighborsAfter
    {c : Connection}
    {event : Event}
    (hNodup : c.neighbors.addresses.Nodup)
    {a : Address}
    (hOther : a ≠ c.address)
    {m : Metric}
    (hHeard : (c.neighborsAfter event).heard a = some m) :
    m = Metric.unreachable ∨ event = .announced a m ∨
      (c.neighbors.heard a = some m ∧
        ∀ metric, event ≠ .announced a metric) := by
  cases event with
  | received sender packet =>
      exact Or.inr (Or.inr ⟨hHeard, fun _ => by simp⟩)
  | sent receiver outcome transmissions =>
      unfold neighborsAfter at hHeard
      simp only at hHeard
      split at hHeard
      · rcases NeighborTable.heard_of_noteAcknowledged
          hHeard with hVoid | hKept
        · exact Or.inl hVoid
        · exact Or.inr (Or.inr ⟨hKept, fun _ => by simp⟩)
      · rw [NeighborTable.heard_recordFailure] at hHeard
        exact Or.inr (Or.inr ⟨hHeard, fun _ => by simp⟩)
  | announced sender metric =>
      unfold neighborsAfter at hHeard
      simp only at hHeard
      by_cases hSame : a = sender
      · subst hSame
        rw [if_neg hOther] at hHeard
        rw [NeighborTable.eq_of_heard_noteAnnounced hHeard]
        exact Or.inr (Or.inl rfl)
      · have hSilent :
            ∀ other,
              Event.announced sender metric ≠
                .announced a other := by
          intro other hEq
          exact hSame (Event.announced.inj hEq).1.symm
        refine Or.inr (Or.inr ⟨?_, hSilent⟩)
        split at hHeard
        · exact hHeard
        · rw [NeighborTable.heard_noteAnnounced_of_ne _
            hSame] at hHeard
          exact hHeard
  | elapsed time =>
      exact Or.inr (Or.inr
        ⟨NeighborTable.heard_of_tick hNodup hHeard,
          fun _ => by simp⟩)

namespace Simulation

------------------------------------------------------------
-- Pledges
------------------------------------------------------------

/- A node that changes its metric announces it. -/
theorem pledges_of_handling
    {index : Nat}
    {node next : Node}
    {event : Event}
    {requests : List Request}
    (hHandling :
      node.Handling index event next requests) :
    (next.connection.metric = node.connection.metric ∧
        ∀ request ∈ requests, ∀ sender,
          pledgeOf sender request = none) ∨
      requests =
        [.announce index next.connection.metric] := by
  have hNone :
      ∀ request ∈ ([] : List Request), ∀ sender,
        pledgeOf sender request = none := by
    intro request hMem
    contradiction
  have hSpread :
      ∀ (node : Node) (d : Connection)
        (requests : List Request),
        Node.Rerouted index node d next requests →
          (next.connection.metric = d.metric ∧
              ∀ request ∈ requests, ∀ sender,
                pledgeOf sender request = none) ∨
            requests =
              [.announce index next.connection.metric] := by
    intro node d requests hRerouted
    rcases hRerouted.spread.2 with ⟨rfl, hSame⟩ | hOne
    · exact Or.inl ⟨hSame, hNone⟩
    · exact Or.inr hOne
  cases hHandling with
  | echoed => exact Or.inl ⟨rfl, hNone⟩
  | heard sender metric _ _ _ hRerouted =>
      exact hSpread node (node.connection.informed sender
        metric) _ hRerouted
  | aged time _ _ hRerouted =>
      exact hSpread node (node.connection.aged time) _
        hRerouted
  | concluded receiver outcome transmissions _ _ hRerouted =>
      have hMetric :
          (node.connection.concluded receiver outcome
              transmissions).metric =
            node.connection.metric := by
        unfold Connection.concluded
        split <;> rfl
      rw [← hMetric]
      exact hSpread _ _ _ hRerouted
  | received sender packet outcome hReception =>
      apply Or.inl
      cases hReception with
      | relayed =>
          refine ⟨rfl, ?_⟩
          intro request hMem other
          rw [show (node.carriedOut index _).2 =
            [Request.unicast index _] from rfl,
            List.mem_singleton] at hMem
          rw [hMem]
          rfl
      | refused _ _ _ _ _ _ _ _ failure hAnswer =>
          contradiction
      | _ => exact ⟨rfl, hNone⟩

variable {γ : Type}

/- Other requests do not change what is to be announced. -/
theorem lastPledge_append
    {s t : Simulation γ}
    {requests : List Request}
    (hOutbox :
      t.outbox.toList = s.outbox.toList ++ requests)
    {sender : Nat}
    (hNone :
      ∀ request ∈ requests,
        pledgeOf sender request = none) :
    t.lastPledge sender = s.lastPledge sender := by
  have hEmpty :
      requests.filterMap (pledgeOf sender) = [] :=
    List.filterMap_eq_nil_iff.mpr hNone
  unfold lastPledge
  rw [hOutbox, List.filterMap_append, hEmpty,
    List.append_nil]

------------------------------------------------------------
-- Rumors
------------------------------------------------------------

variable [LossSource γ]

/-
  Nothing is lost, and what a listener will believe of a
  sender is right unless it is that there is no route.
-/
structure Rumors
    (s : Simulation γ) : Prop where
  lossless : Losses.Lossless s.losses
  beliefs :
    ∀ (listener sender : Nat) (node other : Node)
      (m : Metric),
      s.nodes[listener]? = some node →
        s.nodes[sender]? = some other →
        s.setup.inRange listener sender = true →
        s.belief listener node.connection.neighbors sender =
          some m →
            m = Metric.unreachable ∨
              m = other.connection.metric

/- What is true may be told to anyone. -/
theorem Rumors.of_true_news
    {s t : Simulation γ}
    (hRumors : s.Rumors)
    (hSetup : t.setup = s.setup)
    (hNodes : t.nodes = s.nodes)
    (hLossless : Losses.Lossless t.losses)
    (hPledges :
      ∀ sender, t.lastPledge sender = s.lastPledge sender)
    {more : List (Nat × Event)}
    (hEvents : t.events.toList = s.events.toList ++ more)
    (hTrue :
      ∀ (listener sender : Nat) (other : Node) (m : Metric),
        s.nodes[sender]? = some other →
          (listener, .announced (addressOf sender) m) ∈
              more →
            m = other.connection.metric) :
    t.Rumors := by
  refine
    { lossless := hLossless
      beliefs := ?_ }
  intro listener sender node other m hNode hOther hRange
    hBelief
  rw [hNodes] at hNode hOther
  rw [hSetup] at hRange
  rcases belief_of_news (hPledges sender) hEvents listener
    node.connection.neighbors with hSame | ⟨n, hMem, hNew⟩
  · rw [hSame] at hBelief
    exact
      hRumors.beliefs listener sender node other m hNode
        hOther hRange hBelief
  · rw [hNew, Option.some.injEq] at hBelief
    rw [← hBelief]
    exact Or.inr (hTrue listener sender other n hOther hMem)

omit [LossSource γ] in
/- News of what nodes announce are true. -/
theorem true_of_announced
    {s : Simulation γ}
    (hSound : s.Sound)
    (hFew : s.nodes.size ≤ 255)
    {event : Nat × Event}
    {speaker : Nat}
    {metric : Metric}
    (hMetric : s.announced? speaker = some metric)
    (hNews : s.IsNews speaker metric event)
    {listener sender : Nat}
    {other : Node}
    {m : Metric}
    (hOther : s.nodes[sender]? = some other)
    (hEvent :
      event = (listener, .announced (addressOf sender) m)) :
    m = other.connection.metric := by
  have hTells := hNews.tells
  have hSpeaker := hNews.speaking
  have hSender : sender < s.nodes.size :=
    (Array.getElem?_eq_some_iff.mp hOther).1
  rw [hEvent] at hTells
  obtain ⟨hAddress, rfl⟩ := Event.announced.inj hTells
  have hSame :=
    addressOf_inj (by omega) (by omega) hAddress
  subst hSame
  rcases (announced?_eq_some_iff hSound).mp hMetric with
    ⟨node, hNode, rfl⟩
  rw [Option.some.inj (hOther.symm.trans hNode)]

------------------------------------------------------------
-- Requests
------------------------------------------------------------

/- A metric that was about to be announced is on its way. -/
theorem Rumors.announced
    {s : Simulation γ}
    (hRumors : s.Rumors)
    (hSound : s.Sound)
    (hFew : s.nodes.size ≤ 255)
    {outbox : Queue Request}
    {sender : Nat}
    {metric : Metric}
    (hOutbox :
      s.outbox.toList =
        .announce sender metric :: outbox.toList) :
    (({ s with outbox := outbox } :
      Simulation γ).serve (.announce sender metric)).Rumors
        := by
  have hSender : sender < s.nodes.size :=
    hSound.requests (.announce sender metric)
      (by simp [hOutbox])
  obtain ⟨hEvents, hLossless⟩ :=
    broadcast_of_lossless
      (s := { s with outbox := outbox })
      hRumors.lossless sender metric
  refine
    { lossless := hLossless
      beliefs := ?_ }
  intro listener other own node m hOwn hNode hRange hBelief
  have hListener : listener < s.nodes.size :=
    (Array.getElem?_eq_some_iff.mp hOwn).1
  have hOther : other < s.nodes.size :=
    (Array.getElem?_eq_some_iff.mp hNode).1
  have hHeard : listener ∈ s.hearers other :=
    mem_hearers.mpr ⟨hListener, hRange⟩
  have hSame :=
    belief_of_announced (s := s) (by omega) hOutbox hEvents
      (by omega) hHeard own.connection.neighbors
  exact
    hRumors.beliefs listener other own node m hOwn hNode
      hRange (hSame.symm.trans hBelief)

omit [LossSource γ] in
/- What is added about a metric is true. -/
theorem true_of_adds
    {s : Simulation γ}
    (hSound : s.Sound)
    (hFew : s.nodes.size ≤ 255)
    {request : Request}
    (hNone : ∀ sender, pledgeOf sender request = none)
    {listener sender : Nat}
    {other : Node}
    {m : Metric}
    (hOther : s.nodes[sender]? = some other)
    (hAdds :
      s.Adds request
        (listener, .announced (addressOf sender) m)) :
    m = other.connection.metric := by
  cases hAdds with
  | spoken speaker metric =>
      have hPledge := hNone speaker
      simp [pledgeOf] at hPledge
  | heard _ _ _ _ _ hMetric hNews =>
      exact
        true_of_announced hSound hFew hMetric hNews hOther
          rfl

/- A request that is no announcement was served. -/
theorem Rumors.of_served
    {s t : Simulation γ}
    (hRumors : s.Rumors)
    (hSound : s.Sound)
    (hFew : s.nodes.size ≤ 255)
    (hLossless : Losses.Lossless t.losses)
    {request : Request}
    (hNone : ∀ sender, pledgeOf sender request = none)
    (hServed : Served s t request) :
    t.Rumors := by
  have hPledges :
      ∀ sender, t.lastPledge sender = s.lastPledge sender := by
    intro sender
    unfold lastPledge
    rw [hServed.outbox, List.filterMap_cons, hNone]
  obtain ⟨more, hEvents, hAdds⟩ := hServed.events
  refine hRumors.of_true_news hServed.setup hServed.nodes
    hLossless hPledges hEvents ?_
  intro listener sender other m hOther hMem
  exact true_of_adds hSound hFew hNone hOther (hAdds _ hMem)

theorem Rumors.served
    {s : Simulation γ}
    (hRumors : s.Rumors)
    (hSound : s.Sound)
    (hFew : s.nodes.size ≤ 255)
    {request : Request}
    {outbox : Queue Request}
    (hOutbox :
      s.outbox.toList = request :: outbox.toList) :
    (({ s with outbox := outbox } :
      Simulation γ).serve request).Rumors := by
  have hNode : request.node < s.nodes.size := by
    apply hSound.requests request
    rw [hOutbox]
    exact List.mem_cons_self
  have hServed := served_of_outbox hOutbox hNode
  have hLossless :=
    Losses.Lossless.serve (s := { s with outbox := outbox })
      hRumors.lossless request
  cases request with
  | announce sender metric =>
      exact hRumors.announced hSound hFew hOutbox
  | listen listener bursts =>
      exact
        hRumors.of_served hSound hFew hLossless
          (fun _ => rfl) hServed
  | unicast sender handover =>
      exact
        hRumors.of_served hSound hFew hLossless
          (fun _ => rfl) hServed

------------------------------------------------------------
-- Events
------------------------------------------------------------

omit [LossSource γ] in
/-
  What a node will believe after an event is void, or it was
  going to believe it before.
-/
theorem known_before
    {s t : Simulation γ}
    {index : Nat}
    {event : Event}
    {c : Connection}
    (hNodup : c.neighbors.addresses.Nodup)
    (hEvents :
      s.events.toList = (index, event) :: t.events.toList)
    {sender : Nat}
    (hOther : addressOf sender ≠ c.address)
    {m : Metric}
    (hAfter :
      (t.lastNews index sender).or
          ((c.neighborsAfter event).heard
            (addressOf sender)) =
        some m) :
    m = Metric.unreachable ∨
      (s.lastNews index sender).or
          (c.neighbors.heard (addressOf sender)) =
        some m := by
  rw [lastNews_of_pop hEvents]
  cases hLast : t.lastNews index sender with
  | some later =>
      rw [hLast, Option.some_or] at hAfter
      exact Or.inr hAfter
  | none =>
      rw [hLast, Option.none_or] at hAfter
      rw [Option.none_or]
      rcases Connection.heard_neighborsAfter hNodup hOther
        hAfter with hVoid | hTold | ⟨hKept, hSilent⟩
      · exact Or.inl hVoid
      · have hNews :
            newsOf index (addressOf sender) (index, event) =
              some m :=
          newsOf_eq_some_iff.mpr (hTold ▸ rfl)
        rw [hNews]
        exact Or.inr rfl
      · have hNone :
            newsOf index (addressOf sender) (index, event) =
              none := by
          cases hNews :
            newsOf index (addressOf sender)
              (index, event) with
          | none => rfl
          | some metric =>
              rw [newsOf_eq_some_iff,
                Prod.mk.injEq] at hNews
              exact absurd hNews.2 (hSilent metric)
        rw [hNone]
        exact Or.inr hKept

omit [LossSource γ] in
/- With no request waiting, the news and the table decide. -/
theorem belief_of_quiet
    {s : Simulation γ}
    (hQuiet : s.outbox.toList = [])
    (listener sender : Nat)
    (table : NeighborTable) :
    s.belief listener table sender =
      (s.lastNews listener sender).or
        (table.heard (addressOf sender)) := by
  unfold belief
  rw [lastPledge_of_quiet hQuiet]
  rfl

section Dispatched

variable
  {s t : Simulation γ}
  {index : Nat}
  {event : Event}
  {node next : Node}

omit [LossSource γ] in
/-
  A node that handled an event announces its metric, or its
  metric is what it was and nothing is to be announced.
-/
theorem pledges_of_dispatched
    (hDispatched : Dispatched s t index event node next) :
    (next.connection.metric = node.connection.metric ∧
        ∀ sender, t.lastPledge sender = none) ∨
      t.outbox.toList =
        [.announce index next.connection.metric] := by
  have hAppended :
      t.outbox.toList =
        s.outbox.toList ++ t.outbox.toList := by
    rw [hDispatched.outbox, List.nil_append]
  rcases pledges_of_handling hDispatched.handling with
    ⟨hMetric, hNone⟩ | hOne
  · refine Or.inl ⟨hMetric, ?_⟩
    intro sender
    rw [lastPledge_append hAppended (fun request hMem =>
      hNone request hMem sender)]
    exact lastPledge_of_quiet hDispatched.outbox sender
  · exact Or.inr hOne

/- What others will believe of the node that was told. -/
theorem Rumors.of_sender
    (hRumors : s.Rumors)
    (hDispatched : Dispatched s t index event node next)
    {listener : Nat}
    {own : Node}
    {m : Metric}
    (hListener : listener ≠ index)
    (hOwn : s.nodes[listener]? = some own)
    (hRange : s.setup.inRange listener index = true)
    (hBelief :
      t.belief listener own.connection.neighbors index =
        some m) :
    m = Metric.unreachable ∨ m = next.connection.metric := by
  unfold belief at hBelief
  rcases pledges_of_dispatched hDispatched with
    ⟨hMetric, hNone⟩ | hOne
  · rw [hNone, Option.none_or] at hBelief
    rw [hMetric]
    apply hRumors.beliefs listener index own node m hOwn
      hDispatched.found hRange
    rw [belief_of_quiet hDispatched.outbox,
      lastNews_of_bystander hDispatched.events hListener]
    exact hBelief
  · rw [lastPledge_of_one hOne, if_pos rfl, Option.some_or,
      Option.some.injEq] at hBelief
    exact Or.inr hBelief.symm

/- What the node that was told will believe of another one. -/
theorem Rumors.of_listener
    (hRumors : s.Rumors)
    (hSound : s.Sound)
    (hFew : s.nodes.size ≤ 255)
    (hNodup :
      node.connection.neighbors.addresses.Nodup)
    (hDispatched : Dispatched s t index event node next)
    {sender : Nat}
    {other : Node}
    {m : Metric}
    (hSender : sender ≠ index)
    (hOther : s.nodes[sender]? = some other)
    (hRange : s.setup.inRange index sender = true)
    (hBelief :
      (t.lastNews index sender).or
          (next.connection.neighbors.heard
            (addressOf sender)) =
        some m) :
    m = Metric.unreachable ∨ m = other.connection.metric := by
  have hFound := hDispatched.found
  have hSize : sender < s.nodes.size :=
    (Array.getElem?_eq_some_iff.mp hOther).1
  have hIndex : index < s.nodes.size :=
    (Array.getElem?_eq_some_iff.mp hFound).1
  have hAway :
      addressOf sender ≠ node.connection.address := by
    rw [(hSound.ready index node hFound).address]
    intro hEq
    exact hSender (addressOf_inj (by omega) (by omega) hEq)
  rw [hDispatched.handling.neighbors_eq] at hBelief
  rcases known_before hNodup hDispatched.events hAway
    hBelief with hVoid | hKnown
  · exact Or.inl hVoid
  · apply hRumors.beliefs index sender node other m hFound
      hOther hRange
    rw [belief_of_quiet hDispatched.outbox]
    exact hKnown

/- What a node makes of an event was to be believed before. -/
theorem Rumors.dispatched
    (hRumors : s.Rumors)
    (hSound : s.Sound)
    (hFew : s.nodes.size ≤ 255)
    (hNodup :
      node.connection.neighbors.addresses.Nodup)
    (hDispatched : Dispatched s t index event node next) :
    t.Rumors := by
  have hNodes := hDispatched.nodes
  refine
    { lossless := hDispatched.losses ▸ hRumors.lossless
      beliefs := ?_ }
  intro listener sender own other m hOwn hOther hRange
    hBelief
  rw [hDispatched.setup] at hRange
  rcases node_cases hNodes hOther with
    ⟨rfl, rfl⟩ | ⟨hSender, hOldOther⟩
  · rcases node_cases hNodes hOwn with
      ⟨rfl, -⟩ | ⟨hListener, hOldOwn⟩
    · rw [s.setup.inRange_self] at hRange
      contradiction
    · exact
        hRumors.of_sender hDispatched hListener hOldOwn hRange
          hBelief
  · -- Nothing is announced on behalf of another sender.
    have hQuiet : t.lastPledge sender = none := by
      rcases pledges_of_dispatched hDispatched with
        ⟨-, hNone⟩ | hOne
      · exact hNone sender
      · rw [lastPledge_of_one hOne, if_neg (Ne.symm hSender)]
    unfold belief at hBelief
    rw [hQuiet, Option.none_or] at hBelief
    rcases node_cases hNodes hOwn with
      ⟨rfl, rfl⟩ | ⟨hListener, hOldOwn⟩
    · exact
        hRumors.of_listener hSound hFew hNodup hDispatched
          hSender hOldOther hRange hBelief
    · apply hRumors.beliefs listener sender own other m
        hOldOwn hOldOther hRange
      rw [belief_of_quiet hDispatched.outbox,
        lastNews_of_bystander hDispatched.events hListener]
      exact hBelief

end Dispatched

/- A reading has nothing to do with metrics. -/
theorem Rumors.reported
    {s t : Simulation γ}
    (hRumors : s.Rumors)
    (hLosses : t.losses = s.losses)
    {index : Nat}
    {node next : Node}
    {requests : List Request}
    {reply : Reply}
    (hReported :
      Reported s t index node next requests reply) :
    t.Rumors := by
  have hReporting := hReported.reporting
  have hPledges :
      ∀ sender, t.lastPledge sender = s.lastPledge sender := by
    intro sender
    apply lastPledge_append hReported.outbox
    intro request hMem
    cases hReporting with
    | dropped =>
        rw [List.mem_singleton.mp hMem]
        rfl
    | handedOver =>
        rw [List.mem_singleton.mp hMem]
        rfl
  -- The node has the table and the metric that it had.
  have hNode :
      ∀ (other : Nat) (after : Node),
        t.nodes[other]? = some after →
          ∃ before, s.nodes[other]? = some before ∧
            after.connection.neighbors =
              before.connection.neighbors ∧
            after.connection.metric =
              before.connection.metric := by
    intro other after hAfter
    rcases node_cases hReported.nodes hAfter with
      ⟨rfl, rfl⟩ | ⟨-, hOld⟩
    · refine
        ⟨node, hReported.found, hReporting.neighbors_eq, ?_⟩
      cases hReporting <;> rfl
    · exact ⟨after, hOld, rfl, rfl⟩
  refine
    { lossless := hLosses ▸ hRumors.lossless
      beliefs := ?_ }
  intro listener sender own other m hOwn hOther hRange
    hBelief
  rcases hNode listener own hOwn with
    ⟨ownBefore, hOwnBefore, hTable, -⟩
  rcases hNode sender other hOther with
    ⟨otherBefore, hOtherBefore, -, hMetric⟩
  rw [hReported.setup] at hRange
  rw [hTable] at hBelief
  rw [hMetric]
  apply hRumors.beliefs listener sender ownBefore
    otherBefore m hOwnBefore hOtherBefore hRange
  unfold belief lastNews at hBelief ⊢
  rw [hPledges, hReported.events] at hBelief
  exact hBelief

------------------------------------------------------------
-- Runs
------------------------------------------------------------

omit [LossSource γ] in
/- Readings are handed over without asking the radio. -/
theorem losses_report
    (s : Simulation γ)
    (index : Nat) :
    (s.report index).losses = s.losses := by
  unfold report
  cases s.nodes[index]? with
  | none => rfl
  | some node =>
      simp only
      split
      · rfl
      · rw [countReading_eq, perform_frame]

theorem Rumors.next
    {s t : Simulation γ}
    (hRumors : s.Rumors)
    (hSound : s.Sound)
    (hFew : s.nodes.size ≤ 255)
    {setup : Setup}
    (hVicinal : s.Vicinal setup)
    (hNext : Next s t) :
    t.Rumors := by
  cases hNext with
  | tick =>
      refine hRumors.of_true_news rfl rfl hRumors.lossless
        (fun _ => rfl) (Queue.toList_pushAll _ _) ?_
      intro listener sender other m hOther hMem
      simp at hMem
  | beacon index =>
      obtain ⟨hSetup, hNodes, hOutbox, -⟩ :=
        beacon_frame s index
      rcases beacon_news s index with
        ⟨more, hEvents, hNews⟩
      have hPledges :
          ∀ sender,
            (s.beacon index).lastPledge sender =
              s.lastPledge sender := by
        intro sender
        unfold lastPledge
        rw [hOutbox]
      refine hRumors.of_true_news hSetup hNodes
        (hRumors.lossless.beacon index) hPledges hEvents ?_
      intro listener sender other m hOther hMem
      rcases hNews _ hMem with ⟨metric, hMetric, hTells⟩
      exact
        true_of_announced hSound hFew hMetric hTells hOther
          rfl
  | report index =>
      rcases report_cases (hSound.ready index) with
        ⟨hSame, -⟩ |
        ⟨node, next, requests, reply, hReported⟩
      · rw [hSame]
        exact hRumors
      · exact
          hRumors.reported (losses_report s index) hReported
  | turn _ hTurn =>
      rcases turn_cases hSound hTurn with
        ⟨request, outbox, hOutbox, rfl⟩ |
        ⟨index, event, node, next, hDispatched⟩
      · exact hRumors.served hSound hFew hOutbox
      · have hTable :=
          hVicinal.tables index node hDispatched.found
        exact
          hRumors.dispatched hSound hFew hTable.nodup
            hDispatched

/- Gossip is more than rumors. -/
theorem Gossip.rumors
    {setup : Setup}
    {s : Simulation γ}
    (hGossip : s.Gossip setup) :
    s.Rumors := by
  refine
    { lossless := hGossip.lossless
      beliefs := ?_ }
  intro listener sender node other m hNode hOther hRange
    hBelief
  rw [hGossip.setup_eq] at hRange
  rw [hGossip.beliefs listener sender node other hNode
    hOther hRange, Option.some.injEq] at hBelief
  exact Or.inr hBelief.symm

/- Without losses, a run has rumors only. -/
theorem rumors_of_reaches
    {setup : Setup}
    (hFew : setup.nodeCount.toNat ≤ 255)
    {losses : γ}
    (hLossless : Losses.Lossless losses)
    {s : Simulation γ}
    (hReaches : Reaches (start setup losses) s) :
    s.Rumors := by
  induction hReaches with
  | refl => exact (gossip_start setup hLossless).1.rumors
  | tail hBefore hNext ih =>
      have hVicinal := vicinal_of_reaches hBefore
      refine ih.next
        (Reaches.sound hBefore (sound_start setup losses)) ?_
        hVicinal hNext
      rw [hVicinal.size]
      exact hFew

end Simulation

end CollectionTree
