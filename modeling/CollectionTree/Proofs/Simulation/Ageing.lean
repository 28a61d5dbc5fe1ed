import CollectionTree.Proofs.Simulation.GossipRuns
import CollectionTree.Proofs.Simulation.Vicinity

/-
  When nothing is lost, nodes do not forget their neighbors.

  Key definitions include:
    * `Neighbor.after`
    * `Simulation.Acquainted`
    * `Simulation.Timely`

  Key theorems include:
    * `Connection.neighborsAfter_eq_map`
    * `Simulation.neighbors_of_dispatched`
    * `Simulation.Timely.dispatched`
    * `Simulation.Timely.beaconsSent`

  Once nodes know all nodes in range, an event changes their
  entries one by one, with packets on the air as without
  them.  Time passes before anything else in a step, so an
  entry is renewed by beacons before it gets stale.
-/

namespace CollectionTree

------------------------------------------------------------
-- Entries After Events
------------------------------------------------------------

/- What an event does to an entry. -/
def Neighbor.after
    (n : Neighbor)
    (event : Event) : Neighbor :=
  match event with
  | .received _ _ => n
  | .sent receiver outcome transmissions =>
      if n.address = receiver then
        if outcome = .acked then
          n.acknowledging (max transmissions 1)
        else
          n.failing (max transmissions 1)
      else
        n
  | .announced sender metric =>
      if n.address = sender then n.announcing metric else n
  | .elapsed time => n.aged time

@[simp] theorem Neighbor.address_after
    (n : Neighbor)
    (event : Event) :
    (n.after event).address = n.address := by
  cases event with
  | received sender packet => rfl
  | sent receiver outcome transmissions =>
      unfold after
      simp only
      split
      · split <;> rfl
      · rfl
  | announced sender metric =>
      unfold after
      simp only
      split <;> rfl
  | elapsed time => rfl

/- Unless time passes, entries do not get older. -/
theorem Neighbor.age_after_le
    (n : Neighbor)
    {event : Event}
    (hNoTick : event.isTick = false) :
    (n.after event).age.nanos ≤ n.age.nanos := by
  cases event with
  | received sender packet => exact Nat.le_refl _
  | sent receiver outcome transmissions =>
      unfold after
      simp only
      split
      · split
        · exact Nat.zero_le _
        · exact Nat.le_refl _
      · exact Nat.le_refl _
  | announced sender metric =>
      unfold after
      simp only
      split
      · exact Nat.zero_le _
      · exact Nat.le_refl _
  | elapsed time => contradiction

theorem Neighbor.after_announced
    (n : Neighbor)
    (metric : Metric) :
    n.after (.announced n.address metric) =
      n.announcing metric :=
  if_pos rfl

namespace NeighborTable

/- A known neighbor is not added again. -/
theorem upsert_eq_map
    {t : NeighborTable}
    (hNodup : t.addresses.Nodup)
    {newcomer : Neighbor}
    (hKnown : newcomer.address ∈ t.addresses)
    (change : Neighbor → Neighbor) :
    t.upsert newcomer change =
      { t with
        entries :=
          t.entries.map (fun n =>
            if n.address = newcomer.address then
              change n
            else
              n) } := by
  rcases upsert_cases t newcomer change with
    ⟨-, hEq⟩ | ⟨hAbsent, -⟩ | ⟨hAbsent, -⟩
  · rw [hEq, modifyEntry_eq_map hNodup]
  · exact absurd hKnown hAbsent
  · exact absurd hKnown hAbsent

end NeighborTable

/-
  An event changes entries one by one if it tells of known
  neighbors and drops no entry.
-/
theorem Connection.neighborsAfter_eq_map
    {c : Connection}
    {event : Event}
    (hNodup : c.neighbors.addresses.Nodup)
    (hOther : c.address ∉ c.neighbors.addresses)
    (hKnown :
      ∀ a, event.subject? = some a →
        a ∈ c.neighbors.addresses)
    (hFresh :
      ∀ time, event = .elapsed time →
        ∀ n ∈ c.neighbors.entries,
          (n.aged time).isStale c.neighbors.lifetime =
            false) :
    c.neighborsAfter event =
      { c.neighbors with
        entries :=
          c.neighbors.entries.map (fun n =>
            n.after event) } := by
  cases event with
  | received sender packet =>
      have hSame :
          c.neighbors.entries.map (fun n =>
              n.after (.received sender packet)) =
            c.neighbors.entries :=
        List.map_id' _
      rw [hSame]
      rfl
  | sent receiver outcome transmissions =>
      have hReceiver := hKnown receiver rfl
      unfold neighborsAfter
      by_cases hAcked : outcome = .acked
      · simp only [if_pos hAcked]
        rw [noteAcknowledged_eq_upsert,
          NeighborTable.upsert_eq_map hNodup hReceiver]
        simp only [Neighbor.after, if_pos hAcked]
        rfl
      · have hChanged :=
          NeighborTable.modifyEntry_eq_map hNodup receiver
            (fun n => n.failing (max transmissions 1))
        simp only [if_neg hAcked]
        unfold NeighborTable.recordFailure
          NeighborTable.modify
        simp only [hChanged, Neighbor.after, if_neg hAcked]
  | announced sender metric =>
      have hSender := hKnown sender rfl
      have hAway : sender ≠ c.address :=
        fun hEq => hOther (hEq ▸ hSender)
      unfold neighborsAfter
      simp only [if_neg hAway]
      rw [noteAnnounced_eq_upsert,
        NeighborTable.upsert_eq_map hNodup hSender]
      rfl
  | elapsed time =>
      have hTick :=
        NeighborTable.tick_of_fresh (hFresh time rfl)
      unfold neighborsAfter
      simp only [hTick]
      rfl

namespace Simulation

variable {γ : Type}

------------------------------------------------------------
-- Known Neighbors
------------------------------------------------------------

/- All nodes have entries for the nodes in range of them. -/
def Acquainted
    (setup : Setup)
    (s : Simulation γ) : Prop :=
  ∀ (index : Nat) (node : Node),
    s.nodes[index]? = some node →
      ∀ a, setup.Near index a →
        a ∈ node.connection.neighbors.addresses

/- Events come in time, and entries are young enough. -/
structure Timely
    (setup : Setup)
    (s : Simulation γ) : Prop where
  times :
    ∀ (index : Nat) (time : Duration),
      (index, .elapsed time) ∈ s.events.toList →
        time = setup.stepTime
  order :
    s.events.toList.Pairwise (fun first later =>
      later.2.isTick = true → first.2.isTick = true)
  ages :
    ∀ (index : Nat) (node : Node),
      s.nodes[index]? = some node →
        ∀ n ∈ node.connection.neighbors.entries,
          n.age.nanos +
              s.ticksFor index * setup.stepTime.nanos ≤
            ((s.steps - 1) % setup.beaconInterval.toNat +
              1) * setup.stepTime.nanos

theorem Gossip.timely
    [LossSource γ]
    {setup : Setup}
    {s : Simulation γ}
    (hGossip : s.Gossip setup) :
    s.Timely setup := by
  refine
    { times := ?_
      order := hGossip.order
      ages := hGossip.ages }
  intro index time hMem
  rcases hGossip.events _ hMem with
    hTick | ⟨sender, metric, -, -, hTold⟩
  · exact Event.elapsed.inj hTick
  · contradiction

/- A node is not in its own table. -/
theorem Vicinal.not_mem_own
    {setup : Setup}
    {s : Simulation γ}
    (hVicinal : s.Vicinal setup)
    (hFew : setup.nodeCount.toNat ≤ 255)
    {index : Nat}
    {node : Node}
    (hNode : s.nodes[index]? = some node) :
    addressOf index ∉ node.connection.neighbors.addresses := by
  intro hMem
  have hTable := hVicinal.tables index node hNode
  have hIndex : index < setup.nodeCount.toNat := by
    rw [← hVicinal.size]
    exact (Array.getElem?_eq_some_iff.mp hNode).1
  rcases hTable.near _ hMem with
    ⟨other, hOther, hRange, hAddress⟩
  have hSame :=
    addressOf_inj (by omega) (by omega) hAddress
  rw [hSame, setup.inRange_self] at hRange
  contradiction

------------------------------------------------------------
-- Events
------------------------------------------------------------

section Dispatched

variable
  {setup : Setup}
  {s t : Simulation γ}
  {index : Nat}
  {event : Event}
  {node next : Node}

/- No entry is dropped when time passes at its node. -/
theorem Timely.fresh
    (hTimely : s.Timely setup)
    (hLasting : setup.Lasting)
    (hVicinal : s.Vicinal setup)
    (hDispatched : Dispatched s t index event node next)
    (time : Duration)
    (hTick : event = .elapsed time) :
    ∀ n ∈ node.connection.neighbors.entries,
      (n.aged time).isStale
        node.connection.neighbors.lifetime = false := by
  intro n hMem
  have hNode := hDispatched.found
  have hEvents := hDispatched.events
  subst hTick
  have hTime : time = setup.stepTime := by
    apply hTimely.times index
    rw [hEvents]
    exact List.mem_cons_self
  subst hTime
  rw [(hVicinal.tables index node hNode).lifetime]
  exact fresh_of_tick hLasting hEvents
    (hTimely.ages index node hNode n hMem)

/- An event changes entries, and adds and drops none. -/
theorem neighbors_of_dispatched
    (hLasting : setup.Lasting)
    (hSound : s.Sound)
    (hVicinal : s.Vicinal setup)
    (hAcquainted : s.Acquainted setup)
    (hTimely : s.Timely setup)
    (hDispatched : Dispatched s t index event node next) :
    next.connection.neighbors =
      { node.connection.neighbors with
        entries :=
          node.connection.neighbors.entries.map (fun n =>
            n.after event) } := by
  have hNode := hDispatched.found
  have hReady := hSound.ready index node hNode
  have hTable := hVicinal.tables index node hNode
  have hMem : (index, event) ∈ s.events.toList := by
    rw [hDispatched.events]
    exact List.mem_cons_self
  rw [hDispatched.handling.neighbors_eq]
  apply Connection.neighborsAfter_eq_map hTable.nodup
  · rw [hReady.address]
    exact hVicinal.not_mem_own hLasting.addresses hNode
  · intro a hSubject
    apply hAcquainted index node hNode
    exact hVicinal.events _ hMem a hSubject
  · exact hTimely.fresh hLasting hVicinal hDispatched

theorem Acquainted.dispatched
    (hAcquainted : s.Acquainted setup)
    (hDispatched : Dispatched s t index event node next)
    (hTable :
      next.connection.neighbors =
        { node.connection.neighbors with
          entries :=
            node.connection.neighbors.entries.map (fun n =>
              n.after event) }) :
    t.Acquainted setup := by
  intro other changed hChanged a hNear
  rcases node_cases hDispatched.nodes hChanged with
    ⟨rfl, rfl⟩ | ⟨-, hOld⟩
  · have hSame :
        changed.connection.neighbors.addresses =
          node.connection.neighbors.addresses := by
      rw [hTable]
      unfold NeighborTable.addresses
      rw [List.map_map]
      apply List.map_congr_left
      intro n _
      exact n.address_after event
    rw [hSame]
    exact hAcquainted other node hDispatched.found a hNear
  · exact hAcquainted other changed hOld a hNear

/- With the time that is to pass, entries get no older. -/
theorem Timely.age_after_le
    (hTimely : s.Timely setup)
    (hDispatched : Dispatched s t index event node next)
    (n : Neighbor) :
    (n.after event).age.nanos +
        t.ticksFor index * setup.stepTime.nanos ≤
      n.age.nanos +
        s.ticksFor index * setup.stepTime.nanos := by
  have hEvents := hDispatched.events
  by_cases hTick : event.isTick = true
  · cases event with
    | elapsed time =>
        have hTime : time = setup.stepTime := by
          apply hTimely.times index
          rw [hEvents]
          exact List.mem_cons_self
        subst hTime
        exact age_of_tick hEvents n
    | _ => contradiction
  · have hNoTick : event.isTick = false := by
      simpa using hTick
    have hYounger := n.age_after_le hNoTick
    have hTicks : s.ticksFor index = t.ticksFor index := by
      rw [ticksFor_of_pop hEvents, if_pos rfl, hNoTick]
      rfl
    rw [hTicks]
    omega

/- Time has passed at all nodes before anything is heard. -/
theorem Timely.ticksFor_eq_zero
    (hTimely : s.Timely setup)
    (hDispatched : Dispatched s t index event node next)
    (hNoTick : event.isTick = false)
    (other : Nat) :
    t.ticksFor other = 0 := by
  have hOrder := hTimely.order
  rw [hDispatched.events, List.pairwise_cons] at hOrder
  unfold ticksFor
  rw [List.countP_eq_zero]
  intro later hLater hTick
  rw [Bool.and_eq_true] at hTick
  have hFirst := hOrder.1 later hLater hTick.1
  rw [hNoTick] at hFirst
  contradiction

theorem Timely.dispatched
    (hTimely : s.Timely setup)
    (hRefreshed : s.Refreshed setup)
    (hDispatched : Dispatched s t index event node next)
    (hTable :
      next.connection.neighbors =
        { node.connection.neighbors with
          entries :=
            node.connection.neighbors.entries.map (fun n =>
              n.after event) }) :
    t.Timely setup ∧ t.Refreshed setup := by
  have hNode := hDispatched.found
  have hEvents := hDispatched.events
  have hEntries :
      ∀ n ∈ next.connection.neighbors.entries,
        ∃ m ∈ node.connection.neighbors.entries,
          n = m.after event := by
    intro n hMem
    rw [hTable] at hMem
    rcases List.mem_map.mp hMem with ⟨m, hOld, rfl⟩
    exact ⟨m, hOld, rfl⟩
  constructor
  · refine
      { times := ?_
        order := ?_
        ages := ?_ }
    · intro other time hMem
      apply hTimely.times other
      rw [hEvents]
      exact List.mem_cons_of_mem _ hMem
    · have hOrder := hTimely.order
      rw [hEvents, List.pairwise_cons] at hOrder
      exact hOrder.2
    · intro other changed hChanged n hMem
      rw [hDispatched.steps]
      rcases node_cases hDispatched.nodes hChanged with
        ⟨rfl, rfl⟩ | ⟨hOther, hOld⟩
      · rcases hEntries n hMem with ⟨m, hOld, rfl⟩
        exact Nat.le_trans
          (hTimely.age_after_le hDispatched m)
          (hTimely.ages other node hNode m hOld)
      · have hBefore := hTimely.ages other changed hOld n hMem
        rw [ticksFor_of_pop hEvents,
          if_neg (Ne.symm hOther)] at hBefore
        exact hBefore
  · refine hRefreshed.of_handled hEvents hDispatched.nodes
      hDispatched.steps ?_
    intro n hMem
    rcases hEntries n hMem with ⟨m, hOld, rfl⟩
    rw [Neighbor.address_after]
    rcases hRefreshed index node hNode m hOld with
      hYoung | ⟨metric, hSoon⟩
    · exact Or.inl (Nat.le_trans
        (hTimely.age_after_le hDispatched m) hYoung)
    · rw [hEvents, List.mem_cons] at hSoon
      rcases hSoon with hFirst | hLater
      · -- The entry has just been renewed.
        obtain ⟨-, rfl⟩ := Prod.mk.inj hFirst
        apply Or.inl
        rw [Neighbor.after_announced,
          hTimely.ticksFor_eq_zero hDispatched rfl,
          Nat.zero_mul]
        exact Nat.zero_le _
      · exact Or.inr ⟨metric, hLater⟩

end Dispatched

------------------------------------------------------------
-- Requests and Readings
------------------------------------------------------------

/-
  What does not change tables and tells of no time that
  passes does not make entries older.
-/
theorem Timely.of_more
    {setup : Setup}
    {s t : Simulation γ}
    (hTimely : s.Timely setup)
    (hTables :
      ∀ (index : Nat) (next : Node),
        t.nodes[index]? = some next →
          ∃ node, s.nodes[index]? = some node ∧
            next.connection.neighbors =
              node.connection.neighbors)
    (hSteps : t.steps = s.steps)
    {more : List (Nat × Event)}
    (hEvents : t.events.toList = s.events.toList ++ more)
    (hNoTick : ∀ event ∈ more, event.2.isTick = false) :
    t.Timely setup ∧
      (s.Refreshed setup → t.Refreshed setup) := by
  have hTicks := ticksFor_append hEvents hNoTick
  constructor
  · refine
      { times := ?_
        order := ?_
        ages := ?_ }
    · intro index time hMem
      rw [hEvents, List.mem_append] at hMem
      rcases hMem with hOld | hNew
      · exact hTimely.times index time hOld
      · exact absurd (hNoTick _ hNew) (by simp [Event.isTick])
    · rw [hEvents, List.pairwise_append]
      refine ⟨hTimely.order, ?_, ?_⟩
      · apply List.pairwise_of_forall_mem_list
        intro first _ later hLater hTick
        rw [hNoTick later hLater] at hTick
        contradiction
      · intro first _ later hLater hTick
        rw [hNoTick later hLater] at hTick
        contradiction
    · intro index next hNext n hMem
      rcases hTables index next hNext with
        ⟨node, hNode, hSame⟩
      rw [hSame] at hMem
      rw [hTicks, hSteps]
      exact hTimely.ages index node hNode n hMem
  · intro hRefreshed index next hNext n hMem
    rcases hTables index next hNext with ⟨node, hNode, hSame⟩
    rw [hSame] at hMem
    rw [hTicks, hSteps]
    rcases hRefreshed index node hNode n hMem with
      hYoung | ⟨metric, hSoon⟩
    · exact Or.inl hYoung
    · refine Or.inr ⟨metric, ?_⟩
      rw [hEvents]
      exact List.mem_append_left more hSoon

theorem Acquainted.of_tables
    {setup : Setup}
    {s t : Simulation γ}
    (hAcquainted : s.Acquainted setup)
    (hTables :
      ∀ (index : Nat) (next : Node),
        t.nodes[index]? = some next →
          ∃ node, s.nodes[index]? = some node ∧
            next.connection.neighbors =
              node.connection.neighbors) :
    t.Acquainted setup := by
  intro index next hNext a hNear
  rcases hTables index next hNext with ⟨node, hNode, hSame⟩
  rw [hSame]
  exact hAcquainted index node hNode a hNear

------------------------------------------------------------
-- Steps
------------------------------------------------------------

/- Time is about to pass at all nodes. -/
theorem Timely.ticked
    {setup : Setup}
    {s : Simulation γ}
    (hRefreshed : s.Refreshed setup)
    (hSetup : s.setup = setup)
    (hEvents : s.events.toList = []) :
    s.ticked.Timely setup := by
  have hTicks :
      ∀ event ∈ s.ticked.events.toList,
        event.2 = .elapsed setup.stepTime := by
    intro event hMem
    rw [events_ticked, hEvents, List.nil_append] at hMem
    rcases List.mem_map.mp hMem with ⟨index, -, rfl⟩
    rw [hSetup]
  refine
    { times := ?_
      order := ?_
      ages := ?_ }
  · intro index time hMem
    exact Event.elapsed.inj (hTicks _ hMem)
  · apply List.pairwise_of_forall_mem_list
    intro first hFirst _ _ _
    rw [hTicks first hFirst]
    rfl
  · intro index node hNode n hMem
    exact hRefreshed.age_ticked_le hEvents hNode hMem

section Beacons

variable [LossSource γ]

theorem Timely.beacons
    {setup : Setup}
    {s : Simulation γ}
    (hTimely : s.Timely setup)
    (indices : List Nat) :
    (indices.foldl Simulation.beacon s).Timely setup := by
  induction indices generalizing s with
  | nil => exact hTimely
  | cons index rest ih =>
      obtain ⟨-, hNodes, -, hSteps⟩ := beacon_frame s index
      rcases beacon_news s index with ⟨more, hEvents, hNews⟩
      have hTables :
          ∀ (other : Nat) (next : Node),
            (s.beacon index).nodes[other]? = some next →
              ∃ node, s.nodes[other]? = some node ∧
                next.connection.neighbors =
                  node.connection.neighbors := by
        intro other next hNext
        rw [hNodes] at hNext
        exact ⟨next, hNext, rfl⟩
      apply ih
      apply (hTimely.of_more hTables hSteps hEvents ?_).1
      intro event hMem
      rcases hNews event hMem with ⟨metric, -, hTells⟩
      rw [hTells.tells]
      rfl

/- Beacons are sent in time. -/
theorem Timely.beaconsSent
    {setup : Setup}
    {s : Simulation γ}
    (hSetup : s.setup = setup)
    (hRefreshed : s.Refreshed setup)
    (hEvents : s.events.toList = []) :
    s.ticked.beaconsSent.Timely setup := by
  have hTicked := Timely.ticked hRefreshed hSetup hEvents
  unfold Simulation.beaconsSent
  split
  · exact hTicked.beacons _
  · exact hTicked

end Beacons

end Simulation

end CollectionTree
