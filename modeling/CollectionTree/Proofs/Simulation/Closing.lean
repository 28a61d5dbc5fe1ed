import CollectionTree.Proofs.Simulation.GossipTurns
import CollectionTree.Proofs.Simulation.Silence

/-
  A closed node is forgotten, unless packets go to it.

  Key definitions include:
    * `Request.isFor`
    * `Simulation.Faded`
    * `Simulation.Fading`
    * `Simulation.Unrelated`
    * `Simulation.HandsOver`

  Key theorems include:
    * `Simulation.Fading.begun`
    * `Simulation.Fading.turn`
    * `Simulation.Fading.run`
    * `Simulation.closed_node_is_forgotten`
    * `Simulation.packets_keep_closed_node`

  An entry of the closed node gets older with every step,
  since nobody hears the node.  But the radio acknowledges
  packets for it as if it were open, and each of them makes
  its entry new, or puts it back into the table.
-/

namespace CollectionTree

/- Whether a node asks to hand a packet to an address. -/
def Request.isFor
    (index : Nat)
    (a : Address) : Request → Bool
  | .unicast sender handover =>
      sender == index && handover.nextHop == a
  | _ => false

namespace Simulation

variable {γ : Type}

------------------------------------------------------------
-- Entries That Grow Old
------------------------------------------------------------

/-
  An entry is as old as the time that a node was told of
  since some step, and younger than a lifetime if the node
  was told of any.
-/
structure Faded
    (setup : Setup)
    (s : Simulation γ)
    (index base : Nat)
    (n : Neighbor) : Prop where
  aged :
    min
        ((s.steps - base - s.ticksFor index) *
          setup.stepTime.nanos)
        Duration.greatest.nanos ≤
      n.age.nanos
  kept :
    base + s.ticksFor index < s.steps →
      n.age.nanos <
        (Duration.ofSeconds
          setup.collect.neighborLifetime.toNat 0).nanos

/-
  No packet that a node sent to the closed one is to be
  acknowledged, and the entry of the closed node fades.
-/
structure Fading
    (setup : Setup)
    (closed index base : Nat)
    (s : Simulation γ) : Prop where
  unsent :
    ∀ outcome transmissions,
      (index,
          .sent (addressOf closed) outcome transmissions) ∉
        s.events.toList
  elapsed :
    ∀ event ∈ s.events.toList, ∀ time,
      event.2 = .elapsed time → time = setup.stepTime
  entries :
    ∀ node, s.nodes[index]? = some node →
      ∀ n ∈ node.connection.neighbors.entries,
        n.address = addressOf closed →
          s.Faded setup index base n

/-
  An event that is neither about time nor the outcome of a
  packet that a node sent to an address.
-/
def Unrelated
    (index : Nat)
    (a : Address)
    (event : Nat × Event) : Prop :=
  event.2.isTick = false ∧
    ∀ outcome transmissions,
      event ≠ (index, .sent a outcome transmissions)

/- Only the time that is to be told matters. -/
theorem Faded.of_clock_eq
    {setup : Setup}
    {s t : Simulation γ}
    {index base : Nat}
    {n m : Neighbor}
    (hFaded : s.Faded setup index base n)
    (hSteps : t.steps = s.steps)
    (hTicks : t.ticksFor index = s.ticksFor index)
    (hAge : m.age = n.age) :
    t.Faded setup index base m := by
  constructor
  · rw [hSteps, hTicks, hAge]
    exact hFaded.aged
  · rw [hSteps, hTicks, hAge]
    exact hFaded.kept

/- Adding the same to both keeps a bounded order. -/
theorem min_add_le_min_add
    {a b limit : Nat}
    (hLe : min a limit ≤ b)
    (c : Nat) :
    min (a + c) limit ≤ min (b + c) limit := by
  omega

/- The node was told of one more step. -/
theorem Faded.of_tick
    {setup : Setup}
    {s t : Simulation γ}
    {index base : Nat}
    {n : Neighbor}
    (hFaded : s.Faded setup index base n)
    (hSteps : t.steps = s.steps)
    (hTicks : s.ticksFor index = t.ticksFor index + 1)
    (hKept :
      (n.aged setup.stepTime).age.nanos <
        (Duration.ofSeconds
          setup.collect.neighborLifetime.toNat 0).nanos) :
    t.Faded setup index base (n.aged setup.stepTime) := by
  constructor
  · have hAged := hFaded.aged
    have hAge :
        (n.aged setup.stepTime).age.nanos =
          min (n.age.nanos + setup.stepTime.nanos)
            Duration.greatest.nanos := rfl
    rw [hTicks, ← Nat.sub_sub] at hAged
    rw [hSteps, hAge]
    cases hPassed :
      s.steps - base - t.ticksFor index with
    | zero =>
        rw [Nat.zero_mul, Nat.zero_min]
        exact Nat.zero_le _
    | succ passed =>
        rw [hPassed, Nat.add_sub_cancel] at hAged
        rw [Nat.succ_mul]
        exact min_add_le_min_add hAged _
  · intro _
    exact hKept

/- Every node is told once that time passes. -/
theorem ticksFor_ticked
    {s : Simulation γ}
    {index : Nat}
    (hIndex : index < s.nodes.size) :
    s.ticked.ticksFor index = s.ticksFor index + 1 := by
  have hOne :
      (List.range s.nodes.size).countP (· == index) = 1 :=
    Nat.le_antisymm
      (List.nodup_iff_count.mp List.nodup_range index)
      (List.count_pos_iff.mpr (List.mem_range.mpr hIndex))
  unfold ticksFor
  rw [events_ticked, List.countP_append, List.countP_map]
  exact congrArg _ hOne

/- The table of the node and its time stay as they are. -/
theorem Fading.of_same_table
    {setup : Setup}
    {closed index base : Nat}
    {s t : Simulation γ}
    (hFading : s.Fading setup closed index base)
    (hTables :
      ∀ node, t.nodes[index]? = some node →
        ∃ before, s.nodes[index]? = some before ∧
          node.connection.neighbors =
            before.connection.neighbors)
    (hSteps : t.steps = s.steps)
    (hTicks : t.ticksFor index = s.ticksFor index)
    (hUnsent :
      ∀ outcome transmissions,
        (index,
            .sent (addressOf closed) outcome
              transmissions) ∉
          t.events.toList)
    (hElapsed :
      ∀ event ∈ t.events.toList, ∀ time,
        event.2 = .elapsed time → time = setup.stepTime) :
    t.Fading setup closed index base := by
  constructor
  · exact hUnsent
  · exact hElapsed
  · intro node hFound n hMem hAddress
    rcases hTables node hFound with
      ⟨before, hBefore, hSame⟩
    rw [hSame] at hMem
    exact
      (hFading.entries before hBefore n hMem
        hAddress).of_clock_eq hSteps hTicks rfl

/- News and packets for others may be added to the queue. -/
theorem Fading.of_append
    {setup : Setup}
    {closed index base : Nat}
    {s t : Simulation γ}
    (hFading : s.Fading setup closed index base)
    (hNodes : t.nodes = s.nodes)
    (hSteps : t.steps = s.steps)
    {more : List (Nat × Event)}
    (hEvents : t.events.toList = s.events.toList ++ more)
    (hMore :
      ∀ event ∈ more,
        Unrelated index (addressOf closed) event) :
    t.Fading setup closed index base := by
  have hTicks :=
    ticksFor_append hEvents
      (fun event hMem => (hMore event hMem).1) index
  refine hFading.of_same_table
    (fun node hFound => ⟨node, hNodes ▸ hFound, rfl⟩) hSteps
    hTicks ?_ ?_
  · intro outcome transmissions hMem
    rw [hEvents, List.mem_append] at hMem
    rcases hMem with hOld | hNew
    · exact hFading.unsent outcome transmissions hOld
    · exact (hMore _ hNew).2 outcome transmissions rfl
  · intro event hMem time hTime
    rw [hEvents, List.mem_append] at hMem
    rcases hMem with hOld | hNew
    · exact hFading.elapsed event hOld time hTime
    · have hNoTick := (hMore event hNew).1
      rw [hTime] at hNoTick
      contradiction

theorem unrelated_of_news
    {s : Simulation γ}
    {sender : Nat}
    {metric : Metric}
    {event : Nat × Event}
    (hNews : s.IsNews sender metric event)
    (index : Nat)
    (a : Address) :
    Unrelated index a event := by
  constructor
  · rw [hNews.tells]
    rfl
  · intro outcome transmissions hSame
    have hTells := hNews.tells
    rw [hSame] at hTells
    contradiction

------------------------------------------------------------
-- A Step Begins
------------------------------------------------------------

theorem Fading.ticked
    {setup : Setup}
    {closed index base : Nat}
    {s : Simulation γ}
    (hSilent : s.Silent setup closed)
    (hFading : s.Fading setup closed index base) :
    s.ticked.Fading setup closed index base := by
  constructor
  · intro outcome transmissions hMem
    rw [events_ticked, List.mem_append] at hMem
    rcases hMem with hOld | hNew
    · exact hFading.unsent outcome transmissions hOld
    · simp at hNew
  · intro event hMem time hTime
    rw [events_ticked, List.mem_append] at hMem
    rcases hMem with hOld | hNew
    · exact hFading.elapsed event hOld time hTime
    · rcases List.mem_map.mp hNew with ⟨other, -, rfl⟩
      rw [hSilent.setup_eq] at hTime
      exact (Event.elapsed.inj hTime).symm
  · intro node hNode n hMem hAddress
    have hNode' : s.nodes[index]? = some node := hNode
    have hIndex : index < s.nodes.size :=
      (Array.getElem?_eq_some_iff.mp hNode').1
    have hFaded :=
      hFading.entries node hNode' n hMem hAddress
    have hSteps : s.ticked.steps = s.steps + 1 := rfl
    -- There is one more step, and it is to be told yet.
    have hPassed :
        s.steps + 1 - base - (s.ticksFor index + 1) =
          s.steps - base - s.ticksFor index := by
      omega
    constructor
    · rw [hSteps, ticksFor_ticked hIndex, hPassed]
      exact hFaded.aged
    · rw [hSteps, ticksFor_ticked hIndex]
      intro hLess
      exact hFaded.kept (Nat.lt_of_succ_lt_succ hLess)

section Runs

variable [LossSource γ]

theorem Fading.beacon
    {setup : Setup}
    {closed index base : Nat}
    {s : Simulation γ}
    (hFading : s.Fading setup closed index base)
    (speaker : Nat) :
    (s.beacon speaker).Fading setup closed index base := by
  obtain ⟨-, hNodes, -, hSteps⟩ := beacon_frame s speaker
  rcases beacon_news s speaker with ⟨more, hEvents, hNews⟩
  refine hFading.of_append hNodes hSteps hEvents ?_
  intro event hMem
  rcases hNews event hMem with ⟨metric, -, hTells⟩
  exact unrelated_of_news hTells index _

omit [LossSource γ] in
theorem Fading.report
    {setup : Setup}
    {closed index base : Nat}
    {s : Simulation γ}
    (hSilent : s.Silent setup closed)
    (hFading : s.Fading setup closed index base)
    (speaker : Nat) :
    (s.report speaker).Fading setup closed index base := by
  by_cases hClosed : speaker = closed
  · have hNode :=
      Array.getElem?_eq_getElem hSilent.exists_node
    subst hClosed
    rw [report_shut hNode (hSilent.shut _ hNode)]
    exact hFading
  · rcases report_cases (fun node hNode =>
      hSilent.ready speaker node hNode hClosed) with
      ⟨hSame, -⟩ |
      ⟨node, next, requests, reply, hReported⟩
    · rw [hSame]
      exact hFading
    · have hEvents := hReported.events
      have hSteps : (s.report speaker).steps = s.steps :=
        (Prod.mk.inj (report_frame s speaker)).2
      have hTicks :
          (s.report speaker).ticksFor index =
            s.ticksFor index := by
        unfold ticksFor
        rw [hEvents]
      refine hFading.of_same_table ?_ hSteps hTicks ?_ ?_
      · intro after hAfter
        rcases node_cases hReported.nodes hAfter with
          ⟨rfl, rfl⟩ | ⟨-, hOld⟩
        · exact
            ⟨node, hReported.found,
              hReported.reporting.neighbors_eq⟩
        · exact ⟨after, hOld, rfl⟩
      · rw [hEvents]
        exact hFading.unsent
      · rw [hEvents]
        exact hFading.elapsed

theorem Fading.begun
    {setup : Setup}
    {closed index base : Nat}
    {s : Simulation γ}
    (hSilent : s.Silent setup closed)
    (hFading : s.Fading setup closed index base) :
    s.begun.Fading setup closed index base := by
  let Holds (t : Simulation γ) : Prop :=
    t.Silent setup closed ∧
      t.Fading setup closed index base
  have hTicked : Holds s.ticked :=
    ⟨hSilent.next (.tick s), hFading.ticked hSilent⟩
  have hBeacons : Holds s.ticked.beaconsSent := by
    unfold beaconsSent
    split
    · refine List.foldlRecOn _ _ hTicked ?_
      intro t hHolds speaker _
      exact
        ⟨hHolds.1.next (.beacon t speaker),
          hHolds.2.beacon speaker⟩
    · exact hTicked
  have hReadings : Holds s.begun := by
    unfold Simulation.begun readingsSent
    split
    · refine List.foldlRecOn _ _ hBeacons ?_
      intro t hHolds speaker _
      exact
        ⟨hHolds.1.next (.report t speaker),
          hHolds.2.report hHolds.1 speaker⟩
    · exact hBeacons
  exact hReadings.2

------------------------------------------------------------
-- A Turn Is Taken
------------------------------------------------------------

omit [LossSource γ] in
/- Only a packet for an address has an outcome there. -/
theorem unrelated_of_adds
    {s : Simulation γ}
    {index : Nat}
    {a : Address}
    {request : Request}
    (hElsewhere : request.isFor index a = false)
    {event : Nat × Event}
    (hAdds : s.Adds request event) :
    Unrelated index a event := by
  cases hAdds with
  | spoken _ _ _ hNews =>
      exact unrelated_of_news hNews index a
  | heard _ _ _ _ _ _ hNews =>
      exact unrelated_of_news hNews index a
  | received => exact ⟨rfl, by simp⟩
  | concluded sender handover =>
      refine ⟨rfl, ?_⟩
      intro outcome transmissions hSame
      obtain ⟨rfl, hSent⟩ := Prod.mk.inj hSame
      have hNextHop := (Event.sent.inj hSent).1
      simp [Request.isFor, hNextHop] at hElsewhere

omit [LossSource γ] in
theorem Fading.served
    {setup : Setup}
    {closed index base : Nat}
    {s t : Simulation γ}
    (hFading : s.Fading setup closed index base)
    {request : Request}
    (hServed : Served s t request)
    (hElsewhere :
      request.isFor index (addressOf closed) = false) :
    t.Fading setup closed index base := by
  obtain ⟨more, hEvents, hAdds⟩ := hServed.events
  refine hFading.of_append hServed.nodes hServed.steps
    hEvents ?_
  intro event hMem
  exact unrelated_of_adds hElsewhere (hAdds event hMem)

omit [LossSource γ] in
/- Another node took an event out of the queue. -/
theorem Fading.of_pop
    {setup : Setup}
    {closed index base : Nat}
    {s t : Simulation γ}
    (hFading : s.Fading setup closed index base)
    {other : Nat}
    (hOther : other ≠ index)
    {event : Event}
    {next : Node}
    (hEvents :
      s.events.toList = (other, event) :: t.events.toList)
    (hNodes : t.nodes = s.nodes.setIfInBounds other next)
    (hSteps : t.steps = s.steps) :
    t.Fading setup closed index base := by
  have hRest :
      ∀ later ∈ t.events.toList,
        later ∈ s.events.toList := by
    intro later hMem
    rw [hEvents]
    exact List.mem_cons_of_mem _ hMem
  have hTicks : t.ticksFor index = s.ticksFor index := by
    rw [ticksFor_of_pop hEvents, if_neg hOther,
      Nat.add_zero]
  refine hFading.of_same_table ?_ hSteps hTicks ?_ ?_
  · intro node hNode
    rcases node_cases hNodes hNode with
      ⟨hSame, -⟩ | ⟨-, hOld⟩
    · exact absurd hSame.symm hOther
    · exact ⟨node, hOld, rfl⟩
  · intro outcome transmissions hMem
    exact hFading.unsent outcome transmissions
      (hRest _ hMem)
  · intro later hMem
    exact hFading.elapsed later (hRest later hMem)

omit [LossSource γ] in
/- No event that waits for the node renews the closed one. -/
theorem Fading.not_renews
    {setup : Setup}
    {closed index base : Nat}
    {s : Simulation γ}
    (hSilent : s.Silent setup closed)
    (hFading : s.Fading setup closed index base)
    {event : Event}
    (hMem : (index, event) ∈ s.events.toList) :
    ¬ event.Renews (addressOf closed) := by
  intro hRenews
  cases event with
  | received sender packet => exact hRenews
  | elapsed time => exact hRenews
  | announced sender metric =>
      have hSender : sender = addressOf closed := hRenews
      subst hSender
      exact (hSilent.events _ hMem).2 metric rfl
  | sent receiver outcome transmissions =>
      have hReceiver : receiver = addressOf closed :=
        hRenews.1
      subst hReceiver
      exact hFading.unsent outcome transmissions hMem

omit [LossSource γ] in
/- Time passes for the entries that the node keeps. -/
theorem Fading.faded_of_tick
    {setup : Setup}
    {closed index base : Nat}
    {s t : Simulation γ}
    (hSilent : s.Silent setup closed)
    (hFading : s.Fading setup closed index base)
    {node : Node}
    (hNode : s.nodes[index]? = some node)
    {time : Duration}
    (hEvents :
      s.events.toList =
        (index, .elapsed time) :: t.events.toList)
    (hSteps : t.steps = s.steps)
    {n : Neighbor}
    (hMem :
      n ∈ (node.connection.neighbors.tick time).2.entries)
    (hAddress : n.address = addressOf closed) :
    t.Faded setup index base n := by
  have hTime : time = setup.stepTime := by
    apply hFading.elapsed (index, .elapsed time) _ time rfl
    rw [hEvents]
    exact List.mem_cons_self
  have hTicks := ticksFor_of_pop hEvents index
  rw [if_pos rfl] at hTicks
  have hKept := NeighborTable.lt_lifetime_of_mem_tick hMem
  rw [hSilent.lifetimes index node hNode] at hKept
  rcases NeighborTable.mem_tick hMem with ⟨m, hFound, rfl⟩
  rw [hTime] at hKept ⊢
  exact
    (hFading.entries node hNode m hFound
      hAddress).of_tick hSteps hTicks hKept

omit [LossSource γ] in
/- What else the node is told leaves the entry as it is. -/
theorem Fading.faded_of_other
    {setup : Setup}
    {closed index base : Nat}
    {s t : Simulation γ}
    (hSilent : s.Silent setup closed)
    (hFading : s.Fading setup closed index base)
    {node : Node}
    (hNode : s.nodes[index]? = some node)
    {event : Event}
    (hNoTick : ∀ time, event ≠ .elapsed time)
    (hEvents :
      s.events.toList = (index, event) :: t.events.toList)
    (hSteps : t.steps = s.steps)
    {n : Neighbor}
    (hMem :
      n ∈ (node.connection.neighborsAfter event).entries)
    (hAddress : n.address = addressOf closed) :
    t.Faded setup index base n := by
  have hHead : (index, event) ∈ s.events.toList := by
    rw [hEvents]
    exact List.mem_cons_self
  have hTicks : t.ticksFor index = s.ticksFor index := by
    rw [ticksFor_of_pop hEvents, if_pos rfl]
    cases event with
    | elapsed time => exact absurd rfl (hNoTick time)
    | received sender packet => rfl
    | sent receiver outcome transmissions => rfl
    | announced sender metric => rfl
  rcases Connection.mem_neighborsAfter hNoTick hMem with
    ⟨m, hFound, hSame, hAge⟩ | ⟨hRenews, -⟩
  · have hOld :=
      hFading.entries node hNode m hFound
        (hSame.trans hAddress)
    exact hOld.of_clock_eq hSteps hTicks hAge.symm
  · rw [hAddress] at hRenews
    exact absurd hRenews (hFading.not_renews hSilent hHead)

omit [LossSource γ] in
/- The node is told something, and the entry fades. -/
theorem Fading.heard
    {setup : Setup}
    {closed index base : Nat}
    {s t : Simulation γ}
    (hSilent : s.Silent setup closed)
    (hFading : s.Fading setup closed index base)
    {event : Event}
    {node next : Node}
    (hDispatched : Dispatched s t index event node next) :
    t.Fading setup closed index base := by
  have hNode := hDispatched.found
  have hEvents := hDispatched.events
  have hRest :
      ∀ later ∈ t.events.toList,
        later ∈ s.events.toList := by
    intro later hMem
    rw [hEvents]
    exact List.mem_cons_of_mem _ hMem
  constructor
  · intro outcome transmissions hMem
    exact hFading.unsent outcome transmissions
      (hRest _ hMem)
  · intro later hMem
    exact hFading.elapsed later (hRest later hMem)
  · intro after hAfter n hMem hAddress
    rcases node_cases hDispatched.nodes hAfter with
      ⟨-, rfl⟩ | ⟨hNot, -⟩
    · rw [hDispatched.handling.neighbors_eq] at hMem
      by_cases hTick : ∃ time, event = .elapsed time
      · obtain ⟨time, rfl⟩ := hTick
        exact
          hFading.faded_of_tick hSilent hNode hEvents
            hDispatched.steps hMem hAddress
      · exact
          hFading.faded_of_other hSilent hNode
            (fun time hSame => hTick ⟨time, hSame⟩) hEvents
            hDispatched.steps hMem hAddress
    · exact absurd rfl hNot

theorem Fading.turn
    {setup : Setup}
    {closed index base : Nat}
    {s t : Simulation γ}
    (hSilent : s.Silent setup closed)
    (hFading : s.Fading setup closed index base)
    (hOther : index ≠ closed)
    (hElsewhere :
      ∀ request ∈ s.outbox.toList,
        request.isFor index (addressOf closed) = false)
    (hTurn : s.turn? = some t) :
    t.Fading setup closed index base := by
  rcases hSilent.turn_cases hTurn with
    ⟨request, hServed⟩ |
    ⟨other, event, node, next, -, hDispatched⟩ |
    ⟨event, node, next, hIgnored⟩
  · exact
      hFading.served hServed
        (hElsewhere request hServed.mem)
  · by_cases hSame : other = index
    · subst hSame
      exact hFading.heard hSilent hDispatched
    · exact
        hFading.of_pop hSame hDispatched.events
          hDispatched.nodes hDispatched.steps
  · exact
      hFading.of_pop (Ne.symm hOther) hIgnored.events
        hIgnored.nodes hIgnored.steps

------------------------------------------------------------
-- Steps and Runs
------------------------------------------------------------

/-
  Before one of the turns of the next step, a node asks to
  hand a packet to an address.
-/
def HandsOver
    (s : Simulation γ)
    (index : Nat)
    (a : Address) : Prop :=
  ∃ turns, turns < turnsPerStep ∧
    ∃ request ∈ (s.begun.pump turns).outbox.toList,
      request.isFor index a = true

theorem Fading.pump
    {setup : Setup}
    {closed index base : Nat}
    {s : Simulation γ}
    (hSilent : s.Silent setup closed)
    (hFading : s.Fading setup closed index base)
    (hOther : index ≠ closed)
    {budget : Nat}
    (hElsewhere :
      ∀ turns, turns < budget →
        ∀ request ∈ (s.pump turns).outbox.toList,
          request.isFor index (addressOf closed) = false) :
    (s.pump budget).Fading setup closed index base := by
  induction budget generalizing s with
  | zero => exact hFading
  | succ budget ih =>
      unfold Simulation.pump
      cases hTurn : s.turn? with
      | none => exact hFading
      | some next =>
          have hNext :=
            hFading.turn hSilent hOther
              (hElsewhere 0 (Nat.succ_pos budget)) hTurn
          refine ih (hSilent.next (.turn s next hTurn))
            hNext ?_
          intro turns hLess request hMem
          apply hElsewhere (turns + 1)
            (Nat.succ_lt_succ hLess) request
          unfold Simulation.pump
          rw [hTurn]
          exact hMem

theorem Fading.step
    {setup : Setup}
    {closed index base : Nat}
    {s : Simulation γ}
    (hSilent : s.Silent setup closed)
    (hFading : s.Fading setup closed index base)
    (hOther : index ≠ closed)
    (hElsewhere : ¬ s.HandsOver index (addressOf closed)) :
    s.step.Fading setup closed index base := by
  rw [step_eq_pump]
  refine (hFading.begun hSilent).pump
    (hSilent.reaches (reaches_begun s)) hOther ?_
  intro turns hLess request hMem
  rw [← Bool.not_eq_true]
  intro hFor
  exact hElsewhere ⟨turns, hLess, request, hMem, hFor⟩

theorem Fading.run
    {setup : Setup}
    {closed index base : Nat}
    {s : Simulation γ}
    (hSilent : s.Silent setup closed)
    (hFading : s.Fading setup closed index base)
    (hOther : index ≠ closed)
    {steps : Nat}
    (hElsewhere :
      ∀ m, m < steps →
        ¬ (run m s).HandsOver index (addressOf closed)) :
    (run steps s).Fading setup closed index base := by
  induction steps with
  | zero => exact hFading
  | succ steps ih =>
      have hBefore :=
        ih (fun m hLess =>
          hElsewhere m (Nat.lt_succ_of_lt hLess))
      rw [run_succ]
      exact
        hBefore.step
          (hSilent.reaches (reaches_run steps s)) hOther
          (hElsewhere steps (Nat.lt_succ_self steps))

------------------------------------------------------------
-- A Closed Node Is Forgotten
------------------------------------------------------------

omit [LossSource γ] in
/- When nothing waits, no time has passed yet. -/
theorem fading_of_quiet
    {s : Simulation γ}
    (hEvents : s.events.toList = [])
    (setup : Setup)
    (closed index : Nat) :
    s.Fading setup closed index s.steps := by
  constructor
  · intro outcome transmissions hMem
    rw [hEvents] at hMem
    contradiction
  · intro event hMem
    rw [hEvents] at hMem
    contradiction
  · intro node hNode n hMem hAddress
    constructor
    · rw [Nat.sub_self, Nat.zero_sub, Nat.zero_mul,
        Nat.zero_min]
      exact Nat.zero_le _
    · intro hLess
      omega

omit [LossSource γ] in
/- An entry cannot fade for a lifetime. -/
theorem Faded.lt_lifetime
    {setup : Setup}
    {s : Simulation γ}
    {index base : Nat}
    {n : Neighbor}
    (hFaded : s.Faded setup index base n)
    (hTicks : s.ticksFor index = 0)
    (hLifetime : setup.collect.neighborLifetime ≠ 0) :
    (s.steps - base) * setup.stepMillis.toNat <
      1000 * setup.collect.neighborLifetime.toNat := by
  have hAged := hFaded.aged
  have hKept := hFaded.kept
  rw [hTicks] at hAged hKept
  have hSeconds :
      0 < setup.collect.neighborLifetime.toNat := by
    apply Nat.pos_of_ne_zero
    intro hZero
    exact hLifetime (UInt64.toNat_inj.mp hZero)
  have hGreatest :=
    setup.collect.neighborLifetime.toNat_lt
  by_cases hPassed : base < s.steps
  · have hYoung := hKept hPassed
    have hTime :
        setup.stepTime.nanos =
          setup.stepMillis.toNat * 1000000 := rfl
    rw [hTime, Nat.sub_zero, ← Nat.mul_assoc] at hAged
    have hLimit :
        Duration.greatest.nanos =
          18446744073709551616 * 1000000000 - 1 := rfl
    have hSpan :
        (Duration.ofSeconds
            setup.collect.neighborLifetime.toNat 0).nanos =
          setup.collect.neighborLifetime.toNat *
            1000000000 + 0 := rfl
    omega
  · have hNone : s.steps - base = 0 := by
      omega
    rw [hNone, Nat.zero_mul]
    omega

omit [LossSource γ] in
/- Closing a node puts nothing into the queues. -/
theorem queues_closeNode
    {s : Simulation γ}
    (hSound : s.Sound)
    {closed : Nat}
    (hClosed : closed < s.nodes.size) :
    (s.closeNode closed).outbox.toList = s.outbox.toList ∧
      (s.closeNode closed).events.toList =
        s.events.toList := by
  have hNode := Array.getElem?_eq_getElem hClosed
  have hReady := hSound.ready closed _ hNode
  rw [closeNode_eq hNode hReady.isOpen]
  exact ⟨rfl, rfl⟩

/- Between steps nothing waits unless a step runs out. -/
theorem quiet_run
    {s : Simulation γ}
    (hQuiet : s.turn? = none)
    {steps : Nat}
    (hTurns : ∀ m, m < steps → ¬ (run m s).RunsOut) :
    (run steps s).turn? = none := by
  cases steps with
  | zero => exact hQuiet
  | succ steps =>
      exact
        not_runsOut_iff.mp
          (hTurns steps (Nat.lt_succ_self steps))

/-
  A node that was closed is in no table and no parent after
  a lifetime, for every node that hands it no packet during
  that lifetime.
-/
theorem closed_node_is_forgotten
    {setup : Setup}
    {losses : γ}
    (hCheck : setup.check = .ok ())
    {before closed : Nat}
    {s : Simulation γ}
    (hClose :
      s = (run before (start setup losses)).closeNode closed)
    (hClosed : closed < setup.nodeCount.toNat)
    (hQuiet :
      (run before (start setup losses)).turn? = none)
    {first steps : Nat}
    (hTurns :
      ∀ m, m < first + steps → ¬ (run m s).RunsOut)
    (hTime :
      1000 * setup.collect.neighborLifetime.toNat ≤
        steps * setup.stepMillis.toNat)
    {index : Nat}
    (hOther : index ≠ closed)
    (hElsewhere :
      ∀ m, first ≤ m → m < first + steps →
        ¬ (run m s).HandsOver index (addressOf closed))
    {node : Node}
    (hNode :
      (run (first + steps) s).nodes[index]? = some node) :
    addressOf closed ∉ node.connection.neighbors.addresses ∧
      node.connection.parent? ≠ some (addressOf closed) := by
  have hReaches := reaches_run before (start setup losses)
  have hSound :=
    Reaches.sound hReaches (sound_start setup losses)
  have hVicinal := vicinal_of_reaches hReaches
  obtain ⟨-, hFew, -⟩ := bounds_of_check hCheck
  rw [turn?_eq_none_iff] at hQuiet
  have hSilent : s.Silent setup closed := by
    rw [hClose]
    exact
      silent_closeNode hSound hVicinal hFew hQuiet.1 hQuiet.2
        hClosed
  have hStill : s.turn? = none := by
    obtain ⟨hOutbox, hEvents⟩ :=
      queues_closeNode hSound
        (hVicinal.size.symm ▸ hClosed)
    rw [turn?_eq_none_iff, hClose, hOutbox, hEvents]
    exact hQuiet
  -- The node last handed a packet over before this state.
  let u := run first s
  have hStart : u.turn? = none :=
    quiet_run hStill (fun m hLess =>
      hTurns m (Nat.lt_add_right steps hLess))
  have hShift :
      ∀ m, run m u = run (first + m) s :=
    fun m => (run_add first m s).symm
  have hFading :
      (run steps u).Fading setup closed index u.steps := by
    refine Fading.run
      (hSilent.reaches (reaches_run first s))
      (fading_of_quiet (turn?_eq_none_iff.mp hStart).2 setup
        closed index) hOther ?_
    intro m hLess
    rw [hShift]
    exact
      hElsewhere (first + m) (Nat.le_add_right first m)
        (Nat.add_lt_add_left hLess first)
  have hEnd : (run steps u).turn? = none := by
    rw [hShift]
    exact quiet_run hStill hTurns
  have hTicks : (run steps u).ticksFor index = 0 := by
    unfold ticksFor
    rw [(turn?_eq_none_iff.mp hEnd).2]
    rfl
  have hAbsent :
      addressOf closed ∉
        node.connection.neighbors.addresses := by
    intro hMem
    rcases List.mem_map.mp hMem with
      ⟨n, hEntry, hAddress⟩
    rw [← hShift] at hNode
    have hYoung :=
      (hFading.entries node hNode n hEntry
        hAddress).lt_lifetime hTicks
          (lifetime_ne_zero_of_check hCheck)
    rw [(clock_run steps u).2, Nat.add_sub_cancel_left]
      at hYoung
    exact absurd hTime (Nat.not_le_of_lt hYoung)
  exact
    ⟨hAbsent, fun hParent =>
      hAbsent
        (Connection.mem_addresses_of_parent? hParent)⟩

/- When nothing waits, more turns change nothing. -/
theorem pump_of_quiet
    {few : Nat}
    {s : Simulation γ}
    (hQuiet : (s.pump few).turn? = none)
    {many : Nat}
    (hMany : few ≤ many) :
    s.pump many = s.pump few := by
  induction few generalizing s many with
  | zero =>
      have hNone : s.turn? = none := hQuiet
      cases many with
      | zero => rfl
      | succ many =>
          unfold Simulation.pump
          rw [hNone]
  | succ few ih =>
      cases many with
      | zero => contradiction
      | succ many =>
          unfold Simulation.pump at hQuiet ⊢
          cases hTurn : s.turn? with
          | none => rfl
          | some next =>
              rw [hTurn] at hQuiet
              exact ih hQuiet (Nat.le_of_succ_le_succ hMany)

theorem not_handsOver_of_quiet
    {s : Simulation γ}
    {index turns : Nat}
    {a : Address}
    (hQuiet : (s.begun.pump turns).turn? = none)
    (hElsewhere :
      ∀ m < turns,
        ∀ request ∈ (s.begun.pump m).outbox.toList,
          request.isFor index a = false) :
    ¬ s.HandsOver index a := by
  rintro ⟨m, -, request, hMem, hFor⟩
  rcases Nat.lt_or_ge m turns with hLess | hMany
  · rw [hElsewhere m hLess request hMem] at hFor
    contradiction
  · rw [pump_of_quiet hQuiet hMany,
      (turn?_eq_none_iff.mp hQuiet).1] at hMem
    contradiction

/- A line of three nodes that send readings all the time. -/
def busyLine : Setup :=
  { Setup.standard with
    nodeCount := 3
    linkLoss := 0.0
    beaconInterval := 1
    messageInterval := 1
    collect :=
      { Config.standard with neighborLifetime := 2 } }

theorem busyLine_quiet :
    busyLine.check = .ok () ∧
      (run 1
        (start busyLine
          (SeededLosses.ofSeed 0.0 42))).turn? = none := by
  constructor
  · exact check_eq_ok_of_isOk (by decide +kernel)
  · rw [← Option.isNone_iff_eq_none]
    decide +kernel

/- The line after its first step, when one node is closed. -/
def brokenLine
    (closed : Nat) : Simulation SeededLosses :=
  (run 1
    (start busyLine
      (SeededLosses.ofSeed 0.0 42))).closeNode closed

/- The node before the last one forgets the last one. -/
theorem closed_node_is_forgotten_by_next_hop :
    ∃ node later,
      (brokenLine 2).nodes[1]? = some node ∧
        (run 2 (brokenLine 2)).nodes[1]? = some later ∧
        addressOf 2 ∈ node.connection.neighbors.addresses ∧
        addressOf 2 ∉ later.connection.neighbors.addresses ∧
        later.connection.parent? ≠ some (addressOf 2) := by
  obtain ⟨hCheck, hQuiet⟩ := busyLine_quiet
  have hStep :
      ∀ m < 2,
        (run (m + 1) (brokenLine 2)).turn?.isNone = true ∧
          ((run m (brokenLine 2)).begun.pump
            12).turn?.isNone = true ∧
          ∀ turns < 12,
            ∀ request ∈
                ((run m (brokenLine 2)).begun.pump
                  turns).outbox.toList,
              request.isFor 1 (addressOf 2) = false := by
    decide +kernel
  have hBefore :
      (brokenLine 2).nodes[1]?.any (fun node =>
        node.connection.neighbors.contains (addressOf 2)) =
          true := by
    decide +kernel
  have hAfter :
      (run 2 (brokenLine 2)).nodes[1]?.isSome = true := by
    decide +kernel
  rcases (Option.any_eq_true _ _).mp hBefore with
    ⟨node, hNode, hEntry⟩
  rcases Option.isSome_iff_exists.mp hAfter with
    ⟨later, hLater⟩
  refine
    ⟨node, later, hNode, hLater,
      (NeighborTable.contains_iff _ _).mp hEntry, ?_⟩
  have hTurns :
      ∀ m, m < 0 + 2 → ¬ (run m (brokenLine 2)).RunsOut := by
    intro m hLess
    exact
      not_runsOut_iff.mpr
        (Option.isNone_iff_eq_none.mp (hStep m hLess).1)
  have hElsewhere :
      ∀ m, 0 ≤ m → m < 0 + 2 →
        ¬ (run m (brokenLine 2)).HandsOver 1
          (addressOf 2) := by
    intro m _ hLess
    obtain ⟨-, hNone, hNever⟩ := hStep m hLess
    exact
      not_handsOver_of_quiet
        (Option.isNone_iff_eq_none.mp hNone) hNever
  exact
    closed_node_is_forgotten hCheck rfl (by decide) hQuiet
      hTurns (by decide) (by decide) hElsewhere hLater

/-
  A node that hands packets to the closed node has them
  acknowledged, and keeps the closed node as its parent.
-/
theorem packets_keep_closed_node :
    ¬ ∀ (setup : Setup) (losses : SeededLosses)
        (before closed steps index : Nat)
        (s : Simulation SeededLosses) (node : Node),
      setup.check = .ok () →
        s =
          (run before
            (start setup losses)).closeNode closed →
        closed < setup.nodeCount.toNat →
        (run before (start setup losses)).turn? = none →
        (∀ m, m < steps → ¬ (run m s).RunsOut) →
        1000 * setup.collect.neighborLifetime.toNat ≤
          steps * setup.stepMillis.toNat →
        index ≠ closed →
        (run steps s).nodes[index]? = some node →
        addressOf closed ∉
            node.connection.neighbors.addresses ∧
          node.connection.parent? ≠
            some (addressOf closed) := by
  intro hAlways
  obtain ⟨hCheck, hQuiet⟩ := busyLine_quiet
  have hTurns :
      ∀ m < 2,
        (run (m + 1) (brokenLine 1)).turn?.isNone =
          true := by
    decide +kernel
  have hAfter :
      (run 2 (brokenLine 1)).nodes[2]?.any (fun node =>
        node.connection.parent? == some (addressOf 1)) =
          true := by
    decide +kernel
  rcases (Option.any_eq_true _ _).mp hAfter with
    ⟨node, hNode, hParent⟩
  have hForgotten :=
    hAlways busyLine (SeededLosses.ofSeed 0.0 42) 1 1 2 2
      (brokenLine 1) node hCheck rfl (by decide) hQuiet
      (fun m hLess =>
        not_runsOut_iff.mpr
          (Option.isNone_iff_eq_none.mp (hTurns m hLess)))
      (by decide) (by decide) hNode
  exact hForgotten.2 (beq_iff_eq.mp hParent)

end Runs

end Simulation

end CollectionTree
