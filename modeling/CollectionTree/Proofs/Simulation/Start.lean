import CollectionTree.Proofs.Simulation.Moves

/-
  The state that every run of a simulation begins with.

  Key definitions include:
    * `Simulation.openedNode`
    * `Simulation.sinkNode`
    * `Simulation.firstNode`
    * `Simulation.firstRequests`

  Key theorems include:
    * `Setup.check_eq_ok_iff`
    * `Simulation.nodes_start`
    * `Simulation.outbox_start`
    * `Simulation.new?_eq_ok_iff`
    * `Simulation.sound_start`

  Every node is open and has asked to be heard and to hear
  its neighbors, and node 0 has become the sink.
-/

namespace CollectionTree

------------------------------------------------------------
-- Accepted Setups
------------------------------------------------------------

/- All tests of a setup are passed. -/
theorem Setup.check_eq_ok_iff
    {setup : Setup} :
    setup.check = .ok () ↔
      1 ≤ setup.nodeCount.toNat ∧
        setup.nodeCount.toNat ≤ 255 ∧
        Setup.isProbability setup.linkLoss = true ∧
        1 ≤ setup.beaconInterval.toNat ∧
        setup.collect.validate = .ok () := by
  have hCount :
      ¬ (setup.nodeCount = 0 ∨ 255 < setup.nodeCount) ↔
        1 ≤ setup.nodeCount.toNat ∧
          setup.nodeCount.toNat ≤ 255 := by
    rw [UInt64.lt_iff_toNat_lt, ← UInt64.toNat_inj]
    change
      ¬ (setup.nodeCount.toNat = 0 ∨
        255 < setup.nodeCount.toNat) ↔ _
    omega
  have hInterval :
      setup.beaconInterval ≠ 0 ↔
        1 ≤ setup.beaconInterval.toNat := by
    rw [Ne, ← UInt64.toNat_inj, UInt64.toNat_zero]
    omega
  unfold Setup.check
  rw [← and_assoc]
  by_cases hNodes :
      setup.nodeCount = 0 ∨ 255 < setup.nodeCount
  · rw [if_pos hNodes]
    exact iff_of_false nofun (fun h => hCount.mpr h.1 hNodes)
  rw [if_neg hNodes, and_iff_right (hCount.mp hNodes)]
  cases Setup.isProbability setup.linkLoss with
  | false => exact iff_of_false nofun nofun
  | true =>
      rw [Bool.not_true, if_neg Bool.false_ne_true,
        and_iff_right rfl]
      by_cases hZero : setup.beaconInterval = 0
      · rw [if_pos hZero]
        exact
          iff_of_false nofun
            (fun h => hInterval.mpr h.1 hZero)
      · rw [if_neg hZero, and_iff_right (hInterval.mp hZero)]

namespace Simulation

variable {γ : Type}

------------------------------------------------------------
-- First Nodes
------------------------------------------------------------

/- The connection of a node that was just opened. -/
def openedConnection
    (setup : Setup)
    (index : Nat) : Connection :=
  { Connection.withConfig (addressOf index) setup.collect with
    isOpen := true }

/- A node that was just opened. -/
def openedNode
    (setup : Setup)
    (index : Nat) : Node :=
  { connection := openedConnection setup index
    channel := some (channel + 1)
    inFlight := false
    announced := some Metric.unreachable
    received := Queue.empty }

/- What a node asks of the radio when it is opened. -/
def openingRequests
    (setup : Setup)
    (index : Nat) : List Request :=
  [ .announce index Metric.unreachable,
    .listen index setup.collect.openListenBursts ]

/- Node 0 when it has become the sink. -/
def sinkNode
    (setup : Setup) : Node :=
  { openedNode setup 0 with
    connection :=
      { openedConnection setup 0 with
        metric := Metric.sink
        role := .sink
        stats := Connection.countMetricChange Stats.zero }
    announced := some Metric.sink }

/- A node at the start of a run. -/
def firstNode
    (setup : Setup)
    (index : Nat) : Node :=
  if index = 0 then
    sinkNode setup
  else
    openedNode setup index

------------------------------------------------------------
-- Opening the Nodes
------------------------------------------------------------

/- Nothing was done to any node. -/
def idle
    (setup : Setup)
    (losses : γ) : Simulation γ :=
  { setup := setup
    nodes := freshNodes setup
    outbox := Queue.empty
    events := Queue.empty
    steps := 0
    losses := losses
    traffic := Traffic.zero }

/- A number of nodes were opened. -/
def opened
    (setup : Setup)
    (losses : γ)
    (count : Nat) : Simulation γ :=
  (List.range count).foldl openNode (idle setup losses)

theorem start_eq
    (setup : Setup)
    (losses : γ) :
    start setup losses =
      ((opened setup losses setup.nodeCount.toNat).perform 0
        (.setSink true)).1 :=
  rfl

theorem opened_succ
    (setup : Setup)
    (losses : γ)
    (count : Nat) :
    opened setup losses (count + 1) =
      (opened setup losses count).openNode count := by
  unfold opened
  rw [List.range_succ, List.foldl_append]
  rfl

/- An operation changes nodes and requests and nothing else. -/
theorem perform_frame
    (s : Simulation γ)
    (index : Nat)
    (operation : Operation) :
    (s.perform index operation).1 =
      { s with
        nodes := (s.perform index operation).1.nodes
        outbox := (s.perform index operation).1.outbox } := by
  unfold Simulation.perform
  cases s.nodes[index]? <;> rfl

theorem opened_frame
    (setup : Setup)
    (losses : γ)
    (count : Nat) :
    opened setup losses count =
      { idle setup losses with
        nodes := (opened setup losses count).nodes
        outbox := (opened setup losses count).outbox } := by
  induction count with
  | zero => rfl
  | succ count ih =>
      rw [opened_succ, openNode, perform_frame, ih]

theorem nodes_idle
    (setup : Setup)
    (losses : γ)
    (index : Nat) :
    (idle setup losses).nodes[index]? =
      if index < setup.nodeCount.toNat then
        some
          (Node.new
            (Connection.withConfig (addressOf index)
              setup.collect))
      else
        none := by
  unfold idle freshNodes
  simp only [List.getElem?_toArray, List.getElem?_map]
  by_cases hBound : index < setup.nodeCount.toNat
  · rw [if_pos hBound, List.getElem?_range hBound]
    rfl
  · rw [if_neg hBound, Option.map_eq_none_iff]
    exact List.getElem?_eq_none (by simpa using hBound)

/- The nodes that come first are opened first. -/
theorem opened_spec
    (setup : Setup)
    (losses : γ)
    {count : Nat}
    (hCount : count ≤ setup.nodeCount.toNat) :
    (∀ index,
      (opened setup losses count).nodes[index]? =
        if index < count then
          some (openedNode setup index)
        else
          (idle setup losses).nodes[index]?) ∧
      (opened setup losses count).outbox.toList =
        (List.range count).flatMap
          (openingRequests setup) := by
  induction count with
  | zero =>
      constructor
      · intro index
        rw [if_neg (Nat.not_lt_zero index)]
        rfl
      · rfl
  | succ count ih =>
      obtain ⟨hNodes, hOutbox⟩ := ih (Nat.le_of_succ_le hCount)
      have hFresh := hNodes count
      rw [if_neg (Nat.lt_irrefl count), nodes_idle,
        if_pos (Nat.lt_of_succ_le hCount)] at hFresh
      have hBound :
          count < (opened setup losses count).nodes.size :=
        (Array.getElem?_eq_some_iff.mp hFresh).1
      have hOpen :
          opened setup losses (count + 1) =
            (opened setup losses count).update count
              (openedNode setup count)
              (openingRequests setup count) := by
        rw [opened_succ, openNode, Simulation.perform, hFresh]
        rfl
      rw [hOpen, update]
      constructor
      · intro index
        simp only [Array.getElem?_setIfInBounds]
        by_cases hSame : count = index
        · subst hSame
          simp [hBound]
        · simp only [hSame, if_false, hNodes index]
          by_cases hBefore : index < count
          · rw [if_pos hBefore,
              if_pos (Nat.lt_succ_of_lt hBefore)]
          · rw [if_neg hBefore, if_neg (by omega)]
      · rw [Queue.toList_pushAll, hOutbox, List.range_succ,
          List.flatMap_append]
        simp

------------------------------------------------------------
-- The Start
------------------------------------------------------------

/- What waits to be served at the start of a run. -/
def firstRequests
    (setup : Setup) : List Request :=
  (List.range setup.nodeCount.toNat).flatMap
      (openingRequests setup) ++
    if 0 < setup.nodeCount.toNat then
      [.announce 0 Metric.sink]
    else
      []

theorem start_frame
    (setup : Setup)
    (losses : γ) :
    start setup losses =
      { idle setup losses with
        nodes := (start setup losses).nodes
        outbox := (start setup losses).outbox } := by
  rw [start_eq, perform_frame, opened_frame]

/- Node 0 becomes the sink after all nodes were opened. -/
theorem start_spec
    (setup : Setup)
    (losses : γ) :
    (∀ index,
      (start setup losses).nodes[index]? =
        if index < setup.nodeCount.toNat then
          some (firstNode setup index)
        else
          none) ∧
      (start setup losses).outbox.toList =
        firstRequests setup := by
  obtain ⟨hNodes, hOutbox⟩ :=
    opened_spec setup losses
      (Nat.le_refl setup.nodeCount.toNat)
  have hNone :
      ∀ index, ¬ index < setup.nodeCount.toNat →
        (idle setup losses).nodes[index]? = none := by
    intro index hBound
    rw [nodes_idle, if_neg hBound]
  have hZero := hNodes 0
  by_cases hSome : 0 < setup.nodeCount.toNat
  · rw [if_pos hSome] at hZero
    have hBound :
        0 < (opened setup losses
          setup.nodeCount.toNat).nodes.size :=
      (Array.getElem?_eq_some_iff.mp hZero).1
    have hStart :
        start setup losses =
          (opened setup losses setup.nodeCount.toNat).update
            0 (sinkNode setup) [.announce 0 Metric.sink] := by
      rw [start_eq, Simulation.perform, hZero]
      rfl
    rw [hStart, update]
    constructor
    · intro index
      simp only [Array.getElem?_setIfInBounds]
      by_cases hFirst : 0 = index
      · subst hFirst
        simp [hBound, hSome, firstNode]
      · simp only [hFirst, if_false, hNodes index]
        by_cases hIndex : index < setup.nodeCount.toNat
        · simp only [if_pos hIndex, firstNode,
            if_neg (Ne.symm hFirst)]
        · rw [if_neg hIndex, if_neg hIndex,
            hNone index hIndex]
    · rw [Queue.toList_pushAll, hOutbox, firstRequests,
        if_pos hSome]
  · rw [if_neg hSome, hNone 0 hSome] at hZero
    have hStart :
        start setup losses =
          opened setup losses setup.nodeCount.toNat := by
      rw [start_eq, Simulation.perform, hZero]
    rw [hStart]
    constructor
    · intro index
      have hIndex : ¬ index < setup.nodeCount.toNat := by
        omega
      rw [hNodes index, if_neg hIndex, if_neg hIndex,
        hNone index hIndex]
    · rw [hOutbox, firstRequests, if_neg hSome,
        List.append_nil]

theorem nodes_start
    (setup : Setup)
    (losses : γ)
    (index : Nat) :
    (start setup losses).nodes[index]? =
      if index < setup.nodeCount.toNat then
        some (firstNode setup index)
      else
        none :=
  (start_spec setup losses).1 index

theorem outbox_start
    (setup : Setup)
    (losses : γ) :
    (start setup losses).outbox.toList =
      firstRequests setup :=
  (start_spec setup losses).2

theorem events_start
    (setup : Setup)
    (losses : γ) :
    (start setup losses).events.toList = [] := by
  rw [start_frame]
  rfl

theorem traffic_start
    (setup : Setup)
    (losses : γ) :
    (start setup losses).traffic = Traffic.zero := by
  rw [start_frame]
  rfl

theorem size_nodes_start
    (setup : Setup)
    (losses : γ) :
    (start setup losses).nodes.size =
      setup.nodeCount.toNat := by
  have hBound :
      ∀ index,
        index < (start setup losses).nodes.size ↔
          index < setup.nodeCount.toNat := by
    intro index
    have hNode := nodes_start setup losses index
    constructor
    · intro hSize
      rw [Array.getElem?_eq_getElem hSize] at hNode
      by_cases hCount : index < setup.nodeCount.toNat
      · exact hCount
      · rw [if_neg hCount] at hNode
        contradiction
    · intro hCount
      rw [if_pos hCount] at hNode
      exact (Array.getElem?_eq_some_iff.mp hNode).1
  exact Nat.le_antisymm
    (Nat.le_of_not_lt (fun hLess =>
      Nat.lt_irrefl _ ((hBound _).mp hLess)))
    (Nat.le_of_not_lt (fun hLess =>
      Nat.lt_irrefl _ ((hBound _).mpr hLess)))

/- A simulation is the start for a setup that is checked. -/
theorem new?_eq_ok_iff
    {setup : Setup}
    {s : Simulation SeededLosses} :
    new? setup = .ok s ↔
      setup.check = .ok () ∧
        s =
          start setup
            (SeededLosses.ofSeed setup.linkLoss
              setup.seed) := by
  unfold new?
  cases hCheck : setup.check with
  | error failure => simp
  | ok _ => simp [eq_comm]

theorem check_eq_ok_of_isOk
    {setup : Setup}
    (hOk : setup.check.isOk = true) :
    setup.check = .ok () := by
  cases hCheck : setup.check with
  | error failure =>
      rw [hCheck] at hOk
      contradiction
  | ok _ => rfl

/- There are nodes, and no more than there are addresses. -/
theorem bounds_of_check
    {setup : Setup}
    (hCheck : setup.check = .ok ()) :
    0 < setup.nodeCount.toNat ∧
      setup.nodeCount.toNat ≤ 255 ∧
      0 < setup.beaconInterval.toNat := by
  rcases Setup.check_eq_ok_iff.mp hCheck with
    ⟨hSome, hFew, -, hInterval, -⟩
  exact ⟨hSome, hFew, hInterval⟩

/- The settings of an accepted setup are accepted. -/
theorem collect_check_of_check
    {setup : Setup}
    (hCheck : setup.check = .ok ()) :
    setup.collect.check = .ok () := by
  rcases Setup.check_eq_ok_iff.mp hCheck with
    ⟨-, -, -, -, hConfig⟩
  unfold Config.validate at hConfig
  split at hConfig
  next hValid => exact hValid
  next => contradiction

/- The lifetime of an accepted setup is not zero. -/
theorem lifetime_ne_zero_of_check
    {setup : Setup}
    (hCheck : setup.check = .ok ()) :
    setup.collect.neighborLifetime ≠ 0 := by
  have hConfig := collect_check_of_check hCheck
  intro hZero
  unfold Config.check at hConfig
  rw [if_pos hZero] at hConfig
  split at hConfig <;> contradiction

/- A packet of an accepted setup may make a hop. -/
theorem maxHopLimit_ne_zero_of_check
    {setup : Setup}
    (hCheck : setup.check = .ok ()) :
    setup.collect.maxHopLimit ≠ 0 := by
  have hConfig := collect_check_of_check hCheck
  intro hZero
  unfold Config.check at hConfig
  rw [if_pos hZero] at hConfig
  split at hConfig
  · contradiction
  split at hConfig
  · contradiction
  split at hConfig <;> contradiction

------------------------------------------------------------
-- The Start Is Sound
------------------------------------------------------------

theorem ready_firstNode
    (setup : Setup)
    (index : Nat) :
    (firstNode setup index).Ready index := by
  have hLinks :
      (openedConnection setup index).neighbors.Positive := by
    intro n hMem
    exact absurd hMem List.not_mem_nil
  unfold firstNode
  by_cases hZero : index = 0
  · subst hZero
    rw [if_pos rfl]
    exact
      { address := rfl
        isOpen := rfl
        channel := rfl
        announced := rfl
        role_iff := by simp [sinkNode]
        coherent :=
          { links := hLinks
            sink := fun _ => rfl
            role := fun hRole => absurd rfl hRole
            metric := fun hRole => absurd rfl hRole }
        agree := rfl }
  · rw [if_neg hZero]
    exact
      { address := rfl
        isOpen := rfl
        channel := rfl
        announced := rfl
        role_iff := by
          constructor
          · intro hRole
            contradiction
          · intro hIndex
            exact absurd hIndex hZero
        coherent :=
          { links := hLinks
            sink := fun hRole => by contradiction
            role := fun _ => rfl
            metric := fun _ => rfl }
        agree := rfl }

theorem mem_firstRequests
    {setup : Setup}
    {request : Request}
    (hMem : request ∈ firstRequests setup) :
    request.node < setup.nodeCount.toNat ∧
      request.isUnicast = false := by
  unfold firstRequests at hMem
  rcases List.mem_append.mp hMem with hOpening | hSink
  · rcases List.mem_flatMap.mp hOpening with
      ⟨index, hRange, hRequest⟩
    have hBound := List.mem_range.mp hRange
    simp only [openingRequests, List.mem_cons,
      List.not_mem_nil, or_false] at hRequest
    rcases hRequest with rfl | rfl
    · exact ⟨hBound, rfl⟩
    · exact ⟨hBound, rfl⟩
  · split at hSink
    next hSome =>
      rw [List.mem_singleton] at hSink
      subst hSink
      exact ⟨hSome, rfl⟩
    next => contradiction

theorem sound_start
    (setup : Setup)
    (losses : γ) :
    (start setup losses).Sound := by
  refine
    { ready := ?_
      requests := ?_
      events := ?_ }
  · intro index node hNode
    rw [nodes_start] at hNode
    split at hNode
    · rw [Option.some.injEq] at hNode
      exact hNode ▸ ready_firstNode setup index
    · contradiction
  · intro request hMem
    rw [outbox_start] at hMem
    rw [size_nodes_start]
    exact (mem_firstRequests hMem).1
  · intro event hMem
    rw [events_start] at hMem
    contradiction

end Simulation

end CollectionTree
