import CollectionTree.Proofs.Probability
import CollectionTree.Proofs.Simulation.Clock
import CollectionTree.Proofs.Simulation.Gossip
import CollectionTree.Proofs.Simulation.Guarded

/-
  Runs of a simulation with a guard at every place where one
  of their steps might have no result.

  Key definitions include:
    * `Setup.Acceptable`
    * `Guarded.turn?`
    * `Guarded.step`
    * `Guarded.run`
    * `Guarded.start`
    * `Simulation.Intact`
    * `Simulation.Defined`

  Key theorems include:
    * `Setup.acceptable_iff`
    * `Simulation.Intact.next`
    * `Guarded.turn_eq`
    * `Guarded.step_eq`
    * `Guarded.run_eq`
    * `Guarded.start_eq`
    * `Simulation.accepted_setups_never_fail`

  What a step relies on was checked elsewhere: when the
  setup was accepted, when something was put in a queue, or
  when a memory was made.  An intact simulation has all of
  it, and passes all guards.
-/

namespace CollectionTree

------------------------------------------------------------
-- Accepted Setups
------------------------------------------------------------

namespace Setup

/-
  A setup is within its bounds.  The probability of a loss
  is a number.
-/
structure Acceptable
    (setup : Setup) : Prop where
  some_nodes : 1 ≤ setup.nodeCount.toNat
  few_nodes : setup.nodeCount.toNat ≤ 255
  linkLoss :
    ∃ q, Probability.value? setup.linkLoss = some q ∧
      0 ≤ q ∧ q ≤ 1
  interval : 1 ≤ setup.beaconInterval.toNat
  settings : setup.collect.validate = .ok ()

theorem acceptable_iff
    {setup : Setup} :
    setup.Acceptable ↔ setup.check = .ok () := by
  rw [check_eq_ok_iff, Probability.isProbability_iff]
  constructor
  · intro hAcceptable
    exact
      ⟨hAcceptable.some_nodes, hAcceptable.few_nodes,
        hAcceptable.linkLoss, hAcceptable.interval,
        hAcceptable.settings⟩
  · rintro ⟨hSome, hFew, hLoss, hInterval, hSettings⟩
    exact ⟨hSome, hFew, hLoss, hInterval, hSettings⟩

end Setup

namespace Guarded

variable {γ : Type}

------------------------------------------------------------
-- Turns and Steps
------------------------------------------------------------

section Steps

variable [LossSource γ]

/- One turn; `none` when nothing waits to be done. -/
def turn?
    (s : Simulation γ) :
    Except Fault (Option (Simulation γ)) :=
  match s.outbox.pop? with
  | some (request, outbox) => do
      let next ← serve { s with outbox := outbox } request
      pure (some next)
  | none =>
      match s.events.pop? with
      | some ((index, event), events) => do
          let next ←
            dispatch { s with events := events } index event
          pure (some next)
      | none => pure none

/- Take turns, at most a number of them. -/
def pump :
    Nat → Simulation γ → Except Fault (Simulation γ)
  | 0, s => pure s
  | budget + 1, s => do
      match ← turn? s with
      | none => pure s
      | some next => pump budget next

/- Send the metric of a node that announces one. -/
def beacon
    (s : Simulation γ)
    (index : Nat) : Except Fault (Simulation γ) := do
  let node ← nodeAt s index
  match node.announced with
  | none => pure s
  | some metric => broadcast s index metric

/- Send the beacons that are due. -/
def beaconsSent
    (s : Simulation γ) : Except Fault (Simulation γ) := do
  let sinceLast ←
    remainder s.steps s.setup.beaconInterval.toNat
  if sinceLast = 0 then
    (List.range s.nodes.size).foldlM beacon s
  else
    pure s

omit [LossSource γ] in
/- Send the readings that are due; there may never be any. -/
def readingsSent
    (s : Simulation γ) : Except Fault (Simulation γ) :=
  if s.setup.messageInterval = 0 then
    pure s
  else do
    let sinceLast ←
      remainder s.steps s.setup.messageInterval.toNat
    if sinceLast = 0 then
      (List.range s.nodes.size).foldlM report s
    else
      pure s

/- One step. -/
def step
    (s : Simulation γ) : Except Fault (Simulation γ) := do
  let announced ← beaconsSent s.ticked
  let reported ← readingsSent announced
  pump Simulation.turnsPerStep reported

/- A number of steps. -/
def run :
    Nat → Simulation γ → Except Fault (Simulation γ)
  | 0, s => pure s
  | n + 1, s => do
      let next ← step s
      run n next

end Steps

end Guarded

namespace Simulation

variable {γ : Type}

------------------------------------------------------------
-- Intact Simulations
------------------------------------------------------------

/- What the nodes remember is where it belongs. -/
def MemoriesIntact
    (s : Simulation γ) : Prop :=
  ∀ (index : Nat) (node : Node),
    s.nodes[index]? = some node → node.connection.Intact

theorem MemoriesIntact.of_nodes_eq
    {s t : Simulation γ}
    (hMemories : s.MemoriesIntact)
    (hNodes : t.nodes = s.nodes) :
    t.MemoriesIntact := by
  unfold MemoriesIntact
  rw [hNodes]
  exact hMemories

theorem MemoriesIntact.update
    {s t : Simulation γ}
    (hMemories : s.MemoriesIntact)
    {index : Nat}
    {next : Node}
    (hNext : next.connection.Intact)
    (hNodes : t.nodes = s.nodes.setIfInBounds index next) :
    t.MemoriesIntact := by
  intro other node hNode
  rcases node_cases hNodes hNode with
    ⟨-, rfl⟩ | ⟨-, hOld⟩
  · exact hNext
  · exact hMemories other node hOld

theorem MemoriesIntact.prepared
    {s : Simulation γ}
    (hMemories : s.MemoriesIntact)
    {index : Nat}
    {node : Node}
    (hNode : s.nodes[index]? = some node)
    (event : Event) :
    (prepare node event).connection.Intact := by
  rw [node.connection_prepare]
  exact hMemories index node hNode

theorem MemoriesIntact.dispatch
    {s : Simulation γ}
    (hMemories : s.MemoriesIntact)
    (index : Nat)
    (event : Event) :
    (s.dispatch index event).MemoriesIntact := by
  unfold Simulation.dispatch
  cases hNode : s.nodes[index]? with
  | none => exact hMemories
  | some node =>
      have hPrepared := hMemories.prepared hNode event
      exact
        hMemories.update
          (Node.intact_perform hPrepared index
            (.handle event))
          rfl

theorem MemoriesIntact.report
    {s : Simulation γ}
    (hMemories : s.MemoriesIntact)
    (index : Nat) :
    (s.report index).MemoriesIntact := by
  unfold Simulation.report
  cases hNode : s.nodes[index]? with
  | none => exact hMemories
  | some node =>
      simp only
      split
      · exact hMemories
      · have hNext :=
          Node.intact_perform (hMemories index node hNode)
            index
            (.send (reading s.steps node.connection.address)
              s.setup.maxRexmit)
        rw [countReading_eq, perform, hNode]
        exact hMemories.update hNext rfl

/-
  Queues name nodes that exist, there is time between two
  beacons, and memories are intact.
-/
structure Intact
    (s : Simulation γ) : Prop where
  sound : s.Sound
  interval : s.setup.beaconInterval.toNat ≠ 0
  memories : s.MemoriesIntact

theorem Intact.interval_ne_zero
    {s : Simulation γ}
    (hIntact : s.Intact) :
    s.setup.beaconInterval ≠ 0 := by
  intro hZero
  apply hIntact.interval
  rw [hZero]
  rfl

section Runs

variable [LossSource γ]

theorem nodes_serve
    (s : Simulation γ)
    (request : Request) :
    (s.serve request).nodes = s.nodes := by
  cases request with
  | announce sender metric => rfl
  | listen listener bursts => rfl
  | unicast sender handover =>
      exact (serveUnicast_frame s sender handover).2.1

theorem Intact.next
    {s t : Simulation γ}
    (hIntact : s.Intact)
    (hNext : Next s t) :
    t.Intact := by
  have hMove := hNext.move hIntact.sound
  have hMemories := hIntact.memories
  refine
    { sound := hMove.sound hIntact.sound
      interval := by
        rw [hMove.setup_eq]
        exact hIntact.interval
      memories := ?_ }
  cases hNext with
  | tick => exact hMemories
  | beacon index =>
      exact
        hMemories.of_nodes_eq
          (Simulation.beacon_frame s index).2.1
  | report index => exact hMemories.report index
  | turn _ hTurn =>
      rcases turn_queues hTurn with
        ⟨request, outbox, -, rfl⟩ |
        ⟨index, event, events, -, -, rfl⟩
      · exact hMemories.of_nodes_eq (nodes_serve _ request)
      · exact
          MemoriesIntact.dispatch
            (s := { s with events := events }) hMemories
            index event

theorem Intact.reaches
    {s t : Simulation γ}
    (hIntact : s.Intact)
    (hReaches : Reaches s t) :
    t.Intact := by
  induction hReaches with
  | refl => exact hIntact
  | tail _ hNext ih => exact ih.next hNext

end Runs

/- The tables of the first nodes are empty. -/
theorem intact_start
    {setup : Setup}
    (hCheck : setup.check = .ok ())
    (losses : γ) :
    (start setup losses).Intact where
  sound := sound_start setup losses
  interval := by
    rw [start_frame]
    exact Nat.ne_zero_of_lt (bounds_of_check hCheck).2.2
  memories := by
    intro index node hNode
    have hEmpty :=
      Connection.intact_withConfig (addressOf index)
        setup.collect
    rw [nodes_start] at hNode
    split at hNode
    next =>
      rw [← Option.some.inj hNode]
      unfold firstNode
      split
      next hZero =>
        rw [hZero] at hEmpty
        exact { hEmpty with }
      next => exact { hEmpty with }
    next => contradiction

end Simulation

namespace Guarded

variable {γ : Type}

------------------------------------------------------------
-- All Guards Are Passed
------------------------------------------------------------

theorem dispatch_eq
    {s : Simulation γ}
    (hIntact : s.Intact)
    {events : Queue (Nat × Event)}
    {index : Nat}
    (hIndex : index < s.nodes.size)
    (event : Event) :
    dispatch { s with events := events } index event =
      .ok
        (Simulation.dispatch { s with events := events }
          index event) := by
  have hNode := Array.getElem?_eq_getElem hIndex
  have hPrepared := hIntact.memories.prepared hNode event
  unfold dispatch Simulation.dispatch
  rw [nodeAt_eq (s := { s with events := events }) hNode]
  simp only [bind, Except.bind, hNode,
    performNode_eq hPrepared]
  rfl

theorem report_eq
    {s : Simulation γ}
    (hIntact : s.Intact)
    {index : Nat}
    (hIndex : index < s.nodes.size) :
    report s index = .ok (s.report index) := by
  have hNode := Array.getElem?_eq_getElem hIndex
  have hMemory := hIntact.memories index _ hNode
  unfold report Simulation.report
  rw [nodeAt_eq hNode]
  simp only [bind, Except.bind, hNode]
  split
  · rfl
  · rw [performNode_eq hMemory]
    simp only [Simulation.perform, hNode]
    rfl

section Runs

variable [LossSource γ]

theorem beacon_eq
    {s : Simulation γ}
    {index : Nat}
    (hIndex : index < s.nodes.size) :
    beacon s index = .ok (s.beacon index) := by
  have hNode := Array.getElem?_eq_getElem hIndex
  unfold beacon Simulation.beacon Simulation.announced?
  rw [nodeAt_eq hNode, hNode]
  simp only [bind, Except.bind, Option.bind_some]
  cases s.nodes[index].announced with
  | none => rfl
  | some metric => exact broadcast_eq hIndex metric

theorem turn_eq
    {s : Simulation γ}
    (hIntact : s.Intact) :
    turn? s = .ok s.turn? := by
  have hSound := hIntact.sound
  unfold turn? Simulation.turn?
  cases hPop : s.outbox.pop? with
  | some popped =>
      rcases popped with ⟨request, outbox⟩
      have hNode : request.node < s.nodes.size := by
        apply hSound.requests request
        rw [Queue.toList_eq_cons_of_pop? hPop]
        exact List.mem_cons_self
      simp only
      rw [serve_eq (s := { s with outbox := outbox }) hNode]
      rfl
  | none =>
      simp only
      cases hNext : s.events.pop? with
      | none => rfl
      | some popped =>
          rcases popped with ⟨⟨index, event⟩, events⟩
          have hIndex : index < s.nodes.size := by
            apply hSound.events (index, event)
            rw [Queue.toList_eq_cons_of_pop? hNext]
            exact List.mem_cons_self
          simp only
          rw [dispatch_eq hIntact hIndex]
          rfl

theorem pump_eq
    (budget : Nat)
    {s : Simulation γ}
    (hIntact : s.Intact) :
    pump budget s = .ok (s.pump budget) := by
  induction budget generalizing s with
  | zero => rfl
  | succ budget ih =>
      unfold pump Simulation.pump
      rw [turn_eq hIntact]
      cases hTurn : s.turn? with
      | none => rfl
      | some next =>
          exact ih (hIntact.next (.turn s next hTurn))

/- What is done at every node passes the guards of each. -/
theorem foldlM_eq
    {guarded :
      Simulation γ → Nat → Except Fault (Simulation γ)}
    {action : Simulation γ → Nat → Simulation γ}
    (hNext : ∀ s index, Simulation.Next s (action s index))
    (hGuarded :
      ∀ {s : Simulation γ} {index : Nat},
        s.Intact → index < s.nodes.size →
          guarded s index = .ok (action s index))
    {indices : List Nat}
    {s : Simulation γ}
    (hIntact : s.Intact)
    (hIndices : ∀ index ∈ indices, index < s.nodes.size) :
    indices.foldlM guarded s =
      .ok (indices.foldl action s) := by
  induction indices generalizing s with
  | nil => rfl
  | cons index rest ih =>
      have hMove := (hNext s index).move hIntact.sound
      have hRest :
          ∀ other ∈ rest,
            other < (action s index).nodes.size := by
        intro other hMem
        rw [hMove.size_nodes]
        exact
          hIndices other (List.mem_cons_of_mem index hMem)
      rw [List.foldlM_cons,
        hGuarded hIntact (hIndices index List.mem_cons_self)]
      exact ih (hIntact.next (hNext s index)) hRest

theorem beaconsSent_eq
    {s : Simulation γ}
    (hIntact : s.Intact) :
    beaconsSent s = .ok s.beaconsSent := by
  have hInterval := hIntact.interval_ne_zero
  unfold beaconsSent Simulation.beaconsSent Simulation.isDue
  rw [remainder_eq _ hIntact.interval]
  simp only [bind, Except.bind, ne_eq, hInterval,
    not_false_eq_true, true_and, decide_eq_true_eq]
  split
  · exact
      foldlM_eq .beacon (fun _ hIndex => beacon_eq hIndex)
        hIntact (fun _ hMem => List.mem_range.mp hMem)
  · rfl

theorem readingsSent_eq
    {s : Simulation γ}
    (hIntact : s.Intact) :
    readingsSent s = .ok s.readingsSent := by
  unfold readingsSent Simulation.readingsSent
  by_cases hNever : s.setup.messageInterval = 0
  · have hNotDue :
        s.isDue s.setup.messageInterval = false := by
      rw [hNever]
      rfl
    rw [if_pos hNever, hNotDue]
    rfl
  · have hSome : s.setup.messageInterval.toNat ≠ 0 :=
      fun hZero => hNever (UInt64.toNat_inj.mp hZero)
    unfold Simulation.isDue
    rw [if_neg hNever, remainder_eq _ hSome]
    simp only [bind, Except.bind, ne_eq, hNever,
      not_false_eq_true, true_and, decide_eq_true_eq]
    split
    · exact
        foldlM_eq .report
          (fun hIntact hIndex => report_eq hIntact hIndex)
          hIntact (fun _ hMem => List.mem_range.mp hMem)
    · rfl

theorem step_eq
    {s : Simulation γ}
    (hIntact : s.Intact) :
    step s = .ok s.step := by
  have hTicked : s.ticked.Intact := hIntact.next (.tick s)
  have hBeacons : s.ticked.beaconsSent.Intact :=
    hTicked.reaches (Simulation.reaches_beaconsSent _)
  have hBegun : s.begun.Intact :=
    hIntact.reaches (Simulation.reaches_begun s)
  unfold step
  rw [beaconsSent_eq hTicked, Simulation.step_eq_pump]
  change readingsSent s.ticked.beaconsSent >>= _ = _
  rw [readingsSent_eq hBeacons]
  exact pump_eq _ hBegun

theorem run_eq
    (steps : Nat)
    {s : Simulation γ}
    (hIntact : s.Intact) :
    run steps s = .ok (Simulation.run steps s) := by
  induction steps generalizing s with
  | zero => rfl
  | succ steps ih =>
      unfold run Simulation.run
      rw [step_eq hIntact]
      exact ih (hIntact.reaches (Simulation.reaches_step s))

end Runs

/- Guards are not passed without an interval. -/
example :
    run 1
        (Simulation.start
          { Setup.standard with beaconInterval := 0 }
          (SeededLosses.ofSeed 0.0 42)) =
      .error .zeroDivisor :=
  rfl

------------------------------------------------------------
-- The Start
------------------------------------------------------------

/- A node that has not done anything, if its settings pass. -/
def newNode
    (setup : Setup)
    (index : Nat) : Except Fault Node :=
  match
    Connection.new? (Simulation.addressOf index)
      setup.collect with
  | .error _ => .error .refused
  | .ok connection => pure (Node.new connection)

theorem newNodes_eq
    {setup : Setup}
    (hConfig : setup.collect.validate = .ok ())
    (indices : List Nat) :
    indices.mapM (newNode setup) =
      .ok
        (indices.map (fun index =>
          Node.new
            (Connection.withConfig
              (Simulation.addressOf index)
              setup.collect))) := by
  have hNode :
      newNode setup = fun index =>
        pure
          (Node.new
            (Connection.withConfig
              (Simulation.addressOf index)
              setup.collect)) := by
    funext index
    unfold newNode Connection.new?
    rw [hConfig]
  rw [hNode, List.mapM_pure]
  rfl

/- Open the connection of a node. -/
def openNode
    (s : Simulation γ)
    (index : Nat) : Except Fault (Simulation γ) := do
  let node ← nodeAt s index
  let (next, requests, reply) ←
    performNode node index (.openOn Simulation.channel)
  match reply with
  | .done => pure (s.update index next requests)
  | _ => .error .refused

theorem openNode_eq
    {s : Simulation γ}
    {index : Nat}
    {node : Node}
    (hNode : s.nodes[index]? = some node) :
    openNode s index = .ok (s.openNode index) := by
  unfold openNode Simulation.openNode Simulation.perform
  rw [nodeAt_eq hNode, hNode]
  rfl

/- The nodes are opened one after the other. -/
theorem opened_eq
    (setup : Setup)
    (losses : γ)
    {count : Nat}
    (hCount : count ≤ setup.nodeCount.toNat) :
    (List.range count).foldlM openNode
        (Simulation.idle setup losses) =
      .ok (Simulation.opened setup losses count) := by
  induction count with
  | zero => rfl
  | succ count ih =>
      have hBefore := Nat.le_of_succ_le hCount
      have hNode :=
        (Simulation.opened_spec setup losses hBefore).1 count
      rw [if_neg (Nat.lt_irrefl count),
        Simulation.nodes_idle,
        if_pos (Nat.lt_of_succ_le hCount)] at hNode
      rw [List.range_succ, List.foldlM_append, ih hBefore,
        Simulation.opened_succ]
      change openNode _ count >>= pure = _
      rw [openNode_eq hNode]
      rfl

/-
  The start: nodes are placed, made and opened, and then
  there is a node 0 to become the sink.
-/
def start
    (setup : Setup)
    (losses : γ) : Except Fault (Simulation γ) := do
  let indices := List.range setup.nodeCount.toNat
  let _ ← indices.mapM (position setup.topology)
  let nodes ← indices.mapM (newNode setup)
  let opened ←
    indices.foldlM openNode
      { Simulation.idle setup losses with
        nodes := nodes.toArray }
  let node ← nodeAt opened 0
  let (sink, requests, _) ←
    performNode node 0 (.setSink true)
  pure (opened.update 0 sink requests)

theorem start_eq
    {setup : Setup}
    (hCheck : setup.check = .ok ())
    (losses : γ) :
    start setup losses =
      .ok (Simulation.start setup losses) := by
  have hConfig := (Setup.acceptable_iff.mpr hCheck).settings
  have hOpened :=
    opened_eq setup losses
      (Nat.le_refl setup.nodeCount.toNat)
  have hNode :=
    (Simulation.opened_spec setup losses
      (Nat.le_refl setup.nodeCount.toNat)).1 0
  rw [if_pos (Simulation.bounds_of_check hCheck).1]
    at hNode
  have hEmpty :=
    Connection.intact_withConfig (Simulation.addressOf 0)
      setup.collect
  have hMemory :
      (Simulation.openedNode setup 0).connection.Intact :=
    { hEmpty with }
  unfold start
  rw [Simulation.start_eq, Simulation.perform, hNode]
  simp only [positions_eq, newNodes_eq hConfig, bind,
    Except.bind]
  change
    List.foldlM openNode (Simulation.idle setup losses) _ >>=
      _ = _
  rw [hOpened]
  simp only [bind, Except.bind, nodeAt_eq hNode,
    performNode_eq hMemory]
  rfl

end Guarded

namespace Simulation

variable {γ : Type}

------------------------------------------------------------
-- No Failures
------------------------------------------------------------

/-
  What the parts of a run rely on.  Losses are drawn with a
  probability, and sums of costs fit into 32 bits.
-/
structure Defined
    (s : Simulation γ)
    (setup : Setup) : Prop where
  setup_eq : s.setup = setup
  size : s.nodes.size = setup.nodeCount.toNat
  requests :
    ∀ request ∈ s.outbox.toList,
      request.node < setup.nodeCount.toNat
  events :
    ∀ event ∈ s.events.toList,
      event.1 < setup.nodeCount.toNat
  addresses :
    ∀ index, index < s.nodes.size →
      (addressOf index).hi.toNat = index + 1
  distinct :
    ∀ a b, a < s.nodes.size → b < s.nodes.size →
      addressOf a = addressOf b → a = b
  interval : s.setup.beaconInterval ≠ 0
  linkLoss :
    ∃ q, Probability.value? s.setup.linkLoss = some q ∧
      0 ≤ q ∧ q ≤ 1
  memories : s.MemoriesIntact
  costs :
    ∀ (index : Nat) (node : Node),
      s.nodes[index]? = some node →
        ∀ n ∈ node.connection.neighbors.entries,
          Metric.unit * n.link.totalCost < 2 ^ 32

theorem Intact.defined
    {setup : Setup}
    {s : Simulation γ}
    (hIntact : s.Intact)
    (hAcceptable : setup.Acceptable)
    (hSetup : s.setup = setup)
    (hSize : s.nodes.size = setup.nodeCount.toNat) :
    s.Defined setup where
  setup_eq := hSetup
  size := hSize
  requests := by
    rw [← hSize]
    exact hIntact.sound.requests
  events := by
    rw [← hSize]
    exact hIntact.sound.events
  addresses := by
    intro index hIndex
    have hFew := hAcceptable.few_nodes
    exact toNat_hi_addressOf (by omega)
  distinct := by
    intro a b hA hB hSame
    have hFew := hAcceptable.few_nodes
    exact addressOf_inj (by omega) (by omega) hSame
  interval := hIntact.interval_ne_zero
  linkLoss := hSetup.symm ▸ hAcceptable.linkLoss
  memories := hIntact.memories
  costs := by
    intro index node hNode n hMem
    have hLink := (hIntact.memories index node hNode).links
    have hCost := (hLink n hMem).totalCost_le
    calc
      Metric.unit * n.link.totalCost ≤
          Metric.unit * (255 * LinkEstimate.window) :=
        Nat.mul_le_mul_left Metric.unit hCost
      _ < 2 ^ 32 := by decide

/-
  A simulation is made for all setups within the bounds and
  no others.  Whatever is lost, it starts, and no step of a
  run fails: all that its parts rely on holds throughout.
  That there is room for all tables is taken for granted.
-/
theorem accepted_setups_never_fail
    (setup : Setup) :
    ((∃ s, new? setup = .ok s) ↔ setup.Acceptable) ∧
      (setup.Acceptable →
        ∀ (γ : Type) [LossSource γ] (losses : γ),
          Guarded.start setup losses =
              .ok (start setup losses) ∧
            (∀ steps,
              Guarded.run steps (start setup losses) =
                .ok (run steps (start setup losses))) ∧
            ∀ s, Reaches (start setup losses) s →
              s.Defined setup) := by
  constructor
  · rw [Setup.acceptable_iff]
    constructor
    · rintro ⟨s, hNew⟩
      exact (new?_eq_ok_iff.mp hNew).1
    · intro hCheck
      exact ⟨_, new?_eq_ok_iff.mpr ⟨hCheck, rfl⟩⟩
  · intro hAcceptable γ _ losses
    have hCheck := Setup.acceptable_iff.mp hAcceptable
    have hStart := intact_start hCheck losses
    refine
      ⟨Guarded.start_eq hCheck losses,
        fun steps => Guarded.run_eq steps hStart, ?_⟩
    intro s hReaches
    refine
      (hStart.reaches hReaches).defined hAcceptable ?_ ?_
    · rw [hReaches.setup_eq hStart.sound, start_frame]
      rfl
    · rw [hReaches.size_nodes hStart.sound,
        size_nodes_start]

/-
  As many nodes and transmissions as there can be, beacons
  in every step, and no frame that arrives.
-/
def crowdedSetup : Setup :=
  { Setup.standard with
    nodeCount := 255
    linkLoss := 1.0
    beaconInterval := 1
    messageInterval := 1
    maxRexmit := 255 }

theorem accepted_setups_never_fail_of_crowded :
    crowdedSetup.Acceptable ∧
      Guarded.run 1000
          (start crowdedSetup (SeededLosses.ofSeed 1.0 42)) =
        .ok
          (run 1000
            (start crowdedSetup
              (SeededLosses.ofSeed 1.0 42))) := by
  have hCheck : crowdedSetup.check = .ok () :=
    check_eq_ok_of_isOk (by decide +kernel)
  have hAcceptable := Setup.acceptable_iff.mpr hCheck
  have hNever :=
    (accepted_setups_never_fail crowdedSetup).2 hAcceptable
      SeededLosses (SeededLosses.ofSeed 1.0 42)
  exact ⟨hAcceptable, hNever.2.1 1000⟩

end Simulation

end CollectionTree
