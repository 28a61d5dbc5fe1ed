import CollectionTree.Proofs.Simulation.Nodes
import CollectionTree.Proofs.Simulation.Places
import Mathlib.Logic.Relation

/-
  Runs of a simulation, one move at a time.

  Key definitions include:
    * `Simulation.Next`
    * `Simulation.Reaches`
    * `Simulation.begun`
    * `Simulation.Airs`
    * `Simulation.Dispatched`
    * `Simulation.Reported`
    * `Simulation.Move`
    * `Simulation.Sound`

  Key theorems include:
    * `Simulation.step_eq_pump`
    * `Simulation.reaches_pump`
    * `Simulation.reaches_run`
    * `Simulation.reaches_turns`
    * `Simulation.turn_queues`
    * `Simulation.turn_cases`
    * `Simulation.Next.move`
    * `Simulation.mem_hearers`
    * `Simulation.node_cases`
    * `Simulation.Move.sound`
    * `Simulation.Reaches.invariant`

  A run reaches a state by letting time pass, by the beacon
  or the reading of one node, or by one turn.  These are the
  states between any two turns, however many turns a step
  is given, and those on the way to its first turn.
-/

namespace CollectionTree

namespace Simulation

variable {γ : Type}

------------------------------------------------------------
-- Runs
------------------------------------------------------------

section Runs

variable [LossSource γ]

/- The next step has come, and time passes at every node. -/
def ticked
    (s : Simulation γ) : Simulation γ :=
  { s with steps := s.steps + 1 }.queueTicks

omit [LossSource γ] in
/- Every node is to be told that time passed. -/
theorem events_ticked
    (s : Simulation γ) :
    s.ticked.events.toList =
      s.events.toList ++
        (List.range s.nodes.size).map (fun index =>
          (index, .elapsed s.setup.stepTime)) :=
  Queue.toList_pushAll _ _

/- One of the things that happen in a run. -/
inductive Next :
    Simulation γ → Simulation γ → Prop
  | tick
      (s : Simulation γ) :
      Next s s.ticked
  | beacon
      (s : Simulation γ)
      (index : Nat) :
      Next s (s.beacon index)
  | report
      (s : Simulation γ)
      (index : Nat) :
      Next s (s.report index)
  | turn
      (s t : Simulation γ)
      (hTurn : s.turn? = some t) :
      Next s t

/- A run leads from one state to another. -/
def Reaches :
    Simulation γ → Simulation γ → Prop :=
  Relation.ReflTransGen Next

/- The beacons of a step, if they are due. -/
def beaconsSent
    (s : Simulation γ) : Simulation γ :=
  if s.isDue s.setup.beaconInterval then
    s.atEachNode beacon
  else
    s

/- The readings of a step, if they are due. -/
def readingsSent
    (s : Simulation γ) : Simulation γ :=
  if s.isDue s.setup.messageInterval then
    s.atEachNode report
  else
    s

/- What happens in a step before its first turn. -/
def begun
    (s : Simulation γ) : Simulation γ :=
  s.ticked.beaconsSent.readingsSent

theorem step_eq_pump
    (s : Simulation γ) :
    s.step = s.begun.pump turnsPerStep :=
  rfl

theorem reaches_pump
    (budget : Nat)
    (s : Simulation γ) :
    Reaches s (s.pump budget) := by
  induction budget generalizing s with
  | zero => exact .refl
  | succ budget ih =>
      unfold pump
      cases hTurn : s.turn? with
      | none => exact .refl
      | some next =>
          exact .head (.turn s next hTurn) (ih next)

theorem reaches_foldl
    {action : Simulation γ → Nat → Simulation γ}
    (hAction : ∀ s index, Next s (action s index))
    (indices : List Nat)
    (s : Simulation γ) :
    Reaches s (indices.foldl action s) := by
  induction indices generalizing s with
  | nil => exact .refl
  | cons index rest ih =>
      exact .head (hAction s index) (ih (action s index))

theorem reaches_beaconsSent
    (s : Simulation γ) :
    Reaches s s.beaconsSent := by
  unfold beaconsSent
  split
  · exact reaches_foldl .beacon _ s
  · exact .refl

theorem reaches_readingsSent
    (s : Simulation γ) :
    Reaches s s.readingsSent := by
  unfold readingsSent
  split
  · exact reaches_foldl .report _ s
  · exact .refl

theorem reaches_begun
    (s : Simulation γ) :
    Reaches s s.begun :=
  Relation.ReflTransGen.head (.tick s)
    ((reaches_beaconsSent s.ticked).trans
      (reaches_readingsSent s.ticked.beaconsSent))

theorem reaches_step
    (s : Simulation γ) :
    Reaches s s.step := by
  rw [step_eq_pump]
  exact (reaches_begun s).trans (reaches_pump _ _)

theorem reaches_run
    (steps : Nat)
    (s : Simulation γ) :
    Reaches s (run steps s) := by
  induction steps generalizing s with
  | zero => exact .refl
  | succ steps ih => exact (reaches_step s).trans (ih s.step)

/- The states between two turns of a step of a run. -/
theorem reaches_turns
    (steps turns : Nat)
    (s : Simulation γ) :
    Reaches s ((run steps s).begun.pump turns) :=
  (reaches_run steps s).trans
    ((reaches_begun _).trans (reaches_pump turns _))

end Runs

------------------------------------------------------------
-- Moves
------------------------------------------------------------

/-
  Nothing happens to nodes and packets; events about routes
  are added for nodes that exist.
-/
structure Airs
    (s t : Simulation γ) : Prop where
  setup : t.setup = s.setup
  nodes : t.nodes = s.nodes
  events :
    ∃ more,
      t.events.toList = s.events.toList ++ more ∧
        ∀ event ∈ more,
          event.1 < s.nodes.size ∧ event.2.isRouting = true
  messagesSent :
    t.traffic.messagesSent = s.traffic.messagesSent
  messagesNoRoute :
    t.traffic.messagesNoRoute = s.traffic.messagesNoRoute
  timeouts : t.traffic.timeouts = s.traffic.timeouts

/- The first event in the queue was handled by its node. -/
structure Dispatched
    (s t : Simulation γ)
    (index : Nat)
    (event : Event)
    (node next : Node) : Prop where
  outbox : s.outbox.toList = []
  events :
    s.events.toList = (index, event) :: t.events.toList
  found : s.nodes[index]? = some node
  handling :
    node.Handling index event next t.outbox.toList
  setup : t.setup = s.setup
  nodes : t.nodes = s.nodes.setIfInBounds index next
  steps : t.steps = s.steps
  losses : t.losses = s.losses
  traffic : t.traffic = s.traffic

/- A node with nothing on its way has sent a reading. -/
structure Reported
    (s t : Simulation γ)
    (index : Nat)
    (node next : Node)
    (requests : List Request)
    (reply : Reply) : Prop where
  found : s.nodes[index]? = some node
  role : node.connection.role ≠ .sink
  idle : node.connection.forwarding = false
  reporting :
    node.Reporting index
      (node.connection.originate
        (reading s.steps node.connection.address)
        s.setup.maxRexmit)
      next requests reply
  outbox : t.outbox.toList = s.outbox.toList ++ requests
  events : t.events.toList = s.events.toList
  setup : t.setup = s.setup
  nodes : t.nodes = s.nodes.setIfInBounds index next
  traffic : t.traffic = (s.countReading reply).traffic

/-
  All that can happen to a sound simulation, in terms of
  what waits in its queues.
-/
inductive Move
    (s t : Simulation γ) : Prop
  | aired
      (hAirs : Airs s t)
      (hOutbox : t.outbox.toList = s.outbox.toList)
  | served
      (request : Request)
      (hRouting : request.isUnicast = false)
      (hOutbox :
        s.outbox.toList = request :: t.outbox.toList)
      (hAirs : Airs s t)
  | delivered
      (sender : Nat)
      (handover : Handover)
      (index : Nat)
      (transmissions : UInt8)
      (hOutbox :
        s.outbox.toList =
          .unicast sender handover :: t.outbox.toList)
      (hReceiver :
        s.receiver? sender handover.nextHop = some index)
      (hEvents :
        t.events.toList =
          s.events.toList ++
            [ (index,
                .received (addressOf sender)
                  handover.packet),
              (sender,
                .sent handover.nextHop .acked
                  transmissions) ])
      (hSetup : t.setup = s.setup)
      (hNodes : t.nodes = s.nodes)
      (hSent :
        t.traffic.messagesSent = s.traffic.messagesSent)
      (hNoRoute :
        t.traffic.messagesNoRoute =
          s.traffic.messagesNoRoute)
      (hTimeouts : t.traffic.timeouts = s.traffic.timeouts)
  | lost
      (sender : Nat)
      (handover : Handover)
      (transmissions : UInt8)
      (hOutbox :
        s.outbox.toList =
          .unicast sender handover :: t.outbox.toList)
      (hEvents :
        t.events.toList =
          s.events.toList ++
            [ (sender,
                .sent handover.nextHop .timeout
                  transmissions) ])
      (hSetup : t.setup = s.setup)
      (hNodes : t.nodes = s.nodes)
      (hSent :
        t.traffic.messagesSent = s.traffic.messagesSent)
      (hNoRoute :
        t.traffic.messagesNoRoute =
          s.traffic.messagesNoRoute)
      (hTimeouts :
        t.traffic.timeouts = s.traffic.timeouts + 1)
  | handled
      (index : Nat)
      (event : Event)
      (node next : Node)
      (hDispatched :
        Dispatched s t index event node next)
  | reported
      (index : Nat)
      (node next : Node)
      (requests : List Request)
      (reply : Reply)
      (hReported :
        Reported s t index node next requests reply)

/-
  All nodes take part in the tree, and what waits in the
  queues waits for one of them.
-/
structure Sound
    (s : Simulation γ) : Prop where
  ready :
    ∀ (index : Nat) (node : Node),
      s.nodes[index]? = some node → node.Ready index
  requests :
    ∀ request ∈ s.outbox.toList,
      request.node < s.nodes.size
  events :
    ∀ event ∈ s.events.toList, event.1 < s.nodes.size

theorem airs_refl
    (s : Simulation γ) :
    Airs s s :=
  { setup := rfl
    nodes := rfl
    events := ⟨[], by simp, by simp⟩
    messagesSent := rfl
    messagesNoRoute := rfl
    timeouts := rfl }

/- What is served is taken out of the queue before. -/
theorem Airs.of_outbox
    {s t : Simulation γ}
    {outbox : Queue Request}
    (hAirs : Airs { s with outbox := outbox } t) :
    Airs s t :=
  { setup := hAirs.setup
    nodes := hAirs.nodes
    events := hAirs.events
    messagesSent := hAirs.messagesSent
    messagesNoRoute := hAirs.messagesNoRoute
    timeouts := hAirs.timeouts }

theorem airs_ticked
    (s : Simulation γ) :
    Airs s s.ticked := by
  refine
    { setup := rfl
      nodes := rfl
      events := ⟨_, events_ticked s, ?_⟩
      messagesSent := rfl
      messagesNoRoute := rfl
      timeouts := rfl }
  intro event hMem
  rcases List.mem_map.mp hMem with ⟨index, hRange, rfl⟩
  exact ⟨List.mem_range.mp hRange, rfl⟩

section Air

variable [LossSource γ]

theorem survivors_sublist
    {α : Type}
    (xs : List α)
    (losses : γ) :
    (survivors xs losses).1.Sublist xs := by
  induction xs generalizing losses with
  | nil => exact .slnil
  | cons x xs ih =>
      have hRest := ih (LossSource.lost losses).2
      unfold survivors
      by_cases hLost : (LossSource.lost losses).1 = true
      · simp only [hLost, if_true]
        exact hRest.cons x
      · simp only [hLost]
        exact hRest.cons_cons x

omit [LossSource γ] in
/- The nodes that hear a node are those in range. -/
theorem mem_hearers
    {s : Simulation γ}
    {sender index : Nat} :
    index ∈ s.hearers sender ↔
      index < s.nodes.size ∧
        s.setup.inRange index sender = true := by
  unfold hearers
  rw [List.mem_filter, List.mem_range,
    s.setup.inRange_comm index sender]

theorem airs_broadcast
    (s : Simulation γ)
    (sender : Nat)
    (metric : Metric) :
    Airs s (s.broadcast sender metric) := by
  refine
    { setup := rfl
      nodes := rfl
      events := ⟨_, Queue.toList_pushAll _ _, ?_⟩
      messagesSent := rfl
      messagesNoRoute := rfl
      timeouts := rfl }
  intro event hMem
  rcases List.mem_map.mp hMem with ⟨index, hHeard, rfl⟩
  have hHearer :=
    (survivors_sublist (s.hearers sender) s.losses).subset
      hHeard
  exact ⟨(mem_hearers.mp hHearer).1, rfl⟩

theorem airs_beacon
    (s : Simulation γ)
    (index : Nat) :
    Airs s (s.beacon index) := by
  unfold beacon
  cases s.announced? index with
  | none => exact airs_refl s
  | some metric => exact airs_broadcast s index metric

/- Only a node that exists is let hear its neighbors. -/
theorem airs_serveListen
    {s : Simulation γ}
    {listener : Nat}
    (hListener : listener < s.nodes.size)
    (bursts : Nat) :
    Airs s (s.serveListen listener bursts) := by
  refine
    { setup := rfl
      nodes := rfl
      events := ⟨_, Queue.toList_pushAll _ _, ?_⟩
      messagesSent := rfl
      messagesNoRoute := rfl
      timeouts := rfl }
  intro event hMem
  rcases List.mem_map.mp hMem with ⟨beacon, -, rfl⟩
  exact ⟨hListener, rfl⟩

/- A packet reaches its next hop, or it runs out of time. -/
theorem serveUnicast_cases
    (s : Simulation γ)
    (sender : Nat)
    (handover : Handover) :
    (∃ index transmissions,
      s.receiver? sender handover.nextHop = some index ∧
        (s.serveUnicast sender handover).events.toList =
          s.events.toList ++
            [ (index,
                .received (addressOf sender)
                  handover.packet),
              (sender,
                .sent handover.nextHop .acked
                  transmissions) ] ∧
        (s.serveUnicast sender handover).traffic.timeouts =
          s.traffic.timeouts) ∨
      (∃ transmissions,
        (s.serveUnicast sender handover).events.toList =
          s.events.toList ++
            [ (sender,
                .sent handover.nextHop .timeout
                  transmissions) ] ∧
        (s.serveUnicast sender handover).traffic.timeouts =
          s.traffic.timeouts + 1) := by
  let result :=
    attempts (s.receiver? sender handover.nextHop).isSome
      (transmissionBudget handover.maxRexmit) 0 s.losses
  generalize hServed : s.serveUnicast sender handover = t
  unfold serveUnicast at hServed
  simp only at hServed
  split at hServed
  next index _ hReceiver =>
    subst hServed
    refine Or.inl
      ⟨index, result.transmissions.toUInt8, hReceiver, ?_,
        rfl⟩
    rw [Queue.toList_push, Queue.toList_push,
      List.append_assoc]
    rfl
  next =>
    subst hServed
    exact Or.inr ⟨_, Queue.toList_push _ _, rfl⟩

theorem serveUnicast_frame
    (s : Simulation γ)
    (sender : Nat)
    (handover : Handover) :
    (s.serveUnicast sender handover).setup = s.setup ∧
      (s.serveUnicast sender handover).nodes = s.nodes ∧
      (s.serveUnicast sender handover).outbox = s.outbox ∧
      (s.serveUnicast sender
          handover).traffic.messagesSent =
        s.traffic.messagesSent ∧
      (s.serveUnicast sender
          handover).traffic.messagesNoRoute =
        s.traffic.messagesNoRoute := by
  generalize hServed : s.serveUnicast sender handover = t
  unfold serveUnicast at hServed
  simp only at hServed
  split at hServed <;>
    · subst hServed
      exact ⟨rfl, rfl, rfl, rfl, rfl⟩

------------------------------------------------------------
-- Every Turn Is a Move
------------------------------------------------------------

theorem move_served
    {s : Simulation γ}
    (hSound : s.Sound)
    {request : Request}
    {outbox : Queue Request}
    (hOutbox :
      s.outbox.toList = request :: outbox.toList) :
    Move s (serve { s with outbox := outbox } request) := by
  cases request with
  | announce sender metric =>
      exact .served (.announce sender metric) rfl hOutbox
        (airs_broadcast { s with outbox := outbox } sender
          metric).of_outbox
  | listen listener bursts =>
      have hListener : listener < s.nodes.size :=
        hSound.requests (.listen listener bursts)
          (by simp [hOutbox])
      exact .served (.listen listener bursts) rfl hOutbox
        (airs_serveListen
          (s := { s with outbox := outbox }) hListener
          bursts.toNat).of_outbox
  | unicast sender handover =>
      obtain ⟨hSetup, hNodes, hSame, hSent, hNoRoute⟩ :=
        serveUnicast_frame { s with outbox := outbox } sender
          handover
      rcases serveUnicast_cases { s with outbox := outbox }
        sender handover with
        ⟨index, transmissions, hReceiver, hEvents,
          hTimeouts⟩ |
        ⟨transmissions, hEvents, hTimeouts⟩
      · refine .delivered sender handover index transmissions
          ?_ hReceiver hEvents hSetup hNodes hSent hNoRoute
          hTimeouts
        rw [hOutbox]
        exact congrArg (_ :: Queue.toList ·) hSame.symm
      · refine .lost sender handover transmissions
          ?_ hEvents hSetup hNodes hSent hNoRoute hTimeouts
        rw [hOutbox]
        exact congrArg (_ :: Queue.toList ·) hSame.symm

omit [LossSource γ] in
/- A ready node handles the event that is handed to it. -/
theorem dispatched
    {s : Simulation γ}
    {index : Nat}
    {node : Node}
    (hNode : s.nodes[index]? = some node)
    (hReady : node.Ready index)
    {event : Event}
    {events : Queue (Nat × Event)}
    (hOutbox : s.outbox.toList = [])
    (hEvents :
      s.events.toList = (index, event) :: events.toList) :
    ∃ next,
      Dispatched s
        (dispatch { s with events := events } index event)
        index event node next := by
  have hHandling := Node.handling hReady event
  let performed :=
    (prepare node event).perform index (.handle event)
  have hEq :
      dispatch { s with events := events } index event =
        ({ s with events := events } : Simulation γ).update
          index performed.1 performed.2.1 := by
    unfold dispatch
    simp only [hNode]
    rfl
  rw [hEq]
  exact
    ⟨performed.1,
      { outbox := hOutbox
        events := hEvents
        found := hNode
        handling := by
          rw [update, Queue.toList_pushAll, hOutbox,
            List.nil_append]
          exact hHandling
        setup := rfl
        nodes := rfl
        steps := rfl
        losses := rfl
        traffic := rfl }⟩

/- A turn serves the first request, or else the first event. -/
theorem turn_queues
    {s t : Simulation γ}
    (hTurn : s.turn? = some t) :
    (∃ request outbox,
        s.outbox.toList = request :: outbox.toList ∧
          t = serve { s with outbox := outbox } request) ∨
      ∃ index event events,
        s.outbox.toList = [] ∧
          s.events.toList =
            (index, event) :: events.toList ∧
          t =
            dispatch { s with events := events } index
              event := by
  unfold turn? at hTurn
  cases hPop : s.outbox.pop? with
  | some popped =>
      obtain ⟨request, outbox⟩ := popped
      simp only [hPop, Option.some.injEq] at hTurn
      exact Or.inl
        ⟨request, outbox,
          Queue.toList_eq_cons_of_pop? hPop, hTurn.symm⟩
  | none =>
      simp only [hPop] at hTurn
      cases hNext : s.events.pop? with
      | none =>
          simp only [hNext] at hTurn
          contradiction
      | some popped =>
          obtain ⟨⟨index, event⟩, events⟩ := popped
          simp only [hNext, Option.some.injEq] at hTurn
          exact Or.inr
            ⟨index, event, events,
              Queue.pop?_eq_none_iff.mp hPop,
              Queue.toList_eq_cons_of_pop? hNext,
              hTurn.symm⟩

/- A turn serves a request, or hands an event to its node. -/
theorem turn_cases
    {s t : Simulation γ}
    (hSound : s.Sound)
    (hTurn : s.turn? = some t) :
    (∃ request outbox,
        s.outbox.toList = request :: outbox.toList ∧
          t = serve { s with outbox := outbox } request) ∨
      ∃ index event node next,
        Dispatched s t index event node next := by
  rcases turn_queues hTurn with
    hServed | ⟨index, event, events, hOutbox, hEvents, rfl⟩
  · exact Or.inl hServed
  · have hIndex : index < s.nodes.size := by
      apply hSound.events (index, event)
      rw [hEvents]
      exact List.mem_cons_self
    have hNode := Array.getElem?_eq_getElem hIndex
    have hReady := hSound.ready index _ hNode
    exact Or.inr
      ⟨index, event, _,
        dispatched hNode hReady hOutbox hEvents⟩

theorem move_turn
    {s t : Simulation γ}
    (hSound : s.Sound)
    (hTurn : s.turn? = some t) :
    Move s t := by
  rcases turn_cases hSound hTurn with
    ⟨request, outbox, hOutbox, rfl⟩ |
    ⟨index, event, node, next, hDispatched⟩
  · exact move_served hSound hOutbox
  · exact .handled index event node next hDispatched

omit [LossSource γ] in
/- Counting a reading leaves all but the counts alone. -/
theorem countReading_eq
    (s : Simulation γ)
    (reply : Reply) :
    s.countReading reply =
      { s with
        traffic := (s.countReading reply).traffic } := by
  unfold countReading
  split <;> rfl

omit [LossSource γ] in
theorem traffic_countReading_congr
    {s t : Simulation γ}
    (hTraffic : s.traffic = t.traffic)
    (reply : Reply) :
    (s.countReading reply).traffic =
      (t.countReading reply).traffic := by
  unfold countReading
  split <;> simp only [hTraffic]

omit [LossSource γ] in
/- The sink and a node with a packet on its way are silent. -/
theorem report_cases
    {s : Simulation γ}
    {index : Nat}
    (hReady :
      ∀ node, s.nodes[index]? = some node →
        node.Ready index) :
    (s.report index = s ∧
        ∀ node, s.nodes[index]? = some node →
          node.connection.role = .sink ∨
            node.connection.forwarding = true) ∨
      ∃ node next requests reply,
        Reported s (s.report index) index node next requests
          reply := by
  unfold report
  cases hNode : s.nodes[index]? with
  | none =>
      refine Or.inl ⟨rfl, ?_⟩
      intro node hSome
      contradiction
  | some node =>
      by_cases hSkip :
        (node.connection.isSink ||
          node.connection.forwarding) = true
      · refine Or.inl ⟨if_pos hSkip, ?_⟩
        intro other hSome
        rw [Option.some.inj hSome] at hSkip
        simpa [Connection.isSink] using hSkip
      · simp only [if_neg hSkip]
        simp only [Bool.or_eq_true, not_or,
          Bool.not_eq_true] at hSkip
        obtain ⟨hSink, hIdle⟩ := hSkip
        have hRole : node.connection.role ≠ .sink := by
          intro hRole
          simp [Connection.isSink, hRole] at hSink
        have hReporting :=
          Node.reporting (hReady node hNode)
            hRole hIdle
            (reading s.steps node.connection.address)
            s.setup.maxRexmit
        simp only [perform, hNode]
        rw [countReading_eq]
        exact Or.inr
          ⟨node, _, _, _,
            { found := hNode
              role := hRole
              idle := hIdle
              reporting := hReporting
              outbox := Queue.toList_pushAll _ _
              events := rfl
              setup := rfl
              nodes := rfl
              traffic :=
                traffic_countReading_congr
                  (s := s.update index _ _) (t := s)
                  rfl _ }⟩

omit [LossSource γ] in
theorem move_report
    {s : Simulation γ}
    (hSound : s.Sound)
    (index : Nat) :
    Move s (s.report index) := by
  rcases report_cases (hSound.ready index) with
    ⟨hSame, -⟩ | ⟨node, next, requests, reply, hReported⟩
  · rw [hSame]
    exact .aired (airs_refl s) rfl
  · exact .reported index node next requests reply hReported

theorem Next.move
    {s t : Simulation γ}
    (hNext : Next s t)
    (hSound : s.Sound) :
    Move s t := by
  cases hNext with
  | tick => exact .aired (airs_ticked s) rfl
  | beacon index =>
      refine .aired (airs_beacon s index) ?_
      unfold Simulation.beacon
      split <;> rfl
  | report index => exact move_report hSound index
  | turn _ hTurn => exact move_turn hSound hTurn

end Air

------------------------------------------------------------
-- What a Move Leaves Alone
------------------------------------------------------------

theorem Move.setup_eq
    {s t : Simulation γ}
    (hMove : Move s t) :
    t.setup = s.setup := by
  cases hMove with
  | aired hAirs _ => exact hAirs.setup
  | served request hRouting hOutbox hAirs =>
      exact hAirs.setup
  | delivered _ _ _ _ _ _ _ hSetup => exact hSetup
  | lost _ _ _ _ _ hSetup => exact hSetup
  | handled _ _ _ _ hDispatched => exact hDispatched.setup
  | reported _ _ _ _ _ hReported => exact hReported.setup

theorem Move.size_nodes
    {s t : Simulation γ}
    (hMove : Move s t) :
    t.nodes.size = s.nodes.size := by
  cases hMove with
  | aired hAirs _ => rw [hAirs.nodes]
  | served request hRouting hOutbox hAirs =>
      rw [hAirs.nodes]
  | delivered _ _ _ _ _ _ _ _ hNodes => rw [hNodes]
  | lost _ _ _ _ _ _ hNodes => rw [hNodes]
  | handled _ _ _ _ hDispatched =>
      rw [hDispatched.nodes, Array.size_setIfInBounds]
  | reported _ _ _ _ _ hReported =>
      rw [hReported.nodes, Array.size_setIfInBounds]

------------------------------------------------------------
-- Moves Are Sound
------------------------------------------------------------

/- A node was put back, or it is as it was before. -/
theorem node_cases
    {s t : Simulation γ}
    {index : Nat}
    {next : Node}
    (hNodes : t.nodes = s.nodes.setIfInBounds index next)
    {other : Nat}
    {node : Node}
    (hNode : t.nodes[other]? = some node) :
    (other = index ∧ node = next) ∨
      (other ≠ index ∧ s.nodes[other]? = some node) := by
  rw [hNodes, Array.getElem?_setIfInBounds] at hNode
  by_cases hSame : index = other
  · rw [if_pos hSame] at hNode
    split at hNode
    · exact Or.inl
        ⟨hSame.symm, (Option.some.inj hNode).symm⟩
    · contradiction
  · rw [if_neg hSame] at hNode
    exact Or.inr ⟨Ne.symm hSame, hNode⟩

/- All nodes stay ready when one of them is put back. -/
theorem Sound.ready_of_set
    {s t : Simulation γ}
    (hSound : s.Sound)
    {index : Nat}
    {next : Node}
    (hNodes : t.nodes = s.nodes.setIfInBounds index next)
    (hNext : next.Ready index)
    (other : Nat)
    (node : Node)
    (hNode : t.nodes[other]? = some node) :
    node.Ready other := by
  rcases node_cases hNodes hNode with
    ⟨rfl, rfl⟩ | ⟨-, hOld⟩
  · exact hNext
  · exact hSound.ready other node hOld

/- Only nodes that exist are received by. -/
theorem receiver?_lt
    {s : Simulation γ}
    {sender index : Nat}
    {a : Address}
    (hReceiver : s.receiver? sender a = some index) :
    index < s.nodes.size :=
  (indexOf?_eq_some_iff.mp
    (Option.filter_eq_some_iff.mp hReceiver).1).1

/-
  A move that leaves all nodes alone is sound if what is
  added to the queues is for nodes that exist.
-/
theorem Sound.of_nodes_eq
    {s t : Simulation γ}
    (hSound : s.Sound)
    (hNodes : t.nodes = s.nodes)
    (hRequests :
      ∀ request ∈ t.outbox.toList,
        request ∈ s.outbox.toList)
    {more : List (Nat × Event)}
    (hEvents : t.events.toList = s.events.toList ++ more)
    (hMore : ∀ event ∈ more, event.1 < s.nodes.size) :
    t.Sound := by
  refine
    { ready := by rw [hNodes]; exact hSound.ready
      requests := ?_
      events := ?_ }
  · intro request hMem
    rw [hNodes]
    exact hSound.requests request (hRequests request hMem)
  · intro event hMem
    rw [hNodes]
    rw [hEvents, List.mem_append] at hMem
    rcases hMem with hOld | hNew
    · exact hSound.events event hOld
    · exact hMore event hNew

theorem Sound.of_dispatched
    {s t : Simulation γ}
    (hSound : s.Sound)
    {index : Nat}
    {event : Event}
    {node next : Node}
    (hDispatched : Dispatched s t index event node next) :
    t.Sound := by
  have hNode := hDispatched.found
  have hNodes := hDispatched.nodes
  have hHandling := hDispatched.handling
  have hIndex : index < s.nodes.size :=
    (Array.getElem?_eq_some_iff.mp hNode).1
  have hNext :=
    hHandling.ready (hSound.ready index node hNode)
  refine
    { ready := ?_
      requests := ?_
      events := ?_ }
  · exact hSound.ready_of_set hNodes hNext
  · intro request hMem
    rw [hNodes, Array.size_setIfInBounds,
      hHandling.node_of_mem hMem]
    exact hIndex
  · intro other hMem
    rw [hNodes, Array.size_setIfInBounds]
    exact hSound.events other
      (hDispatched.events ▸ List.mem_cons_of_mem _ hMem)

theorem Sound.of_reported
    {s t : Simulation γ}
    (hSound : s.Sound)
    {index : Nat}
    {node next : Node}
    {requests : List Request}
    {reply : Reply}
    (hReported :
      Reported s t index node next requests reply) :
    t.Sound := by
  have hNode := hReported.found
  have hReporting := hReported.reporting
  have hNodes := hReported.nodes
  have hIndex : index < s.nodes.size :=
    (Array.getElem?_eq_some_iff.mp hNode).1
  have hNext :=
    hReporting.ready (hSound.ready index node hNode)
  refine
    { ready := ?_
      requests := ?_
      events := ?_ }
  · exact hSound.ready_of_set hNodes hNext
  · intro request hMem
    rw [hNodes, Array.size_setIfInBounds]
    rw [hReported.outbox, List.mem_append] at hMem
    rcases hMem with hOld | hNew
    · exact hSound.requests request hOld
    · rw [hReporting.node_of_mem hNew]
      exact hIndex
  · intro other hMem
    rw [hNodes, Array.size_setIfInBounds]
    rw [hReported.events] at hMem
    exact hSound.events other hMem

theorem Move.sound
    {s t : Simulation γ}
    (hMove : Move s t)
    (hSound : s.Sound) :
    t.Sound := by
  cases hMove with
  | aired hAirs hOutbox =>
      obtain ⟨more, hEvents, hMore⟩ := hAirs.events
      exact hSound.of_nodes_eq hAirs.nodes
        (fun request hMem => hOutbox ▸ hMem) hEvents
        (fun event hMem => (hMore event hMem).1)
  | served request hRouting hOutbox hAirs =>
      obtain ⟨more, hEvents, hMore⟩ := hAirs.events
      exact hSound.of_nodes_eq hAirs.nodes
        (fun other hMem =>
          hOutbox ▸ List.mem_cons_of_mem request hMem)
        hEvents (fun event hMem => (hMore event hMem).1)
  | delivered sender handover index transmissions hOutbox
      hReceiver hEvents _ hNodes =>
      have hSender : sender < s.nodes.size :=
        hSound.requests (.unicast sender handover)
          (by simp [hOutbox])
      apply hSound.of_nodes_eq hNodes
        (fun other hMem =>
          hOutbox ▸ List.mem_cons_of_mem _ hMem)
        hEvents
      intro event hMem
      rw [List.mem_cons, List.mem_singleton] at hMem
      rcases hMem with rfl | rfl
      · exact receiver?_lt hReceiver
      · exact hSender
  | lost sender handover transmissions hOutbox hEvents _
      hNodes =>
      have hSender : sender < s.nodes.size :=
        hSound.requests (.unicast sender handover)
          (by simp [hOutbox])
      apply hSound.of_nodes_eq hNodes
        (fun other hMem =>
          hOutbox ▸ List.mem_cons_of_mem _ hMem)
        hEvents
      intro event hMem
      rw [List.mem_singleton] at hMem
      subst hMem
      exact hSender
  | handled index event node next hDispatched =>
      exact hSound.of_dispatched hDispatched
  | reported index node next requests reply hReported =>
      exact hSound.of_reported hReported

------------------------------------------------------------
-- Invariants of Runs
------------------------------------------------------------

/-
  What the moves of sound simulations preserve holds in all
  states that a run from a sound simulation reaches.
-/
theorem Reaches.invariant
    [LossSource γ]
    {P : Simulation γ → Prop}
    (hMove : ∀ s t, s.Sound → P s → Move s t → P t)
    {s t : Simulation γ}
    (hReaches : Reaches s t)
    (hSound : s.Sound)
    (hStart : P s) :
    t.Sound ∧ P t := by
  induction hReaches with
  | refl => exact ⟨hSound, hStart⟩
  | tail _ hNext ih =>
      obtain ⟨hBefore, hHeld⟩ := ih
      have hMoves := hNext.move hBefore
      exact
        ⟨hMoves.sound hBefore, hMove _ _ hBefore hHeld hMoves⟩

theorem Reaches.sound
    [LossSource γ]
    {s t : Simulation γ}
    (hReaches : Reaches s t)
    (hSound : s.Sound) :
    t.Sound :=
  (hReaches.invariant (fun _ _ _ _ _ => trivial) hSound
    trivial).1

theorem Reaches.size_nodes
    [LossSource γ]
    {s t : Simulation γ}
    (hReaches : Reaches s t)
    (hSound : s.Sound) :
    t.nodes.size = s.nodes.size :=
  (hReaches.invariant
    (fun _ _ _ hSame hMove => hMove.size_nodes.trans hSame)
    hSound rfl).2

theorem Reaches.setup_eq
    [LossSource γ]
    {s t : Simulation γ}
    (hReaches : Reaches s t)
    (hSound : s.Sound) :
    t.setup = s.setup :=
  (hReaches.invariant
    (fun _ _ _ hSame hMove => hMove.setup_eq.trans hSame)
    hSound rfl).2

end Simulation

end CollectionTree
