import CollectionTree.Proofs.Simulation.Clock
import CollectionTree.Proofs.Simulation.Gossip
import CollectionTree.Proofs.Simulation.Vicinity

/-
  Runs in which one node was closed.

  Key definitions include:
    * `Node.Shut`
    * `Simulation.closeNode`
    * `Simulation.Ignored`
    * `Simulation.Silent`

  Key theorems include:
    * `Simulation.closeNode_eq`
    * `Simulation.silent_closeNode`
    * `Simulation.Silent.turn_cases`
    * `Simulation.Silent.next`

  A closed node announces nothing and asks for nothing, and
  an event leaves it as it is.  So from then on nobody is
  told of a metric that the node announces.
-/

namespace CollectionTree

namespace Node

------------------------------------------------------------
-- Closed Nodes
------------------------------------------------------------

/- A node that is closed and announces nothing. -/
structure Shut
    (node : Node) : Prop where
  isOpen : node.connection.isOpen = false
  announced : node.announced = none

theorem Shut.prepare
    {node : Node}
    (hShut : node.Shut)
    (event : Event) :
    (Simulation.prepare node event).Shut := by
  cases event <;> exact ⟨hShut.isOpen, hShut.announced⟩

/- A closed node takes no notice of an event. -/
theorem Shut.perform_handle
    {node : Node}
    (hShut : node.Shut)
    (index : Nat)
    (event : Event) :
    node.perform index (.handle event) =
      (node, [], .done) := by
  have hHandle :
      node.connection.perform
          (node.answer (.handle event)) (.handle event) =
        node.connection.unchanged :=
    Connection.handle_closed hShut.isOpen _ event
  unfold perform
  rw [hHandle]
  rfl

/- A closed node sends no packet. -/
theorem Shut.perform_send
    {node : Node}
    (hShut : node.Shut)
    (index : Nat)
    (payload : List UInt8)
    (maxRexmit : UInt8) :
    node.perform index (.send payload maxRexmit) =
      (node, [], .failed .notOpen) := by
  have hSend :
      node.connection.perform
          (node.answer (.send payload maxRexmit))
          (.send payload maxRexmit) =
        ⟨node.connection, [], .failed .notOpen⟩ := by
    unfold Connection.perform Connection.send
    exact if_pos (by simp [hShut.isOpen])
  unfold perform
  rw [hSend]
  rfl

/- A node that is closed keeps its table. -/
theorem perform_close
    {node : Node}
    (hOpen : node.connection.isOpen = true)
    (index : Nat) :
    (node.perform index .close).1.Shut ∧
      (node.perform index .close).1.connection.neighbors =
        node.connection.neighbors ∧
      (node.perform index .close).2.1 = [] := by
  have hClose :
      node.connection.perform (node.answer .close) .close =
        ⟨{ node.connection with
            isOpen := false
            forwarding := false },
          [.withdraw, .closeLink], .done⟩ :=
    if_pos hOpen
  unfold perform
  rw [hClose]
  exact ⟨⟨rfl, rfl⟩, rfl, rfl⟩

end Node

namespace Simulation

variable {γ : Type}

/- Close the connection of a node. -/
def closeNode
    (s : Simulation γ)
    (index : Nat) : Simulation γ :=
  (s.perform index .close).1

------------------------------------------------------------
-- Silence
------------------------------------------------------------

/-
  One node is closed and all others are ready, nothing is
  asked for by the closed node, and nobody is to be told
  what it announces.
-/
structure Silent
    (setup : Setup)
    (closed : Nat)
    (s : Simulation γ) : Prop where
  setup_eq : s.setup = setup
  size : s.nodes.size ≤ 255
  exists_node : closed < s.nodes.size
  ready :
    ∀ (index : Nat) (node : Node),
      s.nodes[index]? = some node →
        index ≠ closed → node.Ready index
  shut :
    ∀ node, s.nodes[closed]? = some node → node.Shut
  lifetimes :
    ∀ (index : Nat) (node : Node),
      s.nodes[index]? = some node →
        node.connection.neighbors.lifetime =
          Duration.ofSeconds
            setup.collect.neighborLifetime.toNat 0
  requests :
    ∀ request ∈ s.outbox.toList,
      request.node < s.nodes.size ∧ request.node ≠ closed
  events :
    ∀ event ∈ s.events.toList,
      event.1 < s.nodes.size ∧
        ∀ metric,
          event.2 ≠ .announced (addressOf closed) metric

/- An event that a closed node takes no notice of. -/
structure Ignored
    (s t : Simulation γ)
    (index : Nat)
    (event : Event)
    (node next : Node) : Prop where
  outbox : s.outbox.toList = []
  quiet : t.outbox.toList = []
  events :
    s.events.toList = (index, event) :: t.events.toList
  found : s.nodes[index]? = some node
  shut : next.Shut
  kept : next.connection = node.connection
  setup : t.setup = s.setup
  nodes : t.nodes = s.nodes.setIfInBounds index next
  steps : t.steps = s.steps

/- Nobody but the closed node has its address. -/
theorem Silent.addressOf_ne
    {setup : Setup}
    {closed : Nat}
    {s : Simulation γ}
    (hSilent : s.Silent setup closed)
    {index : Nat}
    (hIndex : index < s.nodes.size)
    (hOther : index ≠ closed) :
    addressOf index ≠ addressOf closed := by
  have hSize := hSilent.size
  have hClosed := hSilent.exists_node
  intro hSame
  exact hOther
    (addressOf_inj (by omega) (by omega) hSame)

/- The closed node announces nothing. -/
theorem Silent.ne_of_announced
    {setup : Setup}
    {closed : Nat}
    {s : Simulation γ}
    (hSilent : s.Silent setup closed)
    {index : Nat}
    {metric : Metric}
    (hMetric : s.announced? index = some metric) :
    index ≠ closed := by
  intro hSame
  subst hSame
  have hNode :=
    Array.getElem?_eq_getElem hSilent.exists_node
  unfold announced? at hMetric
  rw [hNode, Option.bind_some,
    (hSilent.shut _ hNode).announced] at hMetric
  contradiction

/- News of others may be told to anyone. -/
theorem Silent.not_announced_of_news
    {setup : Setup}
    {closed : Nat}
    {s : Simulation γ}
    (hSilent : s.Silent setup closed)
    {sender : Nat}
    (hOther : sender ≠ closed)
    {metric : Metric}
    {event : Nat × Event}
    (hNews : s.IsNews sender metric event)
    (m : Metric) :
    event.2 ≠ .announced (addressOf closed) m := by
  intro hTold
  rw [hNews.tells] at hTold
  exact
    hSilent.addressOf_ne hNews.speaking hOther
      (Event.announced.inj hTold).1

theorem Silent.of_nodes_eq
    {setup : Setup}
    {closed : Nat}
    {s t : Simulation γ}
    (hSilent : s.Silent setup closed)
    (hSetup : t.setup = s.setup)
    (hNodes : t.nodes = s.nodes)
    (hRequests :
      ∀ request ∈ t.outbox.toList,
        request ∈ s.outbox.toList)
    {more : List (Nat × Event)}
    (hEvents : t.events.toList = s.events.toList ++ more)
    (hMore :
      ∀ event ∈ more,
        event.1 < s.nodes.size ∧
          ∀ metric,
            event.2 ≠
              .announced (addressOf closed) metric) :
    t.Silent setup closed := by
  constructor
  · exact hSetup.trans hSilent.setup_eq
  · rw [hNodes]
    exact hSilent.size
  · rw [hNodes]
    exact hSilent.exists_node
  · rw [hNodes]
    exact hSilent.ready
  · rw [hNodes]
    exact hSilent.shut
  · rw [hNodes]
    exact hSilent.lifetimes
  · intro request hMem
    rw [hNodes]
    exact hSilent.requests request (hRequests request hMem)
  · intro event hMem
    rw [hNodes]
    rw [hEvents, List.mem_append] at hMem
    rcases hMem with hOld | hNew
    · exact hSilent.events event hOld
    · exact hMore event hNew

theorem Silent.of_set
    {setup : Setup}
    {closed : Nat}
    {s t : Simulation γ}
    (hSilent : s.Silent setup closed)
    {index : Nat}
    {node next : Node}
    {requests : List Request}
    (hSetup : t.setup = s.setup)
    (hNode : s.nodes[index]? = some node)
    (hNodes : t.nodes = s.nodes.setIfInBounds index next)
    (hReady : index ≠ closed → next.Ready index)
    (hShut : index = closed → next.Shut)
    (hLifetime :
      next.connection.neighbors.lifetime =
        node.connection.neighbors.lifetime)
    (hOutbox :
      t.outbox.toList = s.outbox.toList ++ requests)
    (hRequests :
      ∀ request ∈ requests,
        request.node = index ∧ index ≠ closed)
    (hEvents :
      ∀ event ∈ t.events.toList,
        event ∈ s.events.toList) :
    t.Silent setup closed := by
  have hIndex : index < s.nodes.size :=
    (Array.getElem?_eq_some_iff.mp hNode).1
  have hSize : t.nodes.size = s.nodes.size := by
    rw [hNodes, Array.size_setIfInBounds]
  constructor
  · exact hSetup.trans hSilent.setup_eq
  · rw [hSize]
    exact hSilent.size
  · rw [hSize]
    exact hSilent.exists_node
  · intro other after hAfter hOpen
    rcases node_cases hNodes hAfter with
      ⟨rfl, rfl⟩ | ⟨-, hOld⟩
    · exact hReady hOpen
    · exact hSilent.ready other after hOld hOpen
  · intro after hAfter
    rcases node_cases hNodes hAfter with
      ⟨hSame, rfl⟩ | ⟨-, hOld⟩
    · exact hShut hSame.symm
    · exact hSilent.shut after hOld
  · intro other after hAfter
    rcases node_cases hNodes hAfter with
      ⟨rfl, rfl⟩ | ⟨-, hOld⟩
    · rw [hLifetime]
      exact hSilent.lifetimes other node hNode
    · exact hSilent.lifetimes other after hOld
  · intro request hMem
    rw [hSize]
    rw [hOutbox, List.mem_append] at hMem
    rcases hMem with hOld | hNew
    · exact hSilent.requests request hOld
    · obtain ⟨hSame, hOther⟩ := hRequests request hNew
      rw [hSame]
      exact ⟨hIndex, hOther⟩
  · intro event hMem
    rw [hSize]
    exact hSilent.events event (hEvents event hMem)

------------------------------------------------------------
-- Closing a Node
------------------------------------------------------------

/- Closing an open node changes that node and nothing else. -/
theorem closeNode_eq
    {s : Simulation γ}
    {index : Nat}
    {node : Node}
    (hNode : s.nodes[index]? = some node)
    (hOpen : node.connection.isOpen = true) :
    s.closeNode index =
      s.update index (node.perform index .close).1 [] := by
  obtain ⟨-, -, hNone⟩ := Node.perform_close hOpen index
  unfold closeNode perform
  rw [hNode]
  dsimp only
  rw [hNone]

/- A node that is closed when nothing waits is silent. -/
theorem silent_closeNode
    {setup : Setup}
    {s : Simulation γ}
    (hSound : s.Sound)
    (hVicinal : s.Vicinal setup)
    (hFew : setup.nodeCount.toNat ≤ 255)
    (hOutbox : s.outbox.toList = [])
    (hEvents : s.events.toList = [])
    {closed : Nat}
    (hClosed : closed < setup.nodeCount.toNat) :
    (s.closeNode closed).Silent setup closed := by
  have hIndex : closed < s.nodes.size := by
    rw [hVicinal.size]
    exact hClosed
  have hNode := Array.getElem?_eq_getElem hIndex
  have hReady := hSound.ready closed _ hNode
  obtain ⟨hShut, hTable, -⟩ :=
    Node.perform_close hReady.isOpen closed
  let next := (s.nodes[closed].perform closed .close).1
  have hNodes :
      (s.closeNode closed).nodes =
        s.nodes.setIfInBounds closed next := by
    rw [closeNode_eq hNode hReady.isOpen]
    rfl
  rw [closeNode_eq hNode hReady.isOpen] at hNodes ⊢
  constructor
  · exact hVicinal.setup_eq
  · rw [hNodes, Array.size_setIfInBounds, hVicinal.size]
    exact hFew
  · rw [hNodes, Array.size_setIfInBounds]
    exact hIndex
  · intro index node hAfter hOther
    rcases node_cases hNodes hAfter with
      ⟨hSame, -⟩ | ⟨-, hOld⟩
    · exact absurd hSame hOther
    · exact hSound.ready index node hOld
  · intro node hAfter
    rcases node_cases hNodes hAfter with
      ⟨-, rfl⟩ | ⟨hOther, -⟩
    · exact hShut
    · exact absurd rfl hOther
  · intro index node hAfter
    rcases node_cases hNodes hAfter with
      ⟨rfl, rfl⟩ | ⟨-, hOld⟩
    · rw [hTable]
      exact (hVicinal.tables index _ hNode).lifetime
    · exact (hVicinal.tables index node hOld).lifetime
  · intro request hMem
    change request ∈ s.outbox.toList at hMem
    rw [hOutbox] at hMem
    contradiction
  · intro event hMem
    change event ∈ s.events.toList at hMem
    rw [hEvents] at hMem
    contradiction

------------------------------------------------------------
-- Turns
------------------------------------------------------------

theorem ignored
    {s : Simulation γ}
    {index : Nat}
    {node : Node}
    (hNode : s.nodes[index]? = some node)
    (hShut : node.Shut)
    {event : Event}
    {events : Queue (Nat × Event)}
    (hOutbox : s.outbox.toList = [])
    (hEvents :
      s.events.toList = (index, event) :: events.toList) :
    Ignored s
      (dispatch { s with events := events } index event)
      index event node (prepare node event) := by
  have hEq :
      dispatch { s with events := events } index event =
        ({ s with events := events } : Simulation γ).update
          index (prepare node event) [] := by
    unfold dispatch
    simp only [hNode]
    rw [(hShut.prepare event).perform_handle]
  rw [hEq]
  exact
    { outbox := hOutbox
      quiet := hOutbox
      events := hEvents
      found := hNode
      shut := hShut.prepare event
      kept := node.connection_prepare event
      setup := rfl
      nodes := rfl
      steps := rfl }

/- A closed node has nothing to report. -/
theorem report_shut
    {s : Simulation γ}
    {index : Nat}
    {node : Node}
    (hNode : s.nodes[index]? = some node)
    (hShut : node.Shut) :
    s.report index = s := by
  have hSame : s.update index node [] = s := by
    have hNodes :
        s.nodes.setIfInBounds index node = s.nodes := by
      apply Array.ext_getElem?
      intro other
      rw [Array.getElem?_setIfInBounds]
      by_cases hIndex : index = other
      · subst hIndex
        rw [if_pos rfl,
          if_pos (Array.getElem?_eq_some_iff.mp hNode).1,
          hNode]
      · rw [if_neg hIndex]
    unfold update
    rw [hNodes]
    rfl
  unfold report perform
  simp only [hNode, hShut.perform_send, hSame]
  split <;> rfl

section Air

variable [LossSource γ]

theorem Silent.turn_cases
    {setup : Setup}
    {closed : Nat}
    {s t : Simulation γ}
    (hSilent : s.Silent setup closed)
    (hTurn : s.turn? = some t) :
    (∃ request, Served s t request) ∨
      (∃ index event node next, index ≠ closed ∧
        Dispatched s t index event node next) ∨
      ∃ event node next,
        Ignored s t closed event node next := by
  rcases turn_queues hTurn with
    ⟨request, outbox, hOutbox, rfl⟩ |
    ⟨index, event, events, hOutbox, hEvents, rfl⟩
  · apply Or.inl
    refine ⟨request, served_of_outbox hOutbox ?_⟩
    apply (hSilent.requests request _).1
    rw [hOutbox]
    exact List.mem_cons_self
  · apply Or.inr
    have hIndex : index < s.nodes.size := by
      apply (hSilent.events (index, event) _).1
      rw [hEvents]
      exact List.mem_cons_self
    have hNode := Array.getElem?_eq_getElem hIndex
    by_cases hClosed : index = closed
    · subst hClosed
      exact Or.inr
        ⟨event, _, _,
          ignored hNode (hSilent.shut _ hNode) hOutbox
            hEvents⟩
    · have hReady := hSilent.ready index _ hNode hClosed
      exact Or.inl
        ⟨index, event, _, _, hClosed,
          (dispatched hNode hReady hOutbox
            hEvents).choose_spec⟩

omit [LossSource γ] in
/- What is added is not announced by the closed node. -/
theorem Silent.of_adds
    {setup : Setup}
    {closed : Nat}
    {s : Simulation γ}
    (hSilent : s.Silent setup closed)
    {request : Request}
    (hMem : request ∈ s.outbox.toList)
    {event : Nat × Event}
    (hAdds : s.Adds request event) :
    event.1 < s.nodes.size ∧
      ∀ metric,
        event.2 ≠ .announced (addressOf closed) metric := by
  obtain ⟨hNode, hOther⟩ := hSilent.requests request hMem
  cases hAdds with
  | spoken _ _ _ hNews =>
      exact
        ⟨hNews.listening,
          hSilent.not_announced_of_news hOther hNews⟩
  | heard _ _ _ _ _ hMetric hNews =>
      exact
        ⟨hNews.listening,
          hSilent.not_announced_of_news
            (hSilent.ne_of_announced hMetric) hNews⟩
  | received _ _ _ hReceiver =>
      exact ⟨receiver?_lt hReceiver, by simp⟩
  | concluded => exact ⟨hNode, by simp⟩

omit [LossSource γ] in
theorem Silent.served
    {setup : Setup}
    {closed : Nat}
    {s t : Simulation γ}
    (hSilent : s.Silent setup closed)
    {request : Request}
    (hServed : Served s t request) :
    t.Silent setup closed := by
  obtain ⟨more, hEvents, hAdds⟩ := hServed.events
  refine hSilent.of_nodes_eq hServed.setup hServed.nodes
    (fun other hMem => hServed.mem_of_mem hMem) hEvents ?_
  intro event hMem
  exact hSilent.of_adds hServed.mem (hAdds event hMem)

omit [LossSource γ] in
theorem Silent.of_dispatched
    {setup : Setup}
    {closed : Nat}
    {s t : Simulation γ}
    (hSilent : s.Silent setup closed)
    {index : Nat}
    (hOther : index ≠ closed)
    {event : Event}
    {node next : Node}
    (hDispatched : Dispatched s t index event node next) :
    t.Silent setup closed := by
  have hFound := hDispatched.found
  have hHandling := hDispatched.handling
  have hReady := hSilent.ready index node hFound hOther
  have hOutbox :
      t.outbox.toList =
        s.outbox.toList ++ t.outbox.toList := by
    rw [hDispatched.outbox, List.nil_append]
  refine hSilent.of_set hDispatched.setup hFound
    hDispatched.nodes (fun _ => hHandling.ready hReady)
    (fun hSame => absurd hSame hOther) ?_ hOutbox ?_ ?_
  · rw [hHandling.neighbors_eq]
    exact Connection.lifetime_neighborsAfter _ event
  · intro request hMem
    exact ⟨hHandling.node_of_mem hMem, hOther⟩
  · intro later hMem
    rw [hDispatched.events]
    exact List.mem_cons_of_mem _ hMem

omit [LossSource γ] in
theorem Silent.of_ignored
    {setup : Setup}
    {closed : Nat}
    {s t : Simulation γ}
    (hSilent : s.Silent setup closed)
    {event : Event}
    {node next : Node}
    (hIgnored : Ignored s t closed event node next) :
    t.Silent setup closed := by
  have hOutbox :
      t.outbox.toList = s.outbox.toList ++ [] := by
    rw [hIgnored.outbox, hIgnored.quiet]
    rfl
  refine hSilent.of_set hIgnored.setup hIgnored.found
    hIgnored.nodes (fun hOther => absurd rfl hOther)
    (fun _ => hIgnored.shut) ?_ hOutbox ?_ ?_
  · rw [hIgnored.kept]
  · intro request hMem
    contradiction
  · intro later hMem
    rw [hIgnored.events]
    exact List.mem_cons_of_mem _ hMem

omit [LossSource γ] in
theorem Silent.report
    {setup : Setup}
    {closed : Nat}
    {s : Simulation γ}
    (hSilent : s.Silent setup closed)
    (index : Nat) :
    (s.report index).Silent setup closed := by
  by_cases hOther : index = closed
  · have hNode :=
      Array.getElem?_eq_getElem hSilent.exists_node
    subst hOther
    rw [report_shut hNode (hSilent.shut _ hNode)]
    exact hSilent
  · rcases report_cases (fun node hNode =>
      hSilent.ready index node hNode hOther) with
      ⟨hSame, -⟩ |
      ⟨node, next, requests, reply, hReported⟩
    · rw [hSame]
      exact hSilent
    · have hFound := hReported.found
      have hReporting := hReported.reporting
      have hReady := hSilent.ready index node hFound hOther
      refine hSilent.of_set hReported.setup hFound
        hReported.nodes (fun _ => hReporting.ready hReady)
        (fun hSame => absurd hSame hOther) ?_
        hReported.outbox ?_ ?_
      · rw [hReporting.neighbors_eq]
      · intro request hMem
        exact ⟨hReporting.node_of_mem hMem, hOther⟩
      · intro event hMem
        rw [← hReported.events]
        exact hMem

/- A run in which one node is closed stays like that. -/
theorem Silent.next
    {setup : Setup}
    {closed : Nat}
    {s t : Simulation γ}
    (hSilent : s.Silent setup closed)
    (hNext : Next s t) :
    t.Silent setup closed := by
  cases hNext with
  | tick =>
      refine hSilent.of_nodes_eq rfl rfl
        (fun request hMem => hMem)
        (Queue.toList_pushAll _ _) ?_
      intro event hMem
      rcases List.mem_map.mp hMem with ⟨index, hIndex, rfl⟩
      exact ⟨List.mem_range.mp hIndex, by simp⟩
  | beacon index =>
      obtain ⟨hSetup, hNodes, hOutbox, -⟩ :=
        beacon_frame s index
      rcases beacon_news s index with
        ⟨more, hEvents, hNews⟩
      refine hSilent.of_nodes_eq hSetup hNodes ?_ hEvents ?_
      · intro request hMem
        exact hOutbox ▸ hMem
      · intro event hMem
        rcases hNews event hMem with
          ⟨metric, hMetric, hTells⟩
        exact
          ⟨hTells.listening,
            hSilent.not_announced_of_news
              (hSilent.ne_of_announced hMetric) hTells⟩
  | report index => exact hSilent.report index
  | turn _ hTurn =>
      rcases hSilent.turn_cases hTurn with
        ⟨request, hServed⟩ |
        ⟨index, event, node, next, hOther, hDispatched⟩ |
        ⟨event, node, next, hIgnored⟩
      · exact hSilent.served hServed
      · exact hSilent.of_dispatched hOther hDispatched
      · exact hSilent.of_ignored hIgnored

theorem Silent.reaches
    {setup : Setup}
    {closed : Nat}
    {s t : Simulation γ}
    (hSilent : s.Silent setup closed)
    (hReaches : Reaches s t) :
    t.Silent setup closed := by
  induction hReaches with
  | refl => exact hSilent
  | tail _ hNext ih => exact ih.next hNext

end Air

end Simulation

end CollectionTree
