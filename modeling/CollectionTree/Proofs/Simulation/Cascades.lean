import CollectionTree.Proofs.Levels
import CollectionTree.Proofs.Simulation.Accounts
import CollectionTree.Proofs.Simulation.Clock
import CollectionTree.Proofs.Simulation.Vicinity
import Mathlib.Data.DFinsupp.WellFounded
import Mathlib.Data.Prod.Lex

/-
  Taking turns comes to an end.

  Key definitions include:
    * `Simulation.load`
    * `Simulation.news`
    * `Simulation.weight`
    * `Simulation.withLosses`

  Key theorems include:
    * `Simulation.weight_served_lt`
    * `Simulation.weight_dispatched_lt`
    * `Simulation.weight_turn_lt`
    * `Simulation.cascades_end`

  A packet is handed over with one hop less to go, so what
  waits because of packets becomes less and less.  Metrics
  may go up and down meanwhile.  But an announcement changes
  routes only on levels above its own or above that of the
  entry it replaces.  On the lowest level that changes,
  there is less to be told and to be known.
-/

namespace CollectionTree

------------------------------------------------------------
-- Requests and Events
------------------------------------------------------------

/- What a request leads to, apart from announcements. -/
def Request.load : Request → Nat
  | .unicast _ handover => 3 * handover.packet.ttl.toNat + 3
  | .announce _ _ => 0
  | .listen _ _ => 1

/- What an event leads to, apart from announcements. -/
def Event.load : Event → Nat
  | .received _ packet => 3 * packet.ttl.toNat + 1
  | .sent _ _ _ => 1
  | .announced _ _ => 0
  | .elapsed _ => 1

/- Whether a request is to announce a metric on a level. -/
def Request.isOn
    (level : Fin 8192) : Request → Bool
  | .announce _ metric => metric.level = level
  | _ => false

/- Whether an event is to hear a metric on a level. -/
def Event.isOn
    (level : Fin 8192) : Event → Bool
  | .announced _ metric => metric.level = level
  | _ => false

namespace Node

theorem Rerouted.load_eq_zero
    {index : Nat}
    {node next : Node}
    {d : Connection}
    {requests : List Request}
    (hRerouted : Rerouted index node d next requests) :
    (requests.map Request.load).sum = 0 := by
  cases hRerouted <;> rfl

/-
  What a node asks for leads to less than the event that it
  handles, unless the event is an announcement.
-/
theorem Handling.load_cases
    {index : Nat}
    {node next : Node}
    {event : Event}
    {requests : List Request}
    (hHandling : Handling index node event next requests) :
    (requests.map Request.load).sum < event.load ∨
      ∃ sender metric, event = .announced sender metric := by
  cases hHandling with
  | echoed sender metric =>
      exact Or.inr ⟨sender, metric, rfl⟩
  | heard sender metric =>
      exact Or.inr ⟨sender, metric, rfl⟩
  | aged _ _ _ hRerouted =>
      rw [hRerouted.load_eq_zero]
      exact Or.inl Nat.one_pos
  | concluded _ _ _ _ _ hRerouted =>
      rw [hRerouted.load_eq_zero]
      exact Or.inl Nat.one_pos
  | received sender packet outcome hReception =>
      apply Or.inl
      cases hReception with
      | relayed _ _ hTtl =>
          -- The packet has one hop less to go.
          rw [UInt8.le_iff_toNat_le] at hTtl
          have hOne : (1 : UInt8).toNat = 1 := rfl
          have hLess :
              (packet.ttl - 1).toNat =
                packet.ttl.toNat - 1 := by
            rw [UInt8.toNat_sub_of_le]
            · rw [hOne]
            · rw [UInt8.le_iff_toNat_le]
              omega
          change 3 * (packet.ttl - 1).toNat + 3 + 0 <
            3 * packet.ttl.toNat + 1
          omega
      | refused _ _ _ _ _ _ _ _ failure hAnswer =>
          contradiction
      | _ => exact Nat.succ_pos _

/- A node announces nothing on levels below its route. -/
theorem Rerouted.isOn_eq_false
    {index : Nat}
    {node next : Node}
    {d : Connection}
    {requests : List Request}
    (hRerouted : Rerouted index node d next requests)
    {level : Fin 8192}
    (hBelow :
      d.role ≠ .sink → d.routeMetric ≠ d.metric →
        level < d.routeMetric.level) :
    requests.countP (Request.isOn level) = 0 := by
  cases hRerouted with
  | kept => rfl
  | changed hRole hChanged =>
      have hLess := hBelow hRole hChanged
      rw [List.countP_singleton, if_neg]
      exact fun hOn =>
        absurd (of_decide_eq_true hOn) (ne_of_gt hLess)

end Node

namespace Simulation

variable {γ : Type}

------------------------------------------------------------
-- Weights
------------------------------------------------------------

/- What the queues lead to, apart from announcements. -/
def load
    (s : Simulation γ) : Nat :=
  (s.outbox.toList.map Request.load).sum +
    (s.events.toList.map (fun event => event.2.load)).sum

/-
  How much there is to be heard on a level.  A request is
  heard by all nodes at most, and counts for one more.
-/
def talk
    (s : Simulation γ)
    (level : Fin 8192) : Nat :=
  (s.nodes.size + 1) *
      s.outbox.toList.countP (Request.isOn level) +
    s.events.toList.countP (fun event => event.2.isOn level)

/- How many entries of all tables are on a level. -/
def known
    (s : Simulation γ)
    (level : Fin 8192) : Nat :=
  s.total (fun node =>
    node.connection.neighbors.known level)

/- What is to be heard counts more than what is known. -/
def news
    (s : Simulation γ)
    (level : Fin 8192) : Nat :=
  2 * s.talk level + s.known level

/- Packets come first, and then the levels from below. -/
def weight
    (s : Simulation γ) : Nat ×ₗ Lex (Fin 8192 → Nat) :=
  toLex (s.load, toLex s.news)

theorem weight_lt_of_load
    {s t : Simulation γ}
    (hLoad : t.load < s.load) :
    t.weight < s.weight :=
  Prod.Lex.toLex_lt_toLex.mpr (Or.inl hLoad)

theorem weight_lt_of_news
    {s t : Simulation γ}
    (hLoad : t.load = s.load)
    (low : Fin 8192)
    (hBelow :
      ∀ level, level < low → t.news level = s.news level)
    (hLow : t.news low < s.news low) :
    t.weight < s.weight :=
  Prod.Lex.toLex_lt_toLex.mpr
    (Or.inr ⟨hLoad, low, hBelow, hLow⟩)

------------------------------------------------------------
-- Serving Requests
------------------------------------------------------------

/- A request leaves the queue, and events are added. -/
theorem load_of_served
    {s t : Simulation γ}
    {request : Request}
    (hOutbox :
      s.outbox.toList = request :: t.outbox.toList)
    {more : List (Nat × Event)}
    (hEvents : t.events.toList = s.events.toList ++ more) :
    t.load + request.load =
      s.load + (more.map (fun event => event.2.load)).sum := by
  unfold load
  rw [hOutbox, hEvents, List.map_cons, List.sum_cons,
    List.map_append, List.sum_append]
  omega

theorem load_of_news
    {s : Simulation γ}
    {more : List (Nat × Event)}
    (hNews :
      ∀ event ∈ more, ∃ sender metric,
        s.IsNews sender metric event) :
    (more.map (fun event => event.2.load)).sum = 0 := by
  apply List.sum_eq_zero
  intro load hMem
  rcases List.mem_map.mp hMem with ⟨event, hEvent, rfl⟩
  rcases hNews event hEvent with ⟨sender, metric, hTells⟩
  rw [hTells.tells]
  rfl

theorem news_of_served
    {s t : Simulation γ}
    {request : Request}
    (hOutbox :
      s.outbox.toList = request :: t.outbox.toList)
    {more : List (Nat × Event)}
    (hEvents : t.events.toList = s.events.toList ++ more)
    (hNodes : t.nodes = s.nodes)
    (level : Fin 8192) :
    t.news level +
        2 * ((s.nodes.size + 1) *
          (request.isOn level).toNat) =
      s.news level +
        2 * more.countP (fun event =>
          event.2.isOn level) := by
  have hRequest :
      [request].countP (Request.isOn level) =
        (request.isOn level).toNat := by
    rw [List.countP_singleton]
    cases request.isOn level <;> rfl
  have hKnown : t.known level = s.known level :=
    total_of_nodes_eq hNodes _
  have hSplit :
      s.outbox.toList = [request] ++ t.outbox.toList :=
    hOutbox
  unfold news talk
  rw [hKnown, hNodes, hSplit, hEvents, List.countP_append,
    List.countP_append, hRequest,
    Nat.mul_add (s.nodes.size + 1)]
  omega

section Turns

variable [LossSource γ]

/- An announcement is heard by less nodes than it counts for. -/
theorem weight_announced_lt
    {s : Simulation γ}
    {sender : Nat}
    (hSender : sender < s.nodes.size)
    {metric : Metric}
    {outbox : Queue Request}
    (hOutbox :
      s.outbox.toList =
        .announce sender metric :: outbox.toList) :
    (({ s with outbox := outbox } :
      Simulation γ).broadcast sender metric).weight <
        s.weight := by
  rcases broadcast_news (s := { s with outbox := outbox })
    hSender metric with ⟨more, hEvents, hFew, hNews⟩
  have hLoad := load_of_served (s := s) hOutbox hEvents
  have hServed :=
    news_of_served (s := s) hOutbox hEvents rfl
  rw [load_of_news (fun event hMem =>
    ⟨sender, metric, hNews event hMem⟩)] at hLoad
  refine weight_lt_of_news hLoad metric.level ?_ ?_
  · intro level hLess
    have hOther : metric.level ≠ level := ne_of_gt hLess
    have hNone :
        more.countP (fun event => event.2.isOn level) = 0 := by
      rw [List.countP_eq_zero]
      intro event hMem hOn
      rw [(hNews event hMem).tells] at hOn
      exact hOther (of_decide_eq_true hOn)
    have hLevel := hServed level
    rw [hNone, show (Request.announce sender metric).isOn
      level = false from decide_eq_false hOther] at hLevel
    exact hLevel
  · have hAll :=
      List.countP_le_length
        (p := fun event : Nat × Event =>
          event.2.isOn metric.level) (l := more)
    have hLevel := hServed metric.level
    rw [show (Request.announce sender metric).isOn
      metric.level = true from decide_eq_true rfl,
      Bool.toNat_true, Nat.mul_one] at hLevel
    have hSize : more.length ≤ s.nodes.size := hFew
    omega

/- A request that is served makes the weight less. -/
theorem weight_served_lt
    {s : Simulation γ}
    (hSound : s.Sound)
    {request : Request}
    {outbox : Queue Request}
    (hOutbox :
      s.outbox.toList = request :: outbox.toList) :
    (({ s with outbox := outbox } :
      Simulation γ).serve request).weight < s.weight := by
  have hNode : request.node < s.nodes.size := by
    apply hSound.requests request
    rw [hOutbox]
    exact List.mem_cons_self
  cases request with
  | announce sender metric =>
      exact weight_announced_lt hNode hOutbox
  | listen listener bursts =>
      rcases serveListen_news
        (s := { s with outbox := outbox }) hNode
        bursts.toNat with ⟨more, hEvents, hNews⟩
      have hLoad := load_of_served (s := s) hOutbox hEvents
      rw [load_of_news (fun event hMem => by
        rcases hNews event hMem with
          ⟨sender, metric, -, hTells⟩
        exact ⟨sender, metric, hTells⟩)] at hLoad
      exact weight_lt_of_load (Nat.lt_of_succ_le
        (Nat.le_of_eq hLoad))
  | unicast sender handover =>
      have hFrame :=
        serveUnicast_frame
          { s with outbox := outbox } sender handover
      have hServed :
          s.outbox.toList =
            .unicast sender handover ::
              (({ s with outbox := outbox } :
                Simulation γ).serve
                  (.unicast sender
                    handover)).outbox.toList := by
        rw [hOutbox]
        exact
          congrArg (_ :: Queue.toList ·) hFrame.2.2.1.symm
      apply weight_lt_of_load
      rcases serveUnicast_cases { s with outbox := outbox }
        sender handover with
        ⟨index, transmissions, -, hEvents, -⟩ |
        ⟨transmissions, hEvents, -⟩
      · have hLoad := load_of_served hServed hEvents
        simp only [Request.load, Event.load, List.map_cons,
          List.map_nil, List.sum_cons, List.sum_nil] at hLoad
        omega
      · have hLoad := load_of_served hServed hEvents
        simp only [Request.load, Event.load, List.map_cons,
          List.map_nil, List.sum_cons, List.sum_nil] at hLoad
        omega

------------------------------------------------------------
-- Handing Over Events
------------------------------------------------------------

omit [LossSource γ] in
theorem load_of_dispatched
    {s t : Simulation γ}
    {index : Nat}
    {event : Event}
    {node next : Node}
    (hDispatched : Dispatched s t index event node next) :
    t.load + event.load =
      s.load + (t.outbox.toList.map Request.load).sum := by
  unfold load
  rw [hDispatched.outbox, hDispatched.events, List.map_cons,
    List.sum_cons, List.map_nil, List.sum_nil]
  dsimp only
  omega

omit [LossSource γ] in
theorem news_of_dispatched
    {s t : Simulation γ}
    {index : Nat}
    {event : Event}
    {node next : Node}
    (hDispatched : Dispatched s t index event node next)
    {level : Fin 8192}
    (hQuiet :
      t.outbox.toList.countP (Request.isOn level) = 0) :
    t.news level + 2 * (event.isOn level).toNat +
        node.connection.neighbors.known level =
      s.news level +
        next.connection.neighbors.known level := by
  have hEvent :
      [(index, event)].countP
          (fun event => event.2.isOn level) =
        (event.isOn level).toNat := by
    rw [List.countP_singleton]
    cases event.isOn level <;> rfl
  have hSplit :
      s.events.toList =
        [(index, event)] ++ t.events.toList :=
    hDispatched.events
  have hTotal :=
    total_of_set hDispatched.found hDispatched.nodes
      (fun node => node.connection.neighbors.known level)
  unfold news talk known
  rw [hDispatched.outbox, hSplit, hQuiet,
    List.countP_append, hEvent, List.countP_nil]
  omega

omit [LossSource γ] in
/-
  The weight becomes less if the table is as it was below
  some level, and less is known on that level than was heard.
-/
theorem weight_lt_of_low
    {s t : Simulation γ}
    {index : Nat}
    {sender : Address}
    {metric : Metric}
    {node next : Node}
    (hDispatched :
      Dispatched s t index (.announced sender metric)
        node next)
    (hIdle :
      (t.outbox.toList.map Request.load).sum = 0)
    {low : Fin 8192}
    (hLow : low ≤ metric.level)
    (hQuiet :
      ∀ level, level ≤ low →
        t.outbox.toList.countP (Request.isOn level) = 0)
    (hBelow :
      ∀ level, level < low →
        next.connection.neighbors.known level =
          node.connection.neighbors.known level)
    (hLess :
      next.connection.neighbors.known low <
        node.connection.neighbors.known low +
          if metric.level = low then 2 else 0) :
    t.weight < s.weight := by
  have hLoad : t.load = s.load := by
    have hSum := load_of_dispatched hDispatched
    rw [hIdle] at hSum
    exact hSum
  refine weight_lt_of_news hLoad low ?_ ?_
  · intro level hUnder
    have hNews :=
      news_of_dispatched hDispatched
        (hQuiet level (le_of_lt hUnder))
    have hOther : metric.level ≠ level :=
      ne_of_gt (lt_of_lt_of_le hUnder hLow)
    rw [show (Event.announced sender metric).isOn level =
      false from decide_eq_false hOther, Bool.toNat_false,
      hBelow level hUnder] at hNews
    omega
  · have hNews :=
      news_of_dispatched hDispatched
        (hQuiet low (le_refl low))
    by_cases hSame : metric.level = low
    · rw [show (Event.announced sender metric).isOn low =
        true from decide_eq_true hSame,
        Bool.toNat_true] at hNews
      rw [if_pos hSame] at hLess
      omega
    · rw [show (Event.announced sender metric).isOn low =
        false from decide_eq_false hSame,
        Bool.toNat_false] at hNews
      rw [if_neg hSame] at hLess
      omega

omit [LossSource γ] in
/- An announcement that is heard makes the weight less. -/
theorem weight_heard_lt
    {s t : Simulation γ}
    (hSound : s.Sound)
    {index : Nat}
    {sender : Address}
    {metric : Metric}
    {node next : Node}
    (hDispatched :
      Dispatched s t index (.announced sender metric)
        node next) :
    t.weight < s.weight := by
  have hCoherent :=
    (hSound.ready index node hDispatched.found).coherent
  have hHandling := hDispatched.handling
  generalize hAsked : t.outbox.toList = requests at hHandling
  cases hHandling with
  | echoed =>
      apply weight_lt_of_low hDispatched
        (hAsked ▸ rfl) (le_refl metric.level)
      · intro level _
        rw [hAsked]
        rfl
      · intro level _
        rfl
      · rw [if_pos rfl]
        omega
  | heard _ _ _ _ _ hRerouted =>
      rcases Connection.exists_low_level hCoherent.links
        (d := node.connection.informed sender metric) rfl
        with ⟨low, hLow, hBelow, hLess, hRoute⟩
      rw [← hRerouted.neighbors_eq] at hBelow hLess
      refine weight_lt_of_low hDispatched ?_ hLow ?_ hBelow
        hLess
      · rw [hAsked]
        exact hRerouted.load_eq_zero
      · intro level hUnder
        rw [hAsked]
        apply hRerouted.isOn_eq_false
        intro hRole hChanged
        apply lt_of_le_of_lt hUnder
        apply hRoute
        rw [← hCoherent.metric hRole]
        exact hChanged

omit [LossSource γ] in
/- An event that a node handles makes the weight less. -/
theorem weight_dispatched_lt
    {s t : Simulation γ}
    (hSound : s.Sound)
    {index : Nat}
    {event : Event}
    {node next : Node}
    (hDispatched : Dispatched s t index event node next) :
    t.weight < s.weight := by
  rcases hDispatched.handling.load_cases with
    hLess | ⟨sender, metric, rfl⟩
  · have hLoad := load_of_dispatched hDispatched
    apply weight_lt_of_load
    omega
  · exact weight_heard_lt hSound hDispatched

------------------------------------------------------------
-- The End of a Cascade
------------------------------------------------------------

/- Every turn makes the weight less. -/
theorem weight_turn_lt
    {s t : Simulation γ}
    (hSound : s.Sound)
    (hTurn : s.turn? = some t) :
    t.weight < s.weight := by
  rcases turn_cases hSound hTurn with
    ⟨request, outbox, hOutbox, rfl⟩ |
    ⟨index, event, node, next, hDispatched⟩
  · exact weight_served_lt hSound hOutbox
  · exact weight_dispatched_lt hSound hDispatched

/- Since no weight can become less forever, turns end. -/
theorem Sound.exists_pump
    {s : Simulation γ}
    (hSound : s.Sound) :
    ∃ turns, (s.pump turns).turn? = none := by
  induction hWeight : s.weight using
    WellFoundedLT.induction generalizing s with
  | ind weight ih =>
      cases hTurn : s.turn? with
      | none => exact ⟨0, hTurn⟩
      | some t =>
          have hLess := weight_turn_lt hSound hTurn
          have hNext :=
            (Next.turn s t hTurn).move hSound
          rcases ih t.weight (hWeight ▸ hLess)
            (hNext.sound hSound) rfl with ⟨turns, hEnd⟩
          refine ⟨turns + 1, ?_⟩
          unfold pump
          rw [hTurn]
          exact hEnd

end Turns

/- The state as it is, with losses from another source. -/
def withLosses
    {δ : Type}
    (s : Simulation γ)
    (draws : δ) : Simulation δ :=
  { setup := s.setup
    nodes := s.nodes
    outbox := s.outbox
    events := s.events
    steps := s.steps
    losses := draws
    traffic := s.traffic }

theorem Sound.withLosses
    {δ : Type}
    {s : Simulation γ}
    (hSound : s.Sound)
    (draws : δ) :
    (s.withLosses draws).Sound :=
  { ready := hSound.ready
    requests := hSound.requests
    events := hSound.events }

/-
  From every state of every run, and with whatever losses
  from then on, the queues are empty after some turns.
-/
theorem cascades_end
    {γ δ : Type}
    [LossSource γ]
    [LossSource δ]
    {setup : Setup}
    {losses : γ}
    {s : Simulation γ}
    (hReaches : Reaches (start setup losses) s)
    (draws : δ) :
    ∃ turns,
      ((s.withLosses draws).pump turns).outbox.toList =
          [] ∧
        ((s.withLosses draws).pump turns).events.toList =
          [] := by
  have hSound := hReaches.sound (sound_start setup losses)
  rcases (hSound.withLosses draws).exists_pump with
    ⟨turns, hEnd⟩
  exact ⟨turns, turn?_eq_none_iff.mp hEnd⟩

/- A step of a line of three nodes that send readings ends. -/
theorem cascades_end_of_line :
    let setup : Setup :=
      { Setup.standard with
        nodeCount := 3
        beaconInterval := 1
        messageInterval := 1 }
    let losses :=
      SeededLosses.ofSeed setup.linkLoss setup.seed
    let s := (run 1 (start setup losses)).begun
    s.turn?.isSome = true ∧
      ∃ turns,
        ((s.withLosses losses).pump turns).outbox.toList =
            [] ∧
          ((s.withLosses losses).pump turns).events.toList =
            [] := by
  intro setup losses s
  constructor
  · decide +kernel
  · exact
      cascades_end (reaches_turns 1 0 (start setup losses))
        losses

end Simulation

end CollectionTree
