import CollectionTree.Connection

/-
  What each operation of a connection can do, and runs of
  operations.

  Key definitions include:
    * `Connection.Unused`
    * `Connection.after`
    * `Connection.Sending`
    * `Connection.Reception`
    * `Connection.route`

  Key theorems include:
    * `Connection.toNat_nextByte`
    * `Connection.toNat_ttl_advance`
    * `Connection.sending`
    * `Connection.reception`
    * `Connection.updateMetric_cases`
    * `Connection.route_send`
    * `Connection.route_receive`
    * `Connection.isOpen_send`
    * `Connection.isOpen_receive`

  There is one case for each way through an operation, with
  all that was tested on the way.  What is said of an
  operation elsewhere is said case by case.
-/

namespace CollectionTree

namespace Connection

------------------------------------------------------------
-- Hops
------------------------------------------------------------

theorem toNat_nextByte
    (n : UInt8) :
    (nextByte n).toNat = min (n.toNat + 1) 255 := by
  have hByte : n.toNat < 256 := UInt8.toNat_lt n
  unfold nextByte
  by_cases hMost : n = 255
  · rw [if_pos hMost, hMost]
    rfl
  · have hLess : n.toNat ≠ 255 := fun hSame =>
      hMost (UInt8.toNat_inj.mp hSame)
    rw [if_neg hMost, UInt8.toNat_add]
    change (n.toNat + 1) % 256 = _
    omega

/- A packet that has hops left has one less after a hop. -/
theorem toNat_ttl_advance
    {packet : Packet}
    (hTtl : ¬ packet.ttl ≤ 1) :
    (advance packet).ttl.toNat + 1 = packet.ttl.toNat := by
  have hLeft : 1 < packet.ttl.toNat := by
    simpa [UInt8.le_iff_toNat_le] using hTtl
  have hOne : (1 : UInt8) ≤ packet.ttl := by
    rw [UInt8.le_iff_toNat_le]
    exact Nat.le_of_lt hLeft
  have hSub :
      (advance packet).ttl.toNat = packet.ttl.toNat - 1 :=
    UInt8.toNat_sub_of_le packet.ttl 1 hOne
  omega

------------------------------------------------------------
-- Runs
------------------------------------------------------------

/-
  A connection that nothing was done to: made from settings
  that pass the check, or around a table without entries.
-/
inductive Unused :
    Connection → Prop
  | ofConfig
      (address : Address)
      (config : Config)
      (c : Connection)
      (hNew : new? address config = .ok c) :
      Unused c
  | ofTables
      (address : Address)
      (config : Config)
      (neighbors : NeighborTable)
      (recent : RecentPackets)
      (hEmpty : neighbors.entries = []) :
      Unused (withTables address config neighbors recent)

/-
  The connection after some operations.  The answers of the
  transport come with them, so that it may behave in any way.
-/
def after
    (c : Connection) :
    List (Operation × Answer) → Connection
  | [] => c
  | (operation, answer) :: rest =>
      (c.perform answer operation).connection.after rest

/- Either way of making a connection gives empty tables. -/
theorem Unused.eq_withTables
    {c : Connection}
    (hUnused : c.Unused) :
    ∃ address config neighbors recent,
      neighbors.entries = [] ∧
        c = withTables address config neighbors recent := by
  cases hUnused with
  | ofConfig address config c hNew =>
      unfold new? at hNew
      cases hValid : config.validate with
      | error failure => simp [hValid] at hNew
      | ok _ =>
          simp only [hValid, Except.ok.injEq] at hNew
          exact ⟨_, _, _, _, rfl, hNew.symm⟩
  | ofTables address config neighbors recent hEmpty =>
      exact ⟨_, _, _, _, hEmpty, rfl⟩

------------------------------------------------------------
-- Originating Packets
------------------------------------------------------------

/- What becomes of a packet that an open node originates. -/
inductive Sending
    (c : Connection)
    (answer : Answer)
    (packet : Packet) :
    Outcome → Prop
  | delivered
      (hRole : c.role = .sink) :
      Sending c answer packet
        (c.countOriginated.deliver { packet with hops := 0 }
          (.sent .deliveredLocally))
  | dropped
      (hRole : c.role ≠ .sink)
      (hBest : c.neighbors.best = none) :
      Sending c answer packet
        ⟨c.countOriginated.countNoRoute,
          [.listen c.config.noRouteListenBursts],
          .sent .droppedNoRoute⟩
  | refused
      (hRole : c.role ≠ .sink)
      (n : Neighbor)
      (hBest : c.neighbors.best = some n)
      (failure : Failure)
      (hAnswer : answer = .error failure) :
      Sending c answer packet
        ⟨c.countOriginated,
          [.refuse (c.handover n.address packet)],
          .failed failure⟩
  | handedOver
      (hRole : c.role ≠ .sink)
      (n : Neighbor)
      (hBest : c.neighbors.best = some n)
      (hAnswer : answer = .ok ()) :
      Sending c answer packet
        ⟨{ c.countOriginated with forwarding := true },
          [.transmit (c.handover n.address packet)],
          .sent (.forwarded n.address)⟩

theorem sending
    {c : Connection}
    (hOpen : c.isOpen = true)
    (answer : Answer)
    (payload : List UInt8)
    (maxRexmit : UInt8) :
    Sending c answer (c.originate payload maxRexmit)
      (c.send answer payload maxRexmit) := by
  unfold send
  simp only [hOpen, Bool.not_true, Bool.false_eq_true,
    if_false]
  by_cases hRole : c.role = .sink
  · rw [if_pos hRole]
    exact .delivered hRole
  · rw [if_neg hRole]
    cases hBest : c.neighbors.best with
    | none => exact .dropped hRole hBest
    | some n =>
        cases answer with
        | error failure =>
            exact .refused hRole n hBest failure rfl
        | ok _ => exact .handedOver hRole n hBest rfl

------------------------------------------------------------
-- Taking Packets
------------------------------------------------------------

/- The state after a packet that was new to the node. -/
def remember
    (c : Connection)
    (packet : Packet) : Connection :=
  { c with recent := c.recent.record packet.id }

/- What becomes of a packet that reaches an open node. -/
inductive Reception
    (c : Connection)
    (answer : Answer)
    (sender : Address)
    (packet : Packet) :
    Outcome → Prop
  | duplicate
      (hSeen : c.recent.seen packet.id = true) :
      Reception c answer sender packet
        ⟨{ c with
            stats :=
              { c.stats with
                duplicatesDropped :=
                  c.stats.duplicatesDropped + 1 } },
          [], .done⟩
  | delivered
      (hNew : c.recent.seen packet.id = false)
      (hRole : c.role = .sink) :
      Reception c answer sender packet
        ((c.remember packet).deliver packet .done)
  | expired
      (hNew : c.recent.seen packet.id = false)
      (hRole : c.role ≠ .sink)
      (hTtl : packet.ttl ≤ 1) :
      Reception c answer sender packet
        ⟨{ c.remember packet with
            stats :=
              { c.stats with
                ttlDrops := c.stats.ttlDrops + 1 } },
          [], .done⟩
  | disconnected
      (hNew : c.recent.seen packet.id = false)
      (hRole : c.role ≠ .sink)
      (hTtl : ¬ packet.ttl ≤ 1)
      (hMetric : c.metric = Metric.unreachable) :
      Reception c answer sender packet
        ⟨(c.remember packet).countNoRoute, [], .done⟩
  | busy
      (hNew : c.recent.seen packet.id = false)
      (hRole : c.role ≠ .sink)
      (hTtl : ¬ packet.ttl ≤ 1)
      (hMetric : c.metric ≠ Metric.unreachable)
      (hForwarding : c.forwarding = true) :
      Reception c answer sender packet
        ⟨{ c.remember packet with
            stats :=
              { c.stats with
                busyDrops := c.stats.busyDrops + 1 } },
          [], .done⟩
  | unrouted
      (hNew : c.recent.seen packet.id = false)
      (hRole : c.role ≠ .sink)
      (hTtl : ¬ packet.ttl ≤ 1)
      (hMetric : c.metric ≠ Metric.unreachable)
      (hForwarding : c.forwarding = false)
      (hBest :
        ∀ n, c.neighbors.best = some n →
          n.address = sender) :
      Reception c answer sender packet
        ⟨(c.remember packet).countNoRoute, [], .done⟩
  | refused
      (hNew : c.recent.seen packet.id = false)
      (hRole : c.role ≠ .sink)
      (hTtl : ¬ packet.ttl ≤ 1)
      (hMetric : c.metric ≠ Metric.unreachable)
      (hForwarding : c.forwarding = false)
      (n : Neighbor)
      (hBest : c.neighbors.best = some n)
      (hAway : n.address ≠ sender)
      (failure : Failure)
      (hAnswer : answer = .error failure) :
      Reception c answer sender packet
        ⟨c.remember packet,
          [.refuse (c.handover n.address (advance packet))],
          .done⟩
  | relayed
      (hNew : c.recent.seen packet.id = false)
      (hRole : c.role ≠ .sink)
      (hTtl : ¬ packet.ttl ≤ 1)
      (hMetric : c.metric ≠ Metric.unreachable)
      (hForwarding : c.forwarding = false)
      (n : Neighbor)
      (hBest : c.neighbors.best = some n)
      (hAway : n.address ≠ sender)
      (hAnswer : answer = .ok ()) :
      Reception c answer sender packet
        ⟨{ c.remember packet with
            forwarding := true
            stats :=
              { c.stats with
                forwarded := c.stats.forwarded + 1 } },
          [.transmit
            (c.handover n.address (advance packet))],
          .done⟩

/- The way of a packet that is to be passed on. -/
theorem reception_relay
    {c : Connection}
    (answer : Answer)
    (sender : Address)
    {packet : Packet}
    (hNew : c.recent.seen packet.id = false)
    (hRole : c.role ≠ .sink)
    (hTtl : ¬ packet.ttl ≤ 1)
    (hMetric : c.metric ≠ Metric.unreachable) :
    Reception c answer sender packet
      ((c.remember packet).relay answer sender
        (advance packet)) := by
  unfold relay
  by_cases hForwarding : c.forwarding = true
  · rw [if_pos (show (c.remember packet).forwarding = true
      from hForwarding)]
    exact .busy hNew hRole hTtl hMetric hForwarding
  · rw [if_neg (show ¬ (c.remember packet).forwarding = true
      from hForwarding)]
    have hIdle : c.forwarding = false := by
      simpa using hForwarding
    cases hBest : (c.remember packet).neighbors.best with
    | none =>
        exact .unrouted hNew hRole hTtl hMetric hIdle
          (fun n hSome => by
            rw [show c.neighbors.best = none from hBest]
              at hSome
            contradiction)
    | some n =>
        have hBest' : c.neighbors.best = some n := hBest
        by_cases hBack : n.address = sender
        · simp only [hBack, if_true]
          exact .unrouted hNew hRole hTtl hMetric hIdle
            (fun m hSome => by
              rw [hBest', Option.some.injEq] at hSome
              exact hSome ▸ hBack)
        · simp only [hBack, if_false]
          cases answer with
          | error failure =>
              exact .refused hNew hRole hTtl hMetric hIdle n
                hBest' hBack failure rfl
          | ok _ =>
              exact .relayed hNew hRole hTtl hMetric hIdle n
                hBest' hBack rfl

/- The way of a packet that is new to the node. -/
theorem reception_accept
    {c : Connection}
    (answer : Answer)
    (sender : Address)
    {packet : Packet}
    (hNew : c.recent.seen packet.id = false) :
    Reception c answer sender packet
      ((c.remember packet).accept answer sender packet) := by
  have hSame : (c.remember packet).role = c.role := rfl
  have hMetricSame :
      (c.remember packet).metric = c.metric := rfl
  unfold accept
  rw [hSame, hMetricSame]
  by_cases hRole : c.role = .sink
  · rw [if_pos hRole]
    exact .delivered hNew hRole
  · rw [if_neg hRole]
    by_cases hTtl : packet.ttl ≤ 1
    · rw [if_pos hTtl]
      exact .expired hNew hRole hTtl
    · rw [if_neg hTtl]
      by_cases hMetric : c.metric = Metric.unreachable
      · rw [if_pos hMetric]
        exact .disconnected hNew hRole hTtl hMetric
      · rw [if_neg hMetric]
        exact reception_relay answer sender hNew hRole hTtl
          hMetric

theorem reception
    {c : Connection}
    (hOpen : c.isOpen = true)
    (answer : Answer)
    (sender : Address)
    (packet : Packet) :
    Reception c answer sender packet
      (c.receive answer sender packet) := by
  have hListening : ¬ (!c.isOpen) = true := by
    simp [hOpen]
  unfold receive
  rw [if_neg hListening]
  cases hSeen : c.recent.seen packet.id with
  | true =>
      have hAccept :
          c.recent.accept packet.id = (false, c.recent) := by
        simp [RecentPackets.accept, hSeen]
      rw [hAccept]
      exact .duplicate hSeen
  | false =>
      have hAccept :
          c.recent.accept packet.id =
            (true, c.recent.record packet.id) := by
        simp [RecentPackets.accept, hSeen]
      rw [hAccept]
      exact reception_accept answer sender hSeen

------------------------------------------------------------
-- The Metric
------------------------------------------------------------

/- The metric that the table gives is noted and announced. -/
def withRouteMetric
    (c : Connection) : Connection :=
  { c with
    metric := c.routeMetric
    role := roleOf c.routeMetric
    stats := countMetricChange c.stats }

/- Nothing is done at the sink or when nothing changed. -/
theorem updateMetric_cases
    (c : Connection) :
    ((c.role = .sink ∨ c.routeMetric = c.metric) ∧
        c.updateMetric = (c, [])) ∨
      (c.role ≠ .sink ∧ c.routeMetric ≠ c.metric ∧
        c.updateMetric =
          (c.withRouteMetric,
            [.announce c.routeMetric])) := by
  unfold updateMetric
  by_cases hRole : c.role = .sink
  · exact Or.inl ⟨Or.inl hRole, if_pos hRole⟩
  · rw [if_neg hRole]
    by_cases hMetric : c.routeMetric = c.metric
    · exact Or.inl ⟨Or.inr hMetric, if_pos hMetric⟩
    · exact Or.inr ⟨hRole, hMetric, if_neg hMetric⟩

------------------------------------------------------------
-- What Packets Leave Alone
------------------------------------------------------------

/- What a node knows of routes, and what it makes of it. -/
def route
    (c : Connection) : NeighborTable × Metric × Role :=
  (c.neighbors, c.metric, c.role)

theorem route_send
    (c : Connection)
    (answer : Answer)
    (payload : List UInt8)
    (maxRexmit : UInt8) :
    (c.send answer payload maxRexmit).connection.route =
      c.route := by
  by_cases hOpen : c.isOpen = true
  · have hSending := sending hOpen answer payload maxRexmit
    generalize c.send answer payload maxRexmit = outcome
      at hSending
    cases hSending <;> rfl
  · unfold send
    simp [hOpen]

theorem route_receive
    (c : Connection)
    (answer : Answer)
    (sender : Address)
    (packet : Packet) :
    (c.receive answer sender packet).connection.route =
      c.route := by
  by_cases hOpen : c.isOpen = true
  · have hReception := reception hOpen answer sender packet
    generalize c.receive answer sender packet = outcome
      at hReception
    cases hReception <;> rfl
  · unfold receive
    simp [hOpen, unchanged]

theorem isOpen_send
    (c : Connection)
    (answer : Answer)
    (payload : List UInt8)
    (maxRexmit : UInt8) :
    (c.send answer payload maxRexmit).connection.isOpen =
      c.isOpen := by
  by_cases hOpen : c.isOpen = true
  · have hSending := sending hOpen answer payload maxRexmit
    generalize c.send answer payload maxRexmit = outcome
      at hSending
    cases hSending <;> rfl
  · unfold send
    simp [hOpen]

theorem isOpen_receive
    (c : Connection)
    (answer : Answer)
    (sender : Address)
    (packet : Packet) :
    (c.receive answer sender packet).connection.isOpen =
      c.isOpen := by
  by_cases hOpen : c.isOpen = true
  · have hReception := reception hOpen answer sender packet
    generalize c.receive answer sender packet = outcome
      at hReception
    cases hReception <;> rfl
  · unfold receive
    simp [hOpen, unchanged]

end Connection

end CollectionTree
