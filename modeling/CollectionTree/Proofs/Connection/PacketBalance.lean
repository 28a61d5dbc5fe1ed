import CollectionTree.Proofs.Connection.Steps

/-
  What becomes of the packets of a connection, by its
  counters.

  Key definitions include:
    * `Fate`
    * `Stats.count`
    * `Stats.settled`
    * `Connection.Occurrence.isRefusedRelay`
    * `Connection.ledger`

  Key theorems include:
    * `Connection.Reception.fate`
    * `Connection.Step.ledger_eq`
    * `Connection.Step.balanced`
    * `Connection.packets_are_accounted_for`
    * `Connection.refused_relay_is_not_counted`

  Each packet that reaches an open node is counted under one
  fate, but for a packet that is to be passed on when the
  transport refuses it.  That one leaves every counter as it
  was.
-/

namespace CollectionTree

------------------------------------------------------------
-- Fates
------------------------------------------------------------

/- What a node counts a packet as. -/
inductive Fate
  | delivered
  | forwarded
  | duplicate
  | expired
  | unrouted
  | busy

namespace Stats

/- One more packet with a fate. -/
def count
    (s : Stats) : Fate → Stats
  | .delivered => { s with delivered := s.delivered + 1 }
  | .forwarded => { s with forwarded := s.forwarded + 1 }
  | .duplicate =>
      { s with duplicatesDropped := s.duplicatesDropped + 1 }
  | .expired => { s with ttlDrops := s.ttlDrops + 1 }
  | .unrouted => { s with noRouteDrops := s.noRouteDrops + 1 }
  | .busy => { s with busyDrops := s.busyDrops + 1 }

/- The packets counted under any fate. -/
def settled
    (s : Stats) : Nat :=
  s.delivered + s.forwarded + s.duplicatesDropped +
    s.ttlDrops + s.noRouteDrops + s.busyDrops

@[simp] theorem settled_count
    (s : Stats)
    (fate : Fate) :
    (s.count fate).settled = s.settled + 1 := by
  unfold settled
  cases fate <;> simp only [count] <;> omega

@[simp] theorem originated_count
    (s : Stats)
    (fate : Fate) :
    (s.count fate).originated = s.originated := by
  cases fate <;> rfl

end Stats

------------------------------------------------------------
-- Telling Steps Apart
------------------------------------------------------------

/- Whether an operation is to originate a packet. -/
def Operation.isSend : Operation → Bool
  | .send _ _ => true
  | _ => false

/- Whether an operation is to take a packet. -/
def Operation.isReception : Operation → Bool
  | .handle (.received _ _) => true
  | _ => false

/- Whether a packet was handed over and accepted. -/
def Reply.isForwarded : Reply → Bool
  | .sent (.forwarded _) => true
  | _ => false

/- Whether an operation failed. -/
def Reply.isFailure : Reply → Bool
  | .failed _ => true
  | _ => false

/- Whether a packet was handed over and refused. -/
def Effect.isRefusal : Effect → Bool
  | .refuse _ => true
  | _ => false

namespace Connection

namespace Occurrence

/- An open node took a packet. -/
@[simp] def isReception
    (o : Occurrence) : Bool :=
  o.before.isOpen && o.operation.isReception

/- A node originated a packet, and it was accepted. -/
@[simp] def isForwardedSend
    (o : Occurrence) : Bool :=
  o.operation.isSend && o.outcome.reply.isForwarded

/- An open node originated a packet, and it was refused. -/
@[simp] def isRefusedSend
    (o : Occurrence) : Bool :=
  o.before.isOpen && o.operation.isSend &&
    o.outcome.reply.isFailure

/- A node was to pass a packet on, and it was refused. -/
@[simp] def isRefusedRelay
    (o : Occurrence) : Bool :=
  o.operation.isReception &&
    o.outcome.effects.any Effect.isRefusal

end Occurrence

------------------------------------------------------------
-- One Step
------------------------------------------------------------

/- A packet has one fate, unless it is refused. -/
theorem Reception.fate
    {c : Connection}
    {answer : Answer}
    {sender : Address}
    {packet : Packet}
    {outcome : Outcome}
    (hReception :
      Reception c answer sender packet outcome) :
    (outcome.effects.any Effect.isRefusal = true ∧
        outcome.connection.stats = c.stats) ∨
      (outcome.effects.any Effect.isRefusal = false ∧
        ∃ fate,
          outcome.connection.stats =
            c.stats.count fate) := by
  cases hReception with
  | duplicate _ => exact Or.inr ⟨rfl, .duplicate, rfl⟩
  | delivered _ _ => exact Or.inr ⟨rfl, .delivered, rfl⟩
  | expired _ _ _ => exact Or.inr ⟨rfl, .expired, rfl⟩
  | disconnected _ _ _ _ => exact Or.inr ⟨rfl, .unrouted, rfl⟩
  | busy _ _ _ _ _ => exact Or.inr ⟨rfl, .busy, rfl⟩
  | unrouted _ _ _ _ _ _ => exact Or.inr ⟨rfl, .unrouted, rfl⟩
  | refused _ _ _ _ _ _ _ _ _ _ => exact Or.inl ⟨rfl, rfl⟩
  | relayed _ _ _ _ _ _ _ _ _ =>
      exact Or.inr ⟨rfl, .forwarded, rfl⟩

/-
  A packet that is originated is counted, handed over or
  refused.
-/
theorem Sending.balanced
    {c : Connection}
    {answer : Answer}
    {packet : Packet}
    {outcome : Outcome}
    (hSending : Sending c answer packet outcome) :
    outcome.connection.stats.originated =
        c.stats.originated + 1 ∧
      outcome.connection.stats.settled +
          outcome.reply.isForwarded.toNat +
          outcome.reply.isFailure.toNat =
        c.stats.settled + 1 := by
  cases hSending with
  | delivered _ =>
      exact ⟨rfl, c.stats.settled_count .delivered⟩
  | dropped _ _ =>
      exact ⟨rfl, c.stats.settled_count .unrouted⟩
  | refused _ _ _ _ _ => exact ⟨rfl, rfl⟩
  | handedOver _ _ _ _ => exact ⟨rfl, rfl⟩

/-
  What only packets change: the number that comes next, the
  memory and the counts of packets.
-/
def ledger
    (c : Connection) : UInt8 × RecentPackets × Stats :=
  (c.seqno, c.recent,
    { c.stats with
      txOk := 0
      txFailed := 0
      metricChanges := 0 })

theorem Step.ledger_eq
    {c : Connection}
    {answer : Answer}
    {operation : Operation}
    {outcome : Outcome}
    (hStep : Step c answer operation outcome)
    (hNoSend : operation.isSend = false)
    (hNoReception : operation.isReception = false) :
    outcome.connection.ledger = c.ledger := by
  cases hStep with
  | unopened _ _ _ => rfl
  | opened _ _ => rfl
  | unclosed _ => rfl
  | closed _ => rfl
  | assigned on => exact eq_of_thenUpdate ledger _ _ rfl
  | unsent _ _ _ => rfl
  | sent _ _ _ _ _ => contradiction
  | unheard _ _ => rfl
  | received _ _ _ _ _ => contradiction
  | concluded _ _ _ _ =>
      refine (eq_of_thenUpdate ledger _ _ rfl).trans ?_
      unfold Connection.concluded
      split <;> rfl
  | echoed _ _ => rfl
  | informed _ _ _ _ => exact eq_of_thenUpdate ledger _ _ rfl
  | aged _ _ _ => rfl
  | thinned _ _ _ => exact eq_of_thenUpdate ledger _ _ rfl

/- The counters of packets, originated and settled. -/
def traffic
    (c : Connection) : Nat × Nat :=
  (c.stats.originated, c.stats.settled)

/- Only packets change the counters of packets. -/
theorem Step.traffic_eq
    {c : Connection}
    {answer : Answer}
    {operation : Operation}
    {outcome : Outcome}
    (hStep : Step c answer operation outcome)
    (hNoSend : operation.isSend = false)
    (hNoReception : operation.isReception = false) :
    outcome.connection.traffic = c.traffic :=
  congrArg
    (fun ledger =>
      (ledger.2.2.originated, ledger.2.2.settled))
    (hStep.ledger_eq hNoSend hNoReception)

/-
  What a step adds to the packets taken and originated, it
  adds to the packets settled, handed over or refused.
-/
def Occurrence.Balanced
    (o : Occurrence) : Prop :=
  o.isReception.toNat +
      o.outcome.connection.stats.originated +
      o.before.stats.settled =
    o.before.stats.originated +
      o.outcome.connection.stats.settled +
      o.isForwardedSend.toNat +
      o.isRefusedSend.toNat +
      o.isRefusedRelay.toNat

theorem Step.balanced_of_other
    {c : Connection}
    {answer : Answer}
    {operation : Operation}
    {outcome : Outcome}
    (hStep : Step c answer operation outcome)
    (hNoSend : operation.isSend = false)
    (hNoReception : operation.isReception = false) :
    Occurrence.Balanced ⟨c, operation, answer, outcome⟩ := by
  have hTraffic := hStep.traffic_eq hNoSend hNoReception
  simp only [traffic, Prod.mk.injEq] at hTraffic
  simp [Occurrence.Balanced, hNoSend, hNoReception, hTraffic]

theorem Step.balanced
    {c : Connection}
    {answer : Answer}
    {operation : Operation}
    {outcome : Outcome}
    (hStep : Step c answer operation outcome) :
    Occurrence.Balanced ⟨c, operation, answer, outcome⟩ := by
  cases operation with
  | openOn channel => exact hStep.balanced_of_other rfl rfl
  | close => exact hStep.balanced_of_other rfl rfl
  | setSink on => exact hStep.balanced_of_other rfl rfl
  | send payload maxRexmit =>
      cases hStep with
      | unsent hClosed =>
          simp [Occurrence.Balanced, Operation.isReception,
            Reply.isForwarded, hClosed]
      | sent hOpen _ _ _ hSending =>
          rcases hSending.balanced with
            ⟨hOriginated, hSettled⟩
          simp [Occurrence.Balanced, Operation.isSend,
            Operation.isReception, hOpen, hOriginated]
          omega
  | handle event =>
      cases event with
      | sent receiver ended transmissions =>
          exact hStep.balanced_of_other rfl rfl
      | announced sender metric =>
          exact hStep.balanced_of_other rfl rfl
      | elapsed time => exact hStep.balanced_of_other rfl rfl
      | received sender packet =>
          cases hStep with
          | unheard hClosed _ =>
              simp [Occurrence.Balanced, Operation.isSend,
                unchanged, hClosed]
          | received hOpen _ _ _ hReception =>
              rcases hReception.fate with
                ⟨hRefused, hStats⟩ | ⟨hTaken, fate, hStats⟩
              · simp [Occurrence.Balanced, Operation.isSend,
                  Operation.isReception, hOpen, hRefused,
                  hStats]
                omega
              · simp [Occurrence.Balanced, Operation.isSend,
                  Operation.isReception, hOpen, hTaken,
                  hStats]
                omega

------------------------------------------------------------
-- Runs
------------------------------------------------------------

/- The first step counts as one or not at all. -/
theorem countP_cons_eq
    (test : Occurrence → Bool)
    (o : Occurrence)
    (rest : List Occurrence) :
    (o :: rest).countP test =
      rest.countP test + (test o).toNat := by
  rw [List.countP_cons]
  cases test o <;> rfl

/- What holds of each step adds up over a run. -/
theorem balanced_history
    (c : Connection)
    (run : List (Operation × Answer)) :
    (c.history run).countP Occurrence.isReception +
        (c.after run).stats.originated +
        c.stats.settled =
      c.stats.originated +
        (c.after run).stats.settled +
        (c.history run).countP Occurrence.isForwardedSend +
        (c.history run).countP Occurrence.isRefusedSend +
        (c.history run).countP Occurrence.isRefusedRelay := by
  induction run generalizing c with
  | nil =>
      simp only [history, after, List.countP_nil]
      omega
  | cons first rest ih =>
      rcases first with ⟨operation, answer⟩
      have hFirst := (step c answer operation).balanced
      have hRest := ih (c.perform answer operation).connection
      simp only [Occurrence.Balanced] at hFirst
      simp only [history, after, countP_cons_eq]
      omega

/- A packet that is taken has one fate unless it is refused. -/
theorem fate_of_mem_history
    {c : Connection}
    {run : List (Operation × Answer)}
    {o : Occurrence}
    (hMem : o ∈ c.history run)
    (hReception : o.isReception = true) :
    if o.isRefusedRelay then
      o.outcome.connection.stats = o.before.stats
    else
      ∃ fate,
        o.outcome.connection.stats =
          o.before.stats.count fate := by
  have hStep := step_of_mem_history hMem
  rcases o with ⟨before, operation, answer, outcome⟩
  dsimp only at hStep
  simp only [Occurrence.isReception,
    Bool.and_eq_true] at hReception
  cases hStep with
  | unheard hClosed _ =>
      rw [hClosed] at hReception
      exact absurd hReception.1 Bool.false_ne_true
  | received _ sender packet _ hTaken =>
      rcases hTaken.fate with
        ⟨hRefused, hStats⟩ | ⟨hTaken, hFate⟩
      · simpa [Operation.isReception, hRefused] using hStats
      · simpa [hTaken] using hFate
  -- No other step takes a packet.
  | _ => simp [Operation.isReception] at hReception

/-
  The packets that reach an open node and those that it
  originates are delivered, passed on, dropped, handed over
  or refused.  A packet that reaches an open node is counted
  under one fate exactly, unless it is to be passed on and
  the transport refuses it: then no counter changes.
-/
theorem packets_are_accounted_for
    (address : Address)
    (config : Config)
    (neighbors : NeighborTable)
    (recent : RecentPackets)
    (run : List (Operation × Answer)) :
    let start := withTables address config neighbors recent
    let history := start.history run
    let stats := (start.after run).stats
    (history.countP Occurrence.isReception +
          stats.originated =
        stats.delivered + stats.forwarded +
          stats.duplicatesDropped + stats.ttlDrops +
          stats.noRouteDrops + stats.busyDrops +
          history.countP Occurrence.isForwardedSend +
          history.countP Occurrence.isRefusedSend +
          history.countP Occurrence.isRefusedRelay) ∧
      ∀ o ∈ history,
        o.isReception = true →
          if o.isRefusedRelay then
            o.outcome.connection.stats = o.before.stats
          else
            ∃ fate,
              o.outcome.connection.stats =
                o.before.stats.count fate := by
  intro start history stats
  constructor
  · have hBalanced := balanced_history start run
    simpa [start, withTables, Stats.zero, Stats.settled,
      stats, history] using hBalanced
  · intro o hMem hReception
    exact fate_of_mem_history hMem hReception

/-
  A busy transport refuses a packet that is to be passed on.
  The packet was taken, and no counter tells what became of
  it.
-/
theorem refused_relay_is_not_counted :
    ¬ ∀ (address : Address)
        (config : Config)
        (neighbors : NeighborTable)
        (recent : RecentPackets)
        (run : List (Operation × Answer)),
        let start := withTables address config neighbors recent
        let history := start.history run
        let stats := (start.after run).stats
        history.countP Occurrence.isReception +
            stats.originated =
          stats.delivered + stats.forwarded +
            stats.duplicatesDropped + stats.ttlDrops +
            stats.noRouteDrops + stats.busyDrops +
            history.countP Occurrence.isForwardedSend +
            history.countP Occurrence.isRefusedSend := by
  intro hAlways
  have hCounts :=
    hAlways ⟨2, 0⟩ Config.standard (NeighborTable.empty 8 180)
      (RecentPackets.empty 2)
      [ (.openOn 128, .ok ()),
        (.handle (.announced ⟨1, 0⟩ 0), .ok ()),
        (.handle (.received ⟨3, 0⟩
            { Packet.empty with
              originator := ⟨3, 0⟩
              hops := 1
              ttl := 10 }),
          .error .transportBusy) ]
  revert hCounts
  decide

end Connection

end CollectionTree
