import CollectionTree.Proofs.Connection.Learning

/-
  Every operation as one of a few steps, and the steps that
  were taken in a run.

  Key definitions include:
    * `Effect.handover?`
    * `Connection.Step`
    * `Connection.Occurrence`
    * `Connection.history`
    * `Connection.effectsOf`

  Key theorems include:
    * `Connection.thenUpdate_cases`
    * `Connection.step`
    * `Connection.Step.address_eq`
    * `Connection.invariant_after`
    * `Connection.invariant_history`
    * `Connection.invariant_of_mem_history`

  A step tells what was tested before anything was done, the
  state after it, the effects and the reply.  What operations
  keep is shown step by step, without a look into any of
  them.
-/

namespace CollectionTree

/- What an effect hands to the transport. -/
def Effect.handover? : Effect → Option Handover
  | .transmit handover => some handover
  | .refuse handover => some handover
  | _ => none

namespace Connection

------------------------------------------------------------
-- States After Steps
------------------------------------------------------------

/- The state at the beginning of a session. -/
def opened
    (c : Connection) : Connection :=
  { c with
    metric := Metric.unreachable
    role := .disconnected
    isOpen := true }

/- The state at the end of a session. -/
def closed
    (c : Connection) : Connection :=
  { c with isOpen := false, forwarding := false }

/- The state of a node that is given a role. -/
def assigned
    (c : Connection)
    (on : Bool) : Connection :=
  { c with
    metric := if on then Metric.sink else Metric.unreachable
    role := if on then .sink else .disconnected
    stats := countMetricChange c.stats }

/- The state after the outcome of a transmission. -/
def concluded
    (c : Connection)
    (receiver : Address)
    (outcome : TxOutcome)
    (transmissions : UInt8) : Connection :=
  if outcome = .acked then
    { c with
      forwarding := false
      neighbors :=
        noteAcknowledged c.neighbors receiver
          (max transmissions 1)
      stats := { c.stats with txOk := c.stats.txOk + 1 } }
  else
    { c with
      forwarding := false
      neighbors :=
        (c.neighbors.recordFailure receiver
          (max transmissions 1)).2
      stats :=
        { c.stats with
          txFailed := c.stats.txFailed + 1 } }

theorem concludeTransmission_eq
    {c : Connection}
    (hOpen : c.isOpen = true)
    (receiver : Address)
    (outcome : TxOutcome)
    (transmissions : UInt8) :
    c.concludeTransmission receiver outcome transmissions =
      (c.concluded receiver outcome
        transmissions).thenUpdate [] := by
  have hListening : ¬ (!c.isOpen) = true := by
    simp [hOpen]
  unfold concludeTransmission concluded
  rw [if_neg hListening]
  by_cases hAcked : outcome = .acked
  · simp only [hAcked, if_true]
  · simp only [hAcked, if_false]

@[simp] theorem address_concluded
    (c : Connection)
    (receiver : Address)
    (outcome : TxOutcome)
    (transmissions : UInt8) :
    (c.concluded receiver outcome transmissions).address =
      c.address := by
  unfold concluded
  split <;> rfl

@[simp] theorem forwarding_concluded
    (c : Connection)
    (receiver : Address)
    (outcome : TxOutcome)
    (transmissions : UInt8) :
    (c.concluded receiver outcome
      transmissions).forwarding = false := by
  unfold concluded
  split <;> rfl

@[simp] theorem isOpen_concluded
    (c : Connection)
    (receiver : Address)
    (outcome : TxOutcome)
    (transmissions : UInt8) :
    (c.concluded receiver outcome transmissions).isOpen =
      c.isOpen := by
  unfold concluded
  split <;> rfl

@[simp] theorem metric_concluded
    (c : Connection)
    (receiver : Address)
    (outcome : TxOutcome)
    (transmissions : UInt8) :
    (c.concluded receiver outcome transmissions).metric =
      c.metric := by
  unfold concluded
  split <;> rfl

/- The state after a neighbor announced a metric. -/
def informed
    (c : Connection)
    (sender : Address)
    (metric : Metric) : Connection :=
  { c with
    neighbors := noteAnnounced c.neighbors sender metric }

theorem hear_eq
    {c : Connection}
    (hOpen : c.isOpen = true)
    {sender : Address}
    (hOther : sender ≠ c.address)
    (metric : Metric) :
    c.hear sender metric =
      (c.informed sender metric).thenUpdate [] := by
  unfold hear informed
  rw [if_neg (by simp [hOpen, hOther])]

/- The state after some time. -/
def aged
    (c : Connection)
    (time : Duration) : Connection :=
  { c with neighbors := (c.neighbors.tick time).2 }

------------------------------------------------------------
-- Bringing the Metric up to Date
------------------------------------------------------------

theorem thenUpdate_cases
    (c : Connection)
    (effects : List Effect) :
    ((c.role = .sink ∨ c.routeMetric = c.metric) ∧
        c.thenUpdate effects = ⟨c, effects, .done⟩) ∨
      (c.role ≠ .sink ∧ c.routeMetric ≠ c.metric ∧
        c.thenUpdate effects =
          ⟨c.withRouteMetric,
            effects ++ [.announce c.routeMetric],
            .done⟩) := by
  unfold thenUpdate
  rcases updateMetric_cases c with
    ⟨hSame, hEq⟩ | ⟨hRole, hChanged, hEq⟩
  · rw [hEq]
    simp [hSame]
  · rw [hEq]
    exact Or.inr ⟨hRole, hChanged, rfl⟩

/-
  What does not depend on the metric, the role and the count
  of changes stays as it is.
-/
theorem eq_of_thenUpdate
    {α : Type}
    (view : Connection → α)
    (c : Connection)
    (effects : List Effect)
    (hView : view c.withRouteMetric = view c) :
    view (c.thenUpdate effects).connection = view c := by
  rcases thenUpdate_cases c effects with
    ⟨-, hEq⟩ | ⟨-, -, hEq⟩
  · rw [hEq]
  · rw [hEq]
    exact hView

/- What is picked out of the effects is as it was asked for. -/
theorem filterMap_thenUpdate
    {α : Type}
    {pick : Effect → Option α}
    (hOther : ∀ metric, pick (.announce metric) = none)
    (c : Connection)
    (effects : List Effect) :
    (c.thenUpdate effects).effects.filterMap pick =
      effects.filterMap pick := by
  rcases thenUpdate_cases c effects with
    ⟨-, hEq⟩ | ⟨-, -, hEq⟩
  · rw [hEq]
  · rw [hEq]
    simp [hOther]

@[simp] theorem address_thenUpdate
    (c : Connection)
    (effects : List Effect) :
    (c.thenUpdate effects).connection.address = c.address :=
  eq_of_thenUpdate Connection.address c effects rfl

@[simp] theorem isOpen_thenUpdate
    (c : Connection)
    (effects : List Effect) :
    (c.thenUpdate effects).connection.isOpen = c.isOpen :=
  eq_of_thenUpdate Connection.isOpen c effects rfl

@[simp] theorem forwarding_thenUpdate
    (c : Connection)
    (effects : List Effect) :
    (c.thenUpdate effects).connection.forwarding =
      c.forwarding :=
  eq_of_thenUpdate Connection.forwarding c effects rfl

------------------------------------------------------------
-- Steps
------------------------------------------------------------

/-
  What an operation does, by the operation, the state of the
  connection and the answer of the transport.
-/
inductive Step
    (c : Connection)
    (answer : Answer) :
    Operation → Outcome → Prop
  | unopened
      (channel : UInt16)
      (failure : Failure)
      (hAnswer : answer = .error failure) :
      Step c answer (.openOn channel)
        ⟨c, [], .failed failure⟩
  | opened
      (channel : UInt16)
      (hAnswer : answer = .ok ()) :
      Step c answer (.openOn channel)
        ⟨c.opened,
          [ .openLink (channel + 1),
            .register channel Metric.unreachable,
            .listen c.config.openListenBursts ],
          .done⟩
  | unclosed
      (hClosed : c.isOpen = false) :
      Step c answer .close c.unchanged
  | closed
      (hOpen : c.isOpen = true) :
      Step c answer .close
        ⟨c.closed, [.withdraw, .closeLink], .done⟩
  | assigned
      (on : Bool) :
      Step c answer (.setSink on)
        ((c.assigned on).thenUpdate
          [.announce (c.assigned on).metric])
  | unsent
      (hClosed : c.isOpen = false)
      (payload : List UInt8)
      (maxRexmit : UInt8) :
      Step c answer (.send payload maxRexmit)
        ⟨c, [], .failed .notOpen⟩
  | sent
      (hOpen : c.isOpen = true)
      (payload : List UInt8)
      (maxRexmit : UInt8)
      (outcome : Outcome)
      (hSending :
        Sending c answer (c.originate payload maxRexmit)
          outcome) :
      Step c answer (.send payload maxRexmit) outcome
  | unheard
      (hClosed : c.isOpen = false)
      (event : Event) :
      Step c answer (.handle event) c.unchanged
  | received
      (hOpen : c.isOpen = true)
      (sender : Address)
      (packet : Packet)
      (outcome : Outcome)
      (hReception :
        Reception c answer sender packet outcome) :
      Step c answer (.handle (.received sender packet))
        outcome
  | concluded
      (hOpen : c.isOpen = true)
      (receiver : Address)
      (outcome : TxOutcome)
      (transmissions : UInt8) :
      Step c answer
        (.handle (.sent receiver outcome transmissions))
        ((c.concluded receiver outcome
          transmissions).thenUpdate [])
  | echoed
      (hOpen : c.isOpen = true)
      (metric : Metric) :
      Step c answer
        (.handle (.announced c.address metric)) c.unchanged
  | informed
      (hOpen : c.isOpen = true)
      (sender : Address)
      (hOther : sender ≠ c.address)
      (metric : Metric) :
      Step c answer (.handle (.announced sender metric))
        ((c.informed sender metric).thenUpdate [])
  | aged
      (hOpen : c.isOpen = true)
      (time : Duration)
      (hKept : (c.neighbors.tick time).1.isEmpty = true) :
      Step c answer (.handle (.elapsed time))
        (c.aged time).unchanged
  | thinned
      (hOpen : c.isOpen = true)
      (time : Duration)
      (hDropped :
        (c.neighbors.tick time).1.isEmpty = false) :
      Step c answer (.handle (.elapsed time))
        ((c.aged time).thenUpdate [])

/- The steps of an open connection that hears of something. -/
theorem step_handle
    {c : Connection}
    (hOpen : c.isOpen = true)
    (answer : Answer)
    (event : Event) :
    Step c answer (.handle event) (c.handle answer event) := by
  have hListening : ¬ (!c.isOpen) = true := by
    simp [hOpen]
  cases event with
  | received sender packet =>
      exact .received hOpen sender packet _
        (reception hOpen answer sender packet)
  | sent receiver outcome transmissions =>
      unfold handle
      dsimp only
      rw [concludeTransmission_eq hOpen]
      exact .concluded hOpen receiver outcome transmissions
  | announced sender metric =>
      unfold handle
      dsimp only
      by_cases hOwn : sender = c.address
      · unfold hear
        rw [hOwn, if_pos (Or.inr rfl)]
        exact .echoed hOpen metric
      · rw [hear_eq hOpen hOwn]
        exact .informed hOpen sender hOwn metric
  | elapsed time =>
      unfold handle tick
      dsimp only
      rw [if_neg hListening]
      cases hDropped :
          (c.neighbors.tick time).1.isEmpty with
      | true => exact .aged hOpen time hDropped
      | false => exact .thinned hOpen time hDropped

/- There is a step for every operation. -/
theorem step
    (c : Connection)
    (answer : Answer)
    (operation : Operation) :
    Step c answer operation
      (c.perform answer operation) := by
  cases operation with
  | openOn channel =>
      cases answer with
      | error failure => exact .unopened channel failure rfl
      | ok _ => exact .opened channel rfl
  | close =>
      unfold perform close
      cases hOpen : c.isOpen with
      | true => exact .closed hOpen
      | false => exact .unclosed hOpen
  | setSink on => exact .assigned on
  | send payload maxRexmit =>
      cases hOpen : c.isOpen with
      | true =>
          exact .sent hOpen payload maxRexmit _
            (sending hOpen answer payload maxRexmit)
      | false =>
          unfold perform send
          simp only [hOpen, Bool.not_false, if_true]
          exact .unsent hOpen payload maxRexmit
  | handle event =>
      cases hOpen : c.isOpen with
      | true => exact step_handle hOpen answer event
      | false =>
          rw [show c.perform answer (.handle event) =
            c.unchanged from handle_closed hOpen answer event]
          exact .unheard hOpen event

/- A node keeps its address. -/
theorem Step.address_eq
    {c : Connection}
    {answer : Answer}
    {operation : Operation}
    {outcome : Outcome}
    (hStep : Step c answer operation outcome) :
    outcome.connection.address = c.address := by
  cases hStep with
  | unopened _ _ _ => rfl
  | opened _ _ => rfl
  | unclosed _ => rfl
  | closed _ => rfl
  | assigned on => exact address_thenUpdate _ _
  | unsent _ _ _ => rfl
  | sent _ _ _ _ hSending => cases hSending <;> rfl
  | unheard _ _ => rfl
  | received _ _ _ _ hReception => cases hReception <;> rfl
  | concluded _ _ _ _ => simp
  | echoed _ _ => rfl
  | informed _ _ _ _ => exact address_thenUpdate _ _
  | aged _ _ _ => rfl
  | thinned _ _ _ => exact address_thenUpdate _ _

/- Only opening and closing do what their names say. -/
theorem Step.isOpen_eq
    {c : Connection}
    {answer : Answer}
    {operation : Operation}
    {outcome : Outcome}
    (hStep : Step c answer operation outcome)
    (hNoOpen : ∀ channel, operation ≠ .openOn channel)
    (hNoClose : operation ≠ .close) :
    outcome.connection.isOpen = c.isOpen := by
  cases hStep with
  | unopened _ _ _ => rfl
  | opened channel _ => exact absurd rfl (hNoOpen channel)
  | unclosed _ => exact absurd rfl hNoClose
  | closed _ => exact absurd rfl hNoClose
  | assigned on => exact isOpen_thenUpdate _ _
  | unsent _ _ _ => rfl
  | sent _ _ _ _ hSending => cases hSending <;> rfl
  | unheard _ _ => rfl
  | received _ _ _ _ hReception => cases hReception <;> rfl
  | concluded _ _ _ _ => simp
  | echoed _ _ => rfl
  | informed _ _ _ _ => exact isOpen_thenUpdate _ _
  | aged _ _ _ => rfl
  | thinned _ _ _ => exact isOpen_thenUpdate _ _

------------------------------------------------------------
-- Histories
------------------------------------------------------------

/- A step that was taken. -/
structure Occurrence where
  before : Connection
  operation : Operation
  answer : Answer
  outcome : Outcome

/- The steps of a run, in their order. -/
def history
    (c : Connection) :
    List (Operation × Answer) → List Occurrence
  | [] => []
  | (operation, answer) :: rest =>
      let outcome := c.perform answer operation
      ⟨c, operation, answer, outcome⟩ ::
        outcome.connection.history rest

/- All that was asked for in a run, in its order. -/
def effectsOf
    (c : Connection)
    (run : List (Operation × Answer)) : List Effect :=
  (c.history run).flatMap (fun o => o.outcome.effects)

/- What each step keeps is there after a run. -/
theorem invariant_after
    {P : Connection → Prop}
    (hKept :
      ∀ {c : Connection} {answer : Answer}
        {operation : Operation} {outcome : Outcome},
        Step c answer operation outcome → P c →
          P outcome.connection)
    {c : Connection}
    (hStart : P c)
    (run : List (Operation × Answer)) :
    P (c.after run) := by
  induction run generalizing c with
  | nil => exact hStart
  | cons first rest ih =>
      exact ih (hKept (step c first.2 first.1) hStart)

/-
  What each step keeps of the steps before it and of the
  state is there after a run.
-/
theorem invariant_history
    {P : List Occurrence → Connection → Prop}
    (hKept :
      ∀ {earlier : List Occurrence} {o : Occurrence},
        Step o.before o.answer o.operation o.outcome →
          P earlier o.before →
            P (earlier ++ [o]) o.outcome.connection)
    {c : Connection}
    (hStart : P [] c)
    (run : List (Operation × Answer)) :
    P (c.history run) (c.after run) := by
  -- The induction starts after any steps, not just at first.
  have hLater :
      ∀ earlier, P earlier c →
        P (earlier ++ c.history run) (c.after run) := by
    clear hStart
    induction run generalizing c with
    | nil =>
        intro earlier hHeld
        rw [history, List.append_nil]
        exact hHeld
    | cons first rest ih =>
        intro earlier hHeld
        let o : Occurrence :=
          ⟨c, first.1, first.2, c.perform first.2 first.1⟩
        have hNext :
            P (earlier ++ [o]) o.outcome.connection :=
          hKept (step c first.2 first.1) hHeld
        have hRest := ih (earlier ++ [o]) hNext
        rw [List.append_assoc] at hRest
        exact hRest
  exact hLater [] hStart

/- What each step keeps is there before each step. -/
theorem invariant_of_mem_history
    {P : Connection → Prop}
    (hKept :
      ∀ {c : Connection} {answer : Answer}
        {operation : Operation} {outcome : Outcome},
        Step c answer operation outcome → P c →
          P outcome.connection)
    {c : Connection}
    (hStart : P c)
    {run : List (Operation × Answer)}
    {o : Occurrence}
    (hMem : o ∈ c.history run) :
    P o.before ∧
      Step o.before o.answer o.operation o.outcome := by
  induction run generalizing c with
  | nil => cases hMem
  | cons first rest ih =>
      rcases List.mem_cons.mp hMem with rfl | hRest
      · exact ⟨hStart, step c first.2 first.1⟩
      · exact ih (hKept (step c first.2 first.1) hStart)
          hRest

theorem step_of_mem_history
    {c : Connection}
    {run : List (Operation × Answer)}
    {o : Occurrence}
    (hMem : o ∈ c.history run) :
    Step o.before o.answer o.operation o.outcome :=
  (invariant_of_mem_history (P := fun _ => True)
    (fun _ _ => trivial) trivial hMem).2

end Connection

end CollectionTree
