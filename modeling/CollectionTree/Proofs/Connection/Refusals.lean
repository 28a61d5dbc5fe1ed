import CollectionTree.Proofs.Connection.PacketBalance

/-
  What is left of an operation that fails, and the numbers
  of the packets that a connection originates.

  Key definitions include:
    * `Connection.SurvivesFailures`
    * `Connection.Occurrence.isOpenSend`
    * `Connection.Numbered`

  Key theorems include:
    * `Connection.survivesFailures`
    * `Connection.Step.numbering_eq`
    * `Connection.Step.numbered`
    * `Connection.failures_leave_connection_intact`

  Each operation makes one request of the transport at most,
  and a refusal undoes what was done for the request.  Only
  the number of a packet is not given back: the packets that
  a node originates are numbered whatever becomes of them.
-/

namespace CollectionTree

/- The number of the packet that an effect is about. -/
def Effect.seqno? : Effect → Option UInt8
  | .transmit handover => some handover.packet.seqno
  | .refuse handover => some handover.packet.seqno
  | .deliver delivery => some delivery.seqno
  | _ => none

namespace Connection

------------------------------------------------------------
-- Failures
------------------------------------------------------------

/-
  What is left after the operations that can fail.  Without
  effects, neither the announcer nor the application learns
  that anything was tried.
-/
structure SurvivesFailures
    (c : Connection)
    (answer : Answer) : Prop where
  opening :
    ∀ (channel : UInt16) (failure : Failure),
      (c.perform answer (.openOn channel)).reply =
          .failed failure →
        c.perform answer (.openOn channel) =
          ⟨c, [], .failed failure⟩
  closed :
    c.isOpen = false →
      ∀ (payload : List UInt8) (maxRexmit : UInt8),
        c.perform answer (.send payload maxRexmit) =
          ⟨c, [], .failed .notOpen⟩
  sending :
    c.isOpen = true →
      ∀ (payload : List UInt8) (maxRexmit : UInt8)
        (failure : Failure),
        (c.perform answer (.send payload maxRexmit)).reply =
            .failed failure →
          answer = .error failure ∧
            ∃ handover : Handover,
              c.perform answer (.send payload maxRexmit) =
                ⟨{ c with
                    seqno := c.seqno + 1
                    stats :=
                      { c.stats with
                        originated :=
                          c.stats.originated + 1 } },
                  [.refuse handover], .failed failure⟩
  relaying :
    ∀ (sender : Address) (packet : Packet)
      (handover : Handover),
      let outcome :=
        c.perform answer (.handle (.received sender packet))
      .refuse handover ∈ outcome.effects →
        outcome.effects = [.refuse handover] ∧
          c.forwarding = false ∧
          ∃ stats : Stats,
            outcome.connection =
              { c with
                recent := c.recent.record packet.id
                stats := stats }

/- Only an idle node has a packet refused that came in. -/
theorem Reception.of_refusal
    {c : Connection}
    {answer : Answer}
    {sender : Address}
    {packet : Packet}
    {outcome : Outcome}
    (hReception :
      Reception c answer sender packet outcome)
    {handover : Handover}
    (hRefused : .refuse handover ∈ outcome.effects) :
    outcome.effects = [.refuse handover] ∧
      c.forwarding = false ∧
      outcome.connection = c.remember packet := by
  cases hReception with
  | refused _ _ _ _ hIdle _ _ _ _ _ =>
      rw [List.mem_singleton] at hRefused
      rw [hRefused]
      exact ⟨rfl, hIdle, rfl⟩
  | delivered _ _ => simp [deliver] at hRefused
  -- In the other cases nothing is refused.
  | _ => simp at hRefused

/- Only the transport makes an open node fail to send. -/
theorem Sending.of_failure
    {c : Connection}
    {answer : Answer}
    {packet : Packet}
    {outcome : Outcome}
    (hSending : Sending c answer packet outcome)
    {failure : Failure}
    (hFailed : outcome.reply = .failed failure) :
    answer = .error failure ∧
      ∃ handover : Handover,
        outcome =
          ⟨c.countOriginated, [.refuse handover],
            .failed failure⟩ := by
  cases hSending with
  | refused _ n _ cause hAnswer =>
      rw [Reply.failed.injEq] at hFailed
      rw [← hFailed]
      exact ⟨hAnswer, c.handover n.address packet, rfl⟩
  | delivered _ => exact Reply.noConfusion hFailed
  | dropped _ _ => exact Reply.noConfusion hFailed
  | handedOver _ _ _ _ => exact Reply.noConfusion hFailed

theorem survivesFailures
    (c : Connection)
    (answer : Answer) :
    c.SurvivesFailures answer := by
  constructor
  case opening =>
    intro channel failure hFailed
    have hStep := step c answer (.openOn channel)
    generalize c.perform answer (.openOn channel) = outcome
      at hStep hFailed ⊢
    cases hStep with
    | unopened _ cause _ =>
        rw [Reply.failed.injEq] at hFailed
        rw [hFailed]
    | opened _ _ => exact Reply.noConfusion hFailed
  case closed =>
    intro hClosed payload maxRexmit
    have hStep := step c answer (.send payload maxRexmit)
    generalize c.perform answer (.send payload maxRexmit) =
      outcome at hStep ⊢
    cases hStep with
    | unsent _ _ _ => rfl
    | sent hOpen _ _ _ _ =>
        rw [hClosed] at hOpen
        contradiction
  case sending =>
    intro hOpen payload maxRexmit failure hFailed
    exact
      (Connection.sending hOpen answer payload
        maxRexmit).of_failure hFailed
  case relaying =>
    intro sender packet handover outcome hRefused
    have hStep :
        Step c answer (.handle (.received sender packet))
          outcome :=
      step c answer _
    clear_value outcome
    cases hStep with
    | unheard _ _ => contradiction
    | received _ _ _ _ hReception =>
        rcases hReception.of_refusal hRefused with
          ⟨hEffects, hIdle, hConnection⟩
        exact ⟨hEffects, hIdle, c.stats, hConnection⟩

------------------------------------------------------------
-- Numbers
------------------------------------------------------------

/- An open node is to originate a packet. -/
def Occurrence.isOpenSend
    (o : Occurrence) : Bool :=
  o.before.isOpen && o.operation.isSend

/- The number that comes next, and how many were given. -/
def numbering
    (c : Connection) : UInt8 × Nat :=
  (c.seqno, c.stats.originated)

/- A packet takes the number that comes next. -/
theorem Sending.numbering_eq
    {c : Connection}
    {answer : Answer}
    {packet : Packet}
    {outcome : Outcome}
    (hSending : Sending c answer packet outcome) :
    outcome.connection.numbering =
        (c.seqno + 1, c.stats.originated + 1) ∧
      ∀ seqno ∈ outcome.effects.filterMap Effect.seqno?,
        seqno = packet.seqno := by
  cases hSending with
  | delivered _ =>
      exact ⟨rfl, by simp [deliver, delivery, Effect.seqno?]⟩
  | dropped _ _ => exact ⟨rfl, by simp [Effect.seqno?]⟩
  | refused _ _ _ _ _ =>
      exact ⟨rfl, by simp [handover, Effect.seqno?]⟩
  | handedOver _ _ _ _ =>
      exact ⟨rfl, by simp [handover, Effect.seqno?]⟩

/- What an open node does to originate a packet. -/
theorem Step.sending_of_isOpenSend
    {o : Occurrence}
    (hStep : Step o.before o.answer o.operation o.outcome)
    (hSend : o.isOpenSend = true) :
    ∃ payload maxRexmit,
      Sending o.before o.answer
        (o.before.originate payload maxRexmit) o.outcome := by
  rcases o with ⟨c, operation, answer, outcome⟩
  dsimp only at hStep ⊢
  cases hStep with
  | unsent hClosed _ _ =>
      simp [Occurrence.isOpenSend, hClosed] at hSend
  | sent _ payload maxRexmit _ hSending =>
      exact ⟨payload, maxRexmit, hSending⟩
  -- No other step originates a packet.
  | _ =>
      simp [Occurrence.isOpenSend, Operation.isSend] at hSend

/- Nothing else takes a number. -/
theorem Step.numbering_eq
    {c : Connection}
    {answer : Answer}
    {operation : Operation}
    {outcome : Outcome}
    (hStep : Step c answer operation outcome)
    (hOther : (c.isOpen && operation.isSend) = false) :
    outcome.connection.numbering = c.numbering := by
  have hKept
      (hNoSend : operation.isSend = false)
      (hNoReception : operation.isReception = false) :
      outcome.connection.numbering = c.numbering :=
    congrArg
      (fun ledger => (ledger.1, ledger.2.2.originated))
      (hStep.ledger_eq hNoSend hNoReception)
  cases hStep with
  | unsent _ _ _ => rfl
  | sent hOpen _ _ _ _ =>
      rw [hOpen] at hOther
      contradiction
  | unheard _ _ => rfl
  | received _ _ _ _ hReception => cases hReception <;> rfl
  | _ => exact hKept rfl rfl

/-
  The packets that were originated have the numbers from
  zero on, and begin again after the greatest byte.
-/
structure Numbered
    (steps : List Occurrence)
    (c : Connection) : Prop where
  next : c.seqno.toNat = c.stats.originated % 256
  used :
    (steps.filter Occurrence.isOpenSend).map
        (fun o => o.before.seqno.toNat) =
      (List.range c.stats.originated).map (fun k => k % 256)
  carried :
    ∀ o ∈ steps.filter Occurrence.isOpenSend,
      ∀ seqno ∈ o.outcome.effects.filterMap Effect.seqno?,
        seqno = o.before.seqno

theorem Numbered.length_eq
    {steps : List Occurrence}
    {c : Connection}
    (hNumbered : Numbered steps c) :
    (steps.filter Occurrence.isOpenSend).length =
      c.stats.originated := by
  have hLength := congrArg List.length hNumbered.used
  simpa only [List.length_map, List.length_range] using
    hLength

/- The number of a packet tells its place. -/
theorem Numbered.of_place
    {steps : List Occurrence}
    {c : Connection}
    (hNumbered : Numbered steps c)
    {k : Nat}
    {o : Occurrence}
    (hSome :
      (steps.filter Occurrence.isOpenSend)[k]? = some o) :
    o.before.seqno.toNat = k % 256 := by
  have hPlace : k < c.stats.originated := by
    rw [← hNumbered.length_eq]
    exact (List.getElem?_eq_some_iff.mp hSome).1
  have hUsed := congrArg (fun l => l[k]?) hNumbered.used
  simpa only [List.getElem?_map, hSome, Option.map_some,
    List.getElem?_range hPlace, Option.some.injEq] using hUsed

/- A step takes the next number, or none. -/
theorem Step.numbered
    {earlier : List Occurrence}
    {o : Occurrence}
    (hStep : Step o.before o.answer o.operation o.outcome)
    (hHeld : Numbered earlier o.before) :
    Numbered (earlier ++ [o]) o.outcome.connection := by
  cases hSend : o.isOpenSend with
  | false =>
      have hSame := hStep.numbering_eq hSend
      simp only [numbering, Prod.mk.injEq] at hSame
      have hSends :
          (earlier ++ [o]).filter Occurrence.isOpenSend =
            earlier.filter Occurrence.isOpenSend := by
        simp [hSend]
      constructor
      · rw [hSame.1, hSame.2]
        exact hHeld.next
      · rw [hSends, hSame.2]
        exact hHeld.used
      · rw [hSends]
        exact hHeld.carried
  | true =>
      have hSends :
          (earlier ++ [o]).filter Occurrence.isOpenSend =
            earlier.filter Occurrence.isOpenSend ++ [o] := by
        simp [hSend]
      rcases hStep.sending_of_isOpenSend hSend with
        ⟨payload, maxRexmit, hSending⟩
      rcases hSending.numbering_eq with ⟨hTaken, hCarried⟩
      simp only [numbering, Prod.mk.injEq] at hTaken
      constructor
      · rw [hTaken.1, hTaken.2, UInt8.toNat_add, hHeld.next]
        exact Nat.mod_add_mod _ _ _
      · rw [hSends, List.map_append, hHeld.used, hTaken.2,
          List.range_succ, List.map_append, List.map_singleton,
          List.map_singleton, hHeld.next]
      · rw [hSends]
        intro other hMem
        rcases List.mem_append.mp hMem with hEarlier | hLast
        · exact hHeld.carried other hEarlier
        · rw [List.mem_singleton.mp hLast]
          exact hCarried

------------------------------------------------------------
-- Runs
------------------------------------------------------------

/- A new connection numbers its packets from zero on. -/
theorem numbered_history
    (address : Address)
    (config : Config)
    (neighbors : NeighborTable)
    (recent : RecentPackets)
    (run : List (Operation × Answer)) :
    let start := withTables address config neighbors recent
    Numbered (start.history run) (start.after run) := by
  intro start
  have hStart : Numbered [] start :=
    ⟨rfl, rfl, fun _ hMem => absurd hMem List.not_mem_nil⟩
  exact
    invariant_history (P := Numbered)
      (fun hStep hHeld => hStep.numbered hHeld) hStart run

/-
  In any state, an operation that fails leaves the
  connection as it was, but for the number of a packet of
  its own that was refused, or for the memory of one that it
  was to pass on.  So in any run of a new connection the
  number that comes next tells how many packets were
  originated, and each packet has the number of its place
  among them, whatever becomes of it.
-/
theorem failures_leave_connection_intact :
    (∀ (c : Connection) (answer : Answer),
        c.SurvivesFailures answer) ∧
      ∀ (address : Address) (config : Config)
        (neighbors : NeighborTable) (recent : RecentPackets)
        (run : List (Operation × Answer)),
        let start := withTables address config neighbors recent
        let current := start.after run
        let sends :=
          (start.history run).filter Occurrence.isOpenSend
        current.seqno.toNat =
            current.stats.originated % 256 ∧
          sends.length = current.stats.originated ∧
          ∀ (k : Nat) (o : Occurrence),
            sends[k]? = some o →
              o.before.seqno.toNat = k % 256 ∧
                ∀ seqno ∈
                    o.outcome.effects.filterMap
                      Effect.seqno?,
                  seqno.toNat = k % 256 := by
  refine ⟨survivesFailures, ?_⟩
  intro address config neighbors recent run start current
    sends
  have hNumbered : Numbered (start.history run) current :=
    numbered_history address config neighbors recent run
  refine ⟨hNumbered.next, hNumbered.length_eq, ?_⟩
  intro k o hSome
  have hNumber : o.before.seqno.toNat = k % 256 :=
    hNumbered.of_place hSome
  refine ⟨hNumber, ?_⟩
  intro seqno hMem
  rw [hNumbered.carried o (List.mem_of_getElem? hSome) seqno
    hMem]
  exact hNumber

/- A refusal does not end the transmission before it. -/
example :
    let current :=
      (withConfig ⟨2, 0⟩ Config.standard).after
        [ (.openOn 128, .ok ()),
          (.handle (.announced ⟨1, 0⟩ 0), .ok ()),
          (.send [1] 4, .ok ()) ]
    let refused :=
      current.perform (.error .transportBusy) (.send [2] 4)
    refused.connection.forwarding = true ∧
      refused.connection.seqno = 2 := by
  decide

end Connection

end CollectionTree
