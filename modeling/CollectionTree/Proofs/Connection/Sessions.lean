import CollectionTree.Proofs.Connection.Steps

/-
  What the forwarding flag tells of packets on their way.

  Key definitions include:
    * `Session`
    * `Session.Turn`
    * `Session.next`
    * `Session.Truthful`
    * `Session.Overtakes`
    * `Session.Move`

  Key theorems include:
    * `Session.move`
    * `Session.Truthful.next`
    * `Session.staysTruthful_iff`
    * `Session.flag_is_truthful_iff`
    * `Session.second_packet_outlives_flag`

  A session is a connection while it is open, with the
  packets that its transport accepted and has not reported
  yet.  The flag is a single bit.  A packet that is to be
  passed on waits for it, but one that is originated does
  not, so there may be two packets and one bit.
-/

namespace CollectionTree

------------------------------------------------------------
-- Packets on Their Way
------------------------------------------------------------

/- A packet that the transport accepted. -/
def Effect.accepted? : Effect → Option Handover
  | .transmit handover => some handover
  | _ => none

/- The packets that the transport accepted in a step. -/
def Outcome.accepted
    (outcome : Outcome) : List Handover :=
  outcome.effects.filterMap Effect.accepted?

namespace Connection

/- Bringing the metric up to date sends no packet. -/
theorem accepted_thenUpdate
    (c : Connection)
    (effects : List Effect) :
    (c.thenUpdate effects).accepted =
      effects.filterMap Effect.accepted? :=
  filterMap_thenUpdate (fun _ => rfl) c effects

/- Nothing is on its way from a connection that is closed. -/
def RestsClosed
    (c : Connection) : Prop :=
  c.isOpen = false → c.forwarding = false

theorem restsClosed_of_open
    {c : Connection}
    (hOpen : c.isOpen = true) :
    c.RestsClosed := by
  intro hClosed
  rw [hOpen] at hClosed
  contradiction

theorem RestsClosed.thenUpdate
    {c : Connection}
    (hRests : c.RestsClosed)
    (effects : List Effect) :
    (c.thenUpdate effects).connection.RestsClosed := by
  unfold RestsClosed at hRests ⊢
  rw [isOpen_thenUpdate, forwarding_thenUpdate]
  exact hRests

theorem Step.restsClosed
    {c : Connection}
    {answer : Answer}
    {operation : Operation}
    {outcome : Outcome}
    (hStep : Step c answer operation outcome)
    (hRests : c.RestsClosed) :
    outcome.connection.RestsClosed := by
  cases hStep with
  | unopened _ _ _ => exact hRests
  | opened _ _ => exact restsClosed_of_open rfl
  | unclosed _ => exact hRests
  | closed _ => exact fun _ => rfl
  | assigned on =>
      exact RestsClosed.thenUpdate (c := c.assigned on)
        hRests _
  | unsent _ _ _ => exact hRests
  | sent hOpen _ _ _ hSending =>
      cases hSending <;> exact restsClosed_of_open hOpen
  | unheard _ _ => exact hRests
  | received hOpen _ _ _ hReception =>
      cases hReception <;> exact restsClosed_of_open hOpen
  | concluded _ receiver ended transmissions =>
      apply RestsClosed.thenUpdate
      intro _
      exact forwarding_concluded c receiver ended
        transmissions
  | echoed _ _ => exact hRests
  | informed _ sender _ metric =>
      exact RestsClosed.thenUpdate
        (c := c.informed sender metric) hRests []
  | aged _ _ _ => exact hRests
  | thinned _ time _ =>
      exact RestsClosed.thenUpdate (c := c.aged time)
        hRests []

end Connection

------------------------------------------------------------
-- Sessions
------------------------------------------------------------

/- An open connection and the packets on their way. -/
structure Session where
  connection : Connection
  outstanding : List Handover

namespace Session

/-
  A turn of a session: an operation, or the report of how a
  packet on its way ended.
-/
inductive Turn
  | perform (operation : Operation) (answer : Answer)
  | report
      (handover : Handover)
      (outcome : TxOutcome)
      (transmissions : UInt8)

namespace Turn

/- What is done to the connection. -/
def operation : Turn → Operation
  | .perform operation _ => operation
  | .report handover outcome transmissions =>
      .handle (.sent handover.nextHop outcome transmissions)

/- A report asks the transport for nothing. -/
def answer : Turn → Answer
  | .perform _ answer => answer
  | .report _ _ _ => .ok ()

end Turn

/- A connection that is opened anew. -/
def opened
    (c : Connection)
    (channel : UInt16) : Session :=
  ⟨(c.openOn (.ok ()) channel).connection, []⟩

/-
  The transport reports packets that it accepted, each one
  once.  The session lasts as long as it is observed.
-/
def Allows
    (s : Session) : Turn → Prop
  | .perform (.openOn _) _ => False
  | .perform .close _ => False
  | .perform (.handle (.sent _ _ _)) _ => False
  | .perform _ _ => True
  | .report handover _ _ => handover ∈ s.outstanding

instance decidableAllows
    (s : Session) :
    (turn : Turn) → Decidable (s.Allows turn)
  | .perform (.openOn _) _ => .isFalse id
  | .perform .close _ => .isFalse id
  | .perform (.setSink _) _ => .isTrue trivial
  | .perform (.send _ _) _ => .isTrue trivial
  | .perform (.handle (.received _ _)) _ => .isTrue trivial
  | .perform (.handle (.sent _ _ _)) _ => .isFalse id
  | .perform (.handle (.announced _ _)) _ => .isTrue trivial
  | .perform (.handle (.elapsed _)) _ => .isTrue trivial
  | .report handover _ _ =>
      inferInstanceAs (Decidable (handover ∈ s.outstanding))

/- What the connection does in a turn. -/
def outcome
    (s : Session)
    (turn : Turn) : Outcome :=
  s.connection.perform turn.answer turn.operation

/- The packets that are still on their way. -/
def remaining
    (s : Session) : Turn → List Handover
  | .perform _ _ => s.outstanding
  | .report handover _ _ => s.outstanding.erase handover

/- The session after a turn. -/
def next
    (s : Session)
    (turn : Turn) : Session :=
  ⟨(s.outcome turn).connection,
    s.remaining turn ++ (s.outcome turn).accepted⟩

/- The session after some turns. -/
def after
    (s : Session) : List Turn → Session
  | [] => s
  | turn :: rest => (s.next turn).after rest

/- Every turn is allowed when it is its time. -/
def Proper
    (s : Session) : List Turn → Prop
  | [] => True
  | turn :: rest => s.Allows turn ∧ (s.next turn).Proper rest

instance decidableProper
    (s : Session) :
    (turns : List Turn) → Decidable (s.Proper turns)
  | [] => .isTrue trivial
  | turn :: rest =>
      @instDecidableAnd _ _ inferInstance
        (decidableProper (s.next turn) rest)

------------------------------------------------------------
-- Turns
------------------------------------------------------------

/- What a turn does to the flag and to the packets. -/
inductive Move
    (s : Session) :
    Turn → Outcome → Prop
  | quiet
      (operation : Operation)
      (answer : Answer)
      (outcome : Outcome)
      (hFlag :
        outcome.connection.forwarding =
          s.connection.forwarding)
      (hAccepted : outcome.accepted = []) :
      Move s (.perform operation answer) outcome
  | sent
      (payload : List UInt8)
      (maxRexmit : UInt8)
      (answer : Answer)
      (outcome : Outcome)
      (handover : Handover)
      (hFlag : outcome.connection.forwarding = true)
      (hAccepted : outcome.accepted = [handover]) :
      Move s (.perform (.send payload maxRexmit) answer)
        outcome
  | relayed
      (sender : Address)
      (packet : Packet)
      (answer : Answer)
      (outcome : Outcome)
      (handover : Handover)
      (hIdle : s.connection.forwarding = false)
      (hFlag : outcome.connection.forwarding = true)
      (hAccepted : outcome.accepted = [handover]) :
      Move s
        (.perform (.handle (.received sender packet)) answer)
        outcome
  | ended
      (handover : Handover)
      (ending : TxOutcome)
      (transmissions : UInt8)
      (outcome : Outcome)
      (hMem : handover ∈ s.outstanding)
      (hFlag : outcome.connection.forwarding = false)
      (hAccepted : outcome.accepted = []) :
      Move s (.report handover ending transmissions) outcome

/- A metric that is brought up to date sends no packet. -/
theorem quiet_thenUpdate
    {s : Session}
    (operation : Operation)
    (answer : Answer)
    {c : Connection}
    (hFlag : c.forwarding = s.connection.forwarding)
    {effects : List Effect}
    (hNone : effects.filterMap Effect.accepted? = []) :
    Move s (.perform operation answer)
      (c.thenUpdate effects) := by
  refine .quiet operation answer _ ?_ ?_
  · rw [Connection.forwarding_thenUpdate]
    exact hFlag
  · rw [Connection.accepted_thenUpdate]
    exact hNone

theorem move_of_step
    {s : Session}
    {operation : Operation}
    {answer : Answer}
    {outcome : Outcome}
    (hAllows : s.Allows (.perform operation answer))
    (hStep :
      Connection.Step s.connection answer operation
        outcome) :
    Move s (.perform operation answer) outcome := by
  cases hStep with
  | unopened _ _ _ => exact hAllows.elim
  | opened _ _ => exact hAllows.elim
  | unclosed _ => exact hAllows.elim
  | closed _ => exact hAllows.elim
  | concluded _ _ _ _ => exact hAllows.elim
  | assigned on =>
      apply quiet_thenUpdate
      · rfl
      · rfl
  | unsent _ _ _ => exact .quiet _ _ _ rfl rfl
  | sent _ payload maxRexmit _ hSending =>
      cases hSending with
      | handedOver _ n _ _ =>
          exact .sent payload maxRexmit answer _ _ rfl rfl
      | _ => exact .quiet _ _ _ rfl rfl
  | unheard _ _ => exact .quiet _ _ _ rfl rfl
  | received _ sender packet _ hReception =>
      cases hReception with
      | relayed _ _ _ _ hIdle n _ _ _ =>
          exact .relayed sender packet answer _ _ hIdle rfl
            rfl
      | _ => exact .quiet _ _ _ rfl rfl
  | echoed _ _ => exact .quiet _ _ _ rfl rfl
  | informed _ _ _ _ =>
      apply quiet_thenUpdate
      · rfl
      · rfl
  | aged _ _ _ => exact .quiet _ _ _ rfl rfl
  | thinned _ _ _ =>
      apply quiet_thenUpdate
      · rfl
      · rfl

theorem move
    {s : Session}
    (hOpen : s.connection.isOpen = true)
    {turn : Turn}
    (hAllows : s.Allows turn) :
    Move s turn (s.outcome turn) := by
  cases turn with
  | perform operation answer =>
      exact move_of_step hAllows
        (Connection.step s.connection answer operation)
  | report handover ending transmissions =>
      have hEq :=
        Connection.concludeTransmission_eq hOpen
          handover.nextHop ending transmissions
      refine .ended handover ending transmissions _ hAllows
        ?_ ?_
      · refine (congrArg
          (fun o => o.connection.forwarding) hEq).trans ?_
        simp
      · refine (congrArg Outcome.accepted hEq).trans ?_
        exact Connection.accepted_thenUpdate _ []

/- No turn ends the session. -/
theorem isOpen_next
    {s : Session}
    (hOpen : s.connection.isOpen = true)
    {turn : Turn}
    (hAllows : s.Allows turn) :
    (s.next turn).connection.isOpen = true := by
  refine Eq.trans ?_ hOpen
  apply (Connection.step s.connection turn.answer
    turn.operation).isOpen_eq
  · intro channel hOpens
    cases turn with
    | report _ _ _ => cases hOpens
    | perform operation answer =>
        rw [show operation = .openOn channel from hOpens]
          at hAllows
        exact hAllows
  · intro hCloses
    cases turn with
    | report _ _ _ => cases hCloses
    | perform operation answer =>
        rw [show operation = .close from hCloses] at hAllows
        exact hAllows

------------------------------------------------------------
-- Truth
------------------------------------------------------------

/-
  The flag is set just while there is a packet on its way,
  and there is one at most.
-/
structure Truthful
    (s : Session) : Prop where
  flag_iff :
    s.connection.forwarding = true ↔ s.outstanding ≠ []
  single : s.outstanding.length ≤ 1

/-
  A packet is originated and accepted while another is still
  on its way.
-/
def Overtakes
    (s : Session) : Turn → Prop
  | .perform (.send payload maxRexmit) answer =>
      s.outstanding ≠ [] ∧
        (s.outcome (.perform (.send payload maxRexmit)
          answer)).accepted ≠ []
  | _ => False

instance
    (s : Session)
    (turn : Turn) :
    Decidable (s.Overtakes turn) := by
  unfold Overtakes
  split <;> infer_instance

/- An idle connection has no packet on its way. -/
theorem Truthful.outstanding_eq_nil
    {s : Session}
    (hTruthful : s.Truthful)
    (hIdle : s.connection.forwarding = false) :
    s.outstanding = [] := by
  apply Decidable.byContradiction
  intro hSome
  have hBusy := hTruthful.flag_iff.mpr hSome
  rw [hIdle] at hBusy
  contradiction

/- A packet on its way is the only one. -/
theorem Truthful.outstanding_eq_singleton
    {s : Session}
    (hTruthful : s.Truthful)
    {handover : Handover}
    (hMem : handover ∈ s.outstanding) :
    s.outstanding = [handover] := by
  have hSome := List.length_pos_of_mem hMem
  have hOne :=
    Nat.le_antisymm hTruthful.single hSome
  rcases List.length_eq_one_iff.mp hOne with ⟨only, hOnly⟩
  rw [hOnly] at hMem
  rw [hOnly, List.mem_singleton.mp hMem]

/- The flag is truthful of the first packet on its way. -/
theorem truthful_of_singleton
    {c : Connection}
    (hFlag : c.forwarding = true)
    (handover : Handover) :
    Truthful ⟨c, [handover]⟩ where
  flag_iff := by simp [hFlag]
  single := Nat.le_refl 1

theorem truthful_of_nil
    {c : Connection}
    (hFlag : c.forwarding = false) :
    Truthful ⟨c, []⟩ where
  flag_iff := by simp [hFlag]
  single := Nat.zero_le 1

/- Without overtaking, the flag stays truthful. -/
theorem Truthful.next
    {s : Session}
    (hTruthful : s.Truthful)
    (hOpen : s.connection.isOpen = true)
    {turn : Turn}
    (hAllows : s.Allows turn)
    (hOrder : ¬ s.Overtakes turn) :
    (s.next turn).Truthful := by
  have hMove := move hOpen hAllows
  unfold Session.next
  generalize hOutcome : s.outcome turn = outcome at hMove
  cases hMove with
  | quiet operation answer _ hFlag hAccepted =>
      rw [hAccepted, List.append_nil]
      exact
        { flag_iff := by
            rw [hFlag]
            exact hTruthful.flag_iff
          single := hTruthful.single }
  | sent payload maxRexmit answer _ handover hFlag hAccepted =>
      have hNone : s.outstanding = [] := by
        apply Decidable.byContradiction
        intro hSome
        refine hOrder ⟨hSome, ?_⟩
        rw [hOutcome, hAccepted]
        exact List.cons_ne_nil handover []
      rw [hAccepted, remaining, hNone]
      exact truthful_of_singleton hFlag handover
  | relayed _ _ _ _ handover hIdle hFlag hAccepted =>
      rw [hAccepted, remaining,
        hTruthful.outstanding_eq_nil hIdle]
      exact truthful_of_singleton hFlag handover
  | ended handover _ _ _ hMem hFlag hAccepted =>
      rw [hAccepted, remaining,
        hTruthful.outstanding_eq_singleton hMem,
        List.erase_cons_head]
      exact truthful_of_nil hFlag

/- One flag does not do for two packets. -/
theorem Overtakes.not_truthful_next
    {s : Session}
    {turn : Turn}
    (hOvertakes : s.Overtakes turn) :
    ¬ (s.next turn).Truthful := by
  intro hTruthful
  unfold Overtakes at hOvertakes
  split at hOvertakes
  next payload maxRexmit answer =>
    have hEarlier :=
      List.length_pos_iff.mpr hOvertakes.1
    have hLater := List.length_pos_iff.mpr hOvertakes.2
    have hSingle := hTruthful.single
    simp only [Session.next, remaining,
      List.length_append] at hSingle
    omega
  next => exact hOvertakes

------------------------------------------------------------
-- Runs
------------------------------------------------------------

/- The flag is truthful at the beginning and after each turn. -/
def StaysTruthful
    (s : Session) : List Turn → Prop
  | [] => s.Truthful
  | turn :: rest =>
      s.Truthful ∧ (s.next turn).StaysTruthful rest

/- No turn originates a packet that overtakes another. -/
def NeverOvertakes
    (s : Session) : List Turn → Prop
  | [] => True
  | turn :: rest =>
      ¬ s.Overtakes turn ∧ (s.next turn).NeverOvertakes rest

instance decidableNeverOvertakes
    (s : Session) :
    (turns : List Turn) → Decidable (s.NeverOvertakes turns)
  | [] => .isTrue trivial
  | turn :: rest =>
      @instDecidableAnd _ _ inferInstance
        (decidableNeverOvertakes (s.next turn) rest)

theorem StaysTruthful.head
    {s : Session}
    {turns : List Turn}
    (hStays : s.StaysTruthful turns) :
    s.Truthful := by
  cases turns with
  | nil => exact hStays
  | cons turn rest => exact hStays.1

theorem staysTruthful_iff
    {s : Session}
    (hOpen : s.connection.isOpen = true)
    (hTruthful : s.Truthful)
    {turns : List Turn}
    (hProper : s.Proper turns) :
    s.StaysTruthful turns ↔ s.NeverOvertakes turns := by
  induction turns generalizing s with
  | nil => exact ⟨fun _ => trivial, fun _ => hTruthful⟩
  | cons turn rest ih =>
      rcases hProper with ⟨hAllows, hRest⟩
      have hStill := isOpen_next hOpen hAllows
      constructor
      · intro hStays
        have hNext := hStays.2.head
        exact
          ⟨fun hOvertakes =>
              hOvertakes.not_truthful_next hNext,
            (ih hStill hNext hRest).mp hStays.2⟩
      · intro hNever
        have hNext :=
          hTruthful.next hOpen hAllows hNever.1
        exact
          ⟨hTruthful, (ih hStill hNext hRest).mpr hNever.2⟩

/- The flag is never set without a packet on its way. -/
theorem outstanding_of_forwarding
    {s : Session}
    (hOpen : s.connection.isOpen = true)
    (hFlag :
      s.connection.forwarding = true → s.outstanding ≠ [])
    {turns : List Turn}
    (hProper : s.Proper turns) :
    (s.after turns).connection.forwarding = true →
      (s.after turns).outstanding ≠ [] := by
  induction turns generalizing s with
  | nil => exact hFlag
  | cons turn rest ih =>
      rcases hProper with ⟨hAllows, hRest⟩
      have hStill := isOpen_next hOpen hAllows
      have hMove := move hOpen hAllows
      refine ih hStill ?_ hRest
      unfold next
      generalize s.outcome turn = outcome at hMove
      cases hMove with
      | quiet _ _ _ hSame hAccepted =>
          rw [hAccepted, List.append_nil, hSame]
          exact hFlag
      | sent _ _ _ _ handover _ hAccepted =>
          simp [hAccepted]
      | relayed _ _ _ _ handover _ _ hAccepted =>
          simp [hAccepted]
      | ended _ _ _ _ _ hClear _ => simp [hClear]

/-
  In a session the flag tells the truth at all times just if
  no packet is originated and accepted while another one is
  on its way.  In any case a flag that is set is right.
-/
theorem flag_is_truthful_iff
    (address : Address)
    (config : Config)
    (neighbors : NeighborTable)
    (recent : RecentPackets)
    (history : List (Operation × Answer))
    (channel : UInt16)
    (turns : List Turn) :
    let start :=
      (Connection.withTables address config neighbors
        recent).after history
    let session := opened start channel
    start.isOpen = false →
      session.Proper turns →
        (session.StaysTruthful turns ↔
            session.NeverOvertakes turns) ∧
          ((session.after turns).connection.forwarding =
              true →
            (session.after turns).outstanding ≠ []) := by
  intro start session hClosed hProper
  have hRests : start.RestsClosed :=
    Connection.invariant_after
      Connection.Step.restsClosed (fun _ => rfl) history
  have hIdle : session.connection.forwarding = false :=
    hRests hClosed
  have hTruthful : session.Truthful := truthful_of_nil hIdle
  exact
    ⟨staysTruthful_iff rfl hTruthful hProper,
      outstanding_of_forwarding rfl
        hTruthful.flag_iff.mp hProper⟩

/-
  A node in its second session passes a packet on, is refused
  another one, and originates a third when the first was
  acknowledged.
-/
theorem flag_is_truthful_of_one_by_one :
    let start :=
      Connection.withTables ⟨2, 0⟩ Config.standard
        (NeighborTable.empty 8 180) (RecentPackets.empty 2)
    let nearer : Address := ⟨1, 0⟩
    let packet : Packet :=
      { Packet.empty with
        originator := ⟨3, 0⟩
        hops := 1
        ttl := 10 }
    let history : List (Operation × Answer) :=
      [ (.openOn 128, .ok ()),
        (.handle (.announced nearer 0), .ok ()),
        (.close, .ok ()) ]
    let passedOn : Handover :=
      start.handover nearer (Connection.advance packet)
    let turns : List Turn :=
      [ .perform (.handle (.announced nearer 8)) (.ok ()),
        .perform (.handle (.received ⟨3, 0⟩ packet))
          (.ok ()),
        .perform (.send [1] 4) (.error .transportBusy),
        .report passedOn .acked 1,
        .perform (.send [2] 4) (.ok ()) ]
    let session := opened (start.after history) 128
    session.Proper turns ∧
      session.NeverOvertakes turns ∧
      session.StaysTruthful turns ∧
      (session.after turns).connection.forwarding = true ∧
      (session.after turns).outstanding ≠ [] := by
  intro start nearer packet history passedOn turns session
  have hClosed : (start.after history).isOpen = false := by
    decide
  have hProper : session.Proper turns := by
    decide
  have hNever : session.NeverOvertakes turns := by
    decide
  have hFlag :
      (session.after turns).connection.forwarding = true := by
    decide
  rcases flag_is_truthful_iff ⟨2, 0⟩ Config.standard
      (NeighborTable.empty 8 180) (RecentPackets.empty 2)
      history 128 turns hClosed hProper with
    ⟨hIff, hSome⟩
  exact
    ⟨hProper, hNever, hIff.mpr hNever, hFlag, hSome hFlag⟩

/-
  Two packets are originated one after the other, and the
  transport takes both.  When it reports the first one, the
  flag is cleared, with the second one still on its way.
-/
theorem second_packet_outlives_flag :
    ¬ ∀ (address : Address)
        (config : Config)
        (neighbors : NeighborTable)
        (recent : RecentPackets)
        (history : List (Operation × Answer))
        (channel : UInt16)
        (turns : List Turn),
        let start :=
          (Connection.withTables address config neighbors
            recent).after history
        let session := opened start channel
        start.isOpen = false →
          session.Proper turns →
            (session.after turns).Truthful := by
  intro hAlways
  have hTruthful :=
    hAlways ⟨2, 0⟩ Config.standard
      (NeighborTable.empty 8 180) (RecentPackets.empty 2) []
      128
      [ .perform (.handle (.announced ⟨1, 0⟩ 0)) (.ok ()),
        .perform (.send [1] 4) (.ok ()),
        .perform (.send [2] 4) (.ok ()),
        .report
          { nextHop := ⟨1, 0⟩
            maxRexmit := 4
            packet :=
              { originator := ⟨2, 0⟩
                sender := ⟨2, 0⟩
                receiver := ⟨1, 0⟩
                seqno := 0
                hops := 1
                ttl := 10
                maxRexmit := 4
                payload := [1] } }
          .acked 1 ]
      (by decide) (by decide)
  have hFlag := hTruthful.flag_iff.mpr (by decide)
  revert hFlag
  decide

end Session

end CollectionTree
