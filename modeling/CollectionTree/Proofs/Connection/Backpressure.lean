import CollectionTree.Proofs.Connection.Sessions
import Mathlib.Data.List.DropRight

/-
  When a connection holds packets back that it is to pass
  on.

  Key definitions include:
    * `Connection.Occurrence.isRelease`
    * `Connection.acceptedSinceRelease`
    * `Connection.Carries`

  Key theorems include:
    * `Connection.Step.carries`
    * `Connection.Step.forwarding_of_release`
    * `Connection.forwarding_iff_acceptedSinceRelease`
    * `Connection.relays_wait_for_release`

  The forwarding flag is all that a connection knows of the
  packets on their way.  It is set just if the transport
  accepted a packet since it was last released: since it
  reported a packet, or the connection was closed.
-/

namespace CollectionTree

------------------------------------------------------------
-- Releases
------------------------------------------------------------

/- Whether an operation frees the transport of an open node. -/
def Operation.isRelease : Operation → Bool
  | .close => true
  | .handle (.sent _ _ _) => true
  | _ => false

namespace Connection

/- The transport of an open node was freed. -/
def Occurrence.isRelease
    (o : Occurrence) : Bool :=
  o.before.isOpen && o.operation.isRelease

/- The packets accepted after the transport was last freed. -/
def acceptedSinceRelease
    (steps : List Occurrence) : List Handover :=
  (steps.rtakeWhile (fun o => !o.isRelease)).flatMap
    (fun o => o.outcome.accepted)

theorem acceptedSinceRelease_of_release
    (steps : List Occurrence)
    {o : Occurrence}
    (hRelease : o.isRelease = true) :
    acceptedSinceRelease (steps ++ [o]) = [] := by
  unfold acceptedSinceRelease
  rw [List.rtakeWhile_concat_neg _ _ _ (by simp [hRelease]),
    List.flatMap_nil]

theorem acceptedSinceRelease_of_other
    (steps : List Occurrence)
    {o : Occurrence}
    (hOther : o.isRelease = false) :
    acceptedSinceRelease (steps ++ [o]) =
      acceptedSinceRelease steps ++ o.outcome.accepted := by
  unfold acceptedSinceRelease
  rw [List.rtakeWhile_concat_pos _ _ _ (by simp [hOther]),
    List.flatMap_append, List.flatMap_singleton]

------------------------------------------------------------
-- One Step
------------------------------------------------------------

/-
  The flag is set after a step if it was set before or a
  packet was accepted.
-/
def Carries
    (c : Connection)
    (outcome : Outcome) : Prop :=
  outcome.connection.forwarding = true ↔
    c.forwarding = true ∨ outcome.accepted ≠ []

theorem carries_of_same
    {c : Connection}
    {outcome : Outcome}
    (hFlag : outcome.connection.forwarding = c.forwarding)
    (hNone : outcome.accepted = []) :
    Carries c outcome := by
  simp [Carries, hFlag, hNone]

theorem carries_of_accepted
    {c : Connection}
    {outcome : Outcome}
    {handover : Handover}
    (hFlag : outcome.connection.forwarding = true)
    (hAccepted : outcome.accepted = [handover]) :
    Carries c outcome := by
  simp [Carries, hFlag, hAccepted]

/- A metric that is brought up to date leaves the flag. -/
theorem carries_thenUpdate
    {c d : Connection}
    (hFlag : d.forwarding = c.forwarding)
    {effects : List Effect}
    (hNone : effects.filterMap Effect.accepted? = []) :
    Carries c (d.thenUpdate effects) := by
  apply carries_of_same
  · rw [forwarding_thenUpdate]
    exact hFlag
  · rw [accepted_thenUpdate]
    exact hNone

/- Only what frees the transport clears the flag. -/
theorem Step.carries
    {c : Connection}
    {answer : Answer}
    {operation : Operation}
    {outcome : Outcome}
    (hStep : Step c answer operation outcome)
    (hOther : (c.isOpen && operation.isRelease) = false) :
    Carries c outcome := by
  cases hStep with
  | unopened _ _ _ => exact carries_of_same rfl rfl
  | opened _ _ => exact carries_of_same rfl rfl
  | unclosed _ => exact carries_of_same rfl rfl
  | closed hOpen =>
      rw [hOpen] at hOther
      contradiction
  | assigned on =>
      exact carries_thenUpdate (d := c.assigned on) rfl rfl
  | unsent _ _ _ => exact carries_of_same rfl rfl
  | sent _ _ _ _ hSending =>
      cases hSending with
      | handedOver _ _ _ _ =>
          exact carries_of_accepted rfl rfl
      | _ => exact carries_of_same rfl rfl
  | unheard _ _ => exact carries_of_same rfl rfl
  | received _ _ _ _ hReception =>
      cases hReception with
      | relayed _ _ _ _ _ _ _ _ _ =>
          exact carries_of_accepted rfl rfl
      | _ => exact carries_of_same rfl rfl
  | concluded hOpen _ _ _ =>
      rw [hOpen] at hOther
      contradiction
  | echoed _ _ => exact carries_of_same rfl rfl
  | informed _ sender _ metric =>
      exact carries_thenUpdate (d := c.informed sender metric)
        rfl rfl
  | aged _ _ _ => exact carries_of_same rfl rfl
  | thinned _ time _ =>
      exact carries_thenUpdate (d := c.aged time) rfl rfl

theorem Step.forwarding_of_release
    {c : Connection}
    {answer : Answer}
    {operation : Operation}
    {outcome : Outcome}
    (hStep : Step c answer operation outcome)
    (hRelease : (c.isOpen && operation.isRelease) = true) :
    outcome.connection.forwarding = false := by
  cases hStep with
  | unclosed hClosed =>
      rw [hClosed] at hRelease
      contradiction
  | closed _ => rfl
  | unheard hClosed _ =>
      rw [hClosed] at hRelease
      contradiction
  | concluded _ _ _ _ => simp
  -- The other operations do not free the transport.
  | _ => simp [Operation.isRelease] at hRelease

/- Only an idle node hands over a packet to be passed on. -/
theorem Step.idle_of_handover
    {c : Connection}
    {answer : Answer}
    {sender : Address}
    {packet : Packet}
    {outcome : Outcome}
    (hStep :
      Step c answer (.handle (.received sender packet))
        outcome)
    (hSome :
      outcome.effects.filterMap Effect.handover? ≠ []) :
    c.forwarding = false := by
  cases hStep with
  | unheard _ _ => exact absurd rfl hSome
  | received _ _ _ _ hReception =>
      cases hReception with
      | refused _ _ _ _ hIdle _ _ _ _ _ => exact hIdle
      | relayed _ _ _ _ hIdle _ _ _ _ => exact hIdle
      | _ => exact absurd rfl hSome

/-
  A packet that is to be passed on is dropped as busy just
  if the flag is set.
-/
theorem Reception.busy_iff
    {c : Connection}
    {answer : Answer}
    {sender : Address}
    {packet : Packet}
    {outcome : Outcome}
    (hReception :
      Reception c answer sender packet outcome)
    (hNew : c.recent.seen packet.id = false)
    (hRole : c.role ≠ .sink)
    (hTtl : 1 < packet.ttl)
    (hMetric : c.metric ≠ Metric.unreachable) :
    outcome.connection.stats.busyDrops =
        c.stats.busyDrops + 1 ↔
      c.forwarding = true := by
  cases hReception with
  | duplicate hSeen =>
      rw [hNew] at hSeen
      contradiction
  | delivered _ hSink => contradiction
  | expired _ _ hSpent =>
      exact absurd hTtl (UInt8.not_lt.mpr hSpent)
  | disconnected _ _ _ hNoRoute => contradiction
  | busy _ _ _ _ hBusy => simp [hBusy]
  | unrouted _ _ _ _ hIdle _ =>
      simp [hIdle, remember, countNoRoute]
  | refused _ _ _ _ hIdle _ _ _ _ _ => simp [hIdle, remember]
  | relayed _ _ _ _ hIdle _ _ _ _ => simp [hIdle]

/- A packet that is refused leaves the flag as it was. -/
theorem Step.forwarding_of_refusal
    {c : Connection}
    {answer : Answer}
    {operation : Operation}
    {outcome : Outcome}
    (hStep : Step c answer operation outcome)
    {handover : Handover}
    (hRefused : .refuse handover ∈ outcome.effects) :
    outcome.connection.forwarding = c.forwarding := by
  cases hStep with
  | sent _ _ _ _ hSending =>
      cases hSending with
      | handedOver _ _ _ _ => simp at hRefused
      | _ => rfl
  | received _ _ _ _ hReception =>
      cases hReception with
      | relayed _ _ _ _ _ _ _ _ _ => simp at hRefused
      | _ => rfl
  | closed _ => simp at hRefused
  | concluded _ receiver ended transmissions =>
      rcases thenUpdate_cases
          (c.concluded receiver ended transmissions) [] with
        ⟨-, hEq⟩ | ⟨-, -, hEq⟩
      · simp [hEq] at hRefused
      · simp [hEq] at hRefused
  | assigned _ => exact forwarding_thenUpdate _ _
  | informed _ _ _ _ => exact forwarding_thenUpdate _ _
  | thinned _ _ _ => exact forwarding_thenUpdate _ _
  | _ => rfl

------------------------------------------------------------
-- Runs
------------------------------------------------------------

/- The flag tells whether a packet was accepted of late. -/
theorem forwarding_iff_acceptedSinceRelease
    {c : Connection}
    (hIdle : c.forwarding = false)
    (run : List (Operation × Answer)) :
    (c.after run).forwarding = true ↔
      acceptedSinceRelease (c.history run) ≠ [] := by
  refine
    invariant_history
      (P := fun steps d =>
        d.forwarding = true ↔ acceptedSinceRelease steps ≠ [])
      ?_ ?_ run
  · intro earlier o hStep hHeld
    cases hRelease : o.isRelease with
    | true =>
        rw [acceptedSinceRelease_of_release earlier hRelease,
          hStep.forwarding_of_release hRelease]
        simp
    | false =>
        rw [acceptedSinceRelease_of_other earlier hRelease,
          ne_eq, List.append_eq_nil_iff, not_and_or,
          ← ne_eq, ← hHeld]
        exact hStep.carries hRelease
  · simp [hIdle, acceptedSinceRelease]

/-
  After any run of a new connection, a packet to be passed
  on is handed to the transport only if it accepted no
  packet since it was last freed.  A new packet that could
  be passed on is dropped as busy just if it did.  A packet
  that is refused, whether passed on or originated, does not
  count.
-/
theorem relays_wait_for_release
    (address : Address)
    (config : Config)
    (neighbors : NeighborTable)
    (recent : RecentPackets)
    (run : List (Operation × Answer)) :
    let start := withTables address config neighbors recent
    let current := start.after run
    let pending := acceptedSinceRelease (start.history run)
    (current.forwarding = true ↔ pending ≠ []) ∧
      (∀ (answer : Answer) (sender : Address)
          (packet : Packet),
        (current.perform answer
              (.handle
                (.received sender packet))).effects.filterMap
            Effect.handover? ≠ [] →
          pending = []) ∧
      (∀ (answer : Answer) (sender : Address)
          (packet : Packet),
        current.isOpen = true →
          current.role ≠ .sink →
          current.metric ≠ Metric.unreachable →
          current.recent.seen packet.id = false →
          1 < packet.ttl →
            ((current.perform answer
                  (.handle (.received sender
                    packet))).connection.stats.busyDrops =
                current.stats.busyDrops + 1 ↔
              pending ≠ [])) ∧
      ∀ (answer : Answer) (operation : Operation)
          (handover : Handover),
        .refuse handover ∈
            (current.perform answer operation).effects →
          ((current.perform answer
                operation).connection.forwarding = true ↔
            pending ≠ []) := by
  intro start current pending
  have hFlag : current.forwarding = true ↔ pending ≠ [] :=
    forwarding_iff_acceptedSinceRelease (c := start) rfl run
  refine ⟨hFlag, ?_, ?_, ?_⟩
  · intro answer sender packet hSome
    have hIdle :=
      (step current answer
        (.handle (.received sender packet))).idle_of_handover
          hSome
    apply Decidable.byContradiction
    intro hPending
    rw [hFlag.mpr hPending] at hIdle
    contradiction
  · intro answer sender packet hOpen hRole hMetric hNew hTtl
    rw [← hFlag]
    exact
      (reception hOpen answer sender packet).busy_iff hNew
        hRole hTtl hMetric
  · intro answer operation handover hRefused
    rw [← hFlag,
      (step current answer operation).forwarding_of_refusal
        hRefused]

end Connection

end CollectionTree
