import CollectionTree.Proofs.Simulation.Lossless

/-
  Packets are transmitted until one round trip succeeds.

  Key definitions include:
    * `Losses.afterAttempts`
    * `Losses.Succeeds`
    * `Losses.FirstSuccess`
    * `Simulation.CanReach`
    * `Simulation.Transmits`

  Key theorems include:
    * `Losses.attempts_cases`
    * `Simulation.receiver?_eq_some_iff`
    * `Simulation.unicast_ends_with_first_success`

  An attempt asks for the fate of the acknowledgement only
  when the data frame has arrived, so the answers that it
  gets depend on what became of the attempts before it.
-/

namespace CollectionTree

namespace Losses

variable {γ : Type} [LossSource γ]

------------------------------------------------------------
-- Attempts
------------------------------------------------------------

/- The source of losses after a data frame was sent. -/
def afterFrame
    (losses : γ) : γ :=
  (LossSource.lost losses).2

/- The source of losses after an attempt. -/
def afterAttempt
    (losses : γ) : γ :=
  if (LossSource.lost losses).1 then
    afterFrame losses
  else
    (LossSource.lost (afterFrame losses)).2

/- The source of losses after a number of attempts. -/
def afterAttempts :
    Nat → γ → γ
  | 0, losses => losses
  | attempts + 1, losses =>
      afterAttempts attempts (afterAttempt losses)

/- The data frame arrives, and so does the acknowledgement. -/
def Succeeds
    (losses : γ) : Prop :=
  (LossSource.lost losses).1 = false ∧
    (LossSource.lost (afterFrame losses)).1 = false

instance
    (losses : γ) :
    Decidable (Succeeds losses) := by
  unfold Succeeds
  infer_instance

/- Of some attempts the last one is the first to succeed. -/
def FirstSuccess
    (losses : γ)
    (attempts : Nat) : Prop :=
  ∃ others,
    attempts = others + 1 ∧
      Succeeds (afterAttempts others losses) ∧
      ∀ earlier, earlier < others →
        ¬ Succeeds (afterAttempts earlier losses)

/- An attempt, as the radio makes it. -/
theorem roundTrip_cases
    (losses : γ) :
    (Succeeds losses ∧
        Simulation.roundTrip losses =
          (true, afterAttempt losses)) ∨
      (¬ Succeeds losses ∧
        Simulation.roundTrip losses =
          (false, afterAttempt losses)) := by
  rcases hFrame : LossSource.lost losses with ⟨lost, next⟩
  rcases hAck : LossSource.lost next with ⟨ackLost, last⟩
  unfold Simulation.roundTrip Succeeds afterAttempt
    afterFrame
  simp only [hFrame, hAck]
  cases lost with
  | true => exact Or.inr ⟨by simp, rfl⟩
  | false =>
      cases ackLost with
      | true => exact Or.inr ⟨by simp, rfl⟩
      | false => exact Or.inl ⟨⟨rfl, rfl⟩, rfl⟩

theorem FirstSuccess.zero
    {losses : γ}
    (hSucceeds : Succeeds losses) :
    FirstSuccess losses 1 :=
  ⟨0, rfl, hSucceeds, fun earlier hLess =>
    absurd hLess (Nat.not_lt_zero earlier)⟩

/- An attempt that fails is one before the others. -/
theorem firstSuccess_succ_iff
    {losses : γ}
    (hFails : ¬ Succeeds losses)
    (attempts : Nat) :
    FirstSuccess losses (attempts + 1) ↔
      FirstSuccess (afterAttempt losses) attempts := by
  constructor
  · rintro ⟨others, hAttempts, hSucceeds, hEarlier⟩
    cases others with
    | zero => exact absurd hSucceeds hFails
    | succ others =>
        exact
          ⟨others, Nat.succ.inj hAttempts, hSucceeds,
            fun earlier hLess =>
              hEarlier (earlier + 1)
                (Nat.succ_lt_succ hLess)⟩
  · rintro ⟨others, rfl, hSucceeds, hEarlier⟩
    refine ⟨others + 1, rfl, hSucceeds, ?_⟩
    intro earlier hLess
    cases earlier with
    | zero => exact hFails
    | succ earlier =>
        exact hEarlier earlier (Nat.lt_of_succ_lt_succ hLess)

theorem FirstSuccess.pos
    {losses : γ}
    {attempts : Nat}
    (hFirst : FirstSuccess losses attempts) :
    1 ≤ attempts := by
  rcases hFirst with ⟨others, rfl, -, -⟩
  exact Nat.succ_pos others

/- Only one attempt is the first to succeed. -/
theorem FirstSuccess.unique
    {losses : γ}
    {attempts more : Nat}
    (hFirst : FirstSuccess losses attempts)
    (hOther : FirstSuccess losses more) :
    attempts = more := by
  rcases hFirst with ⟨others, rfl, hSucceeds, hEarlier⟩
  rcases hOther with ⟨others', rfl, hSucceeds', hEarlier'⟩
  have hNotLess : ¬ others < others' := fun hLess =>
    hEarlier' others hLess hSucceeds
  have hNotMore : ¬ others' < others := fun hLess =>
    hEarlier others' hLess hSucceeds'
  omega

/-
  With a receiver, transmitting ends with the first attempt
  that succeeds, or with the last one that is allowed.
-/
theorem attempts_cases
    (budget done : Nat)
    (losses : γ) :
    (∃ attempts,
        FirstSuccess losses attempts ∧ attempts ≤ budget ∧
          Simulation.attempts true budget done losses =
            ⟨true, done + attempts,
              afterAttempts attempts losses⟩) ∨
      ((∀ attempts,
          FirstSuccess losses attempts →
            budget < attempts) ∧
        Simulation.attempts true budget done losses =
          ⟨false, done + budget,
            afterAttempts budget losses⟩) := by
  induction budget generalizing done losses with
  | zero => exact Or.inr ⟨fun _ hFirst => hFirst.pos, rfl⟩
  | succ budget ih =>
      unfold Simulation.attempts
      rcases roundTrip_cases losses with
        ⟨hSucceeds, hTrip⟩ | ⟨hFails, hTrip⟩
      · simp only [if_true, hTrip]
        exact Or.inl
          ⟨1, .zero hSucceeds, Nat.le_add_left 1 budget, rfl⟩
      · have hShift :
            ∀ attempts,
              done + 1 + attempts = done + (attempts + 1) :=
          fun attempts => by omega
        simp only [if_true, hTrip]
        rcases ih (done + 1) (afterAttempt losses) with
          ⟨attempts, hFirst, hBudget, hEq⟩ | ⟨hNone, hEq⟩
        · rw [hEq, hShift]
          exact Or.inl
            ⟨attempts + 1,
              (firstSuccess_succ_iff hFails attempts).mpr
                hFirst,
              Nat.succ_le_succ hBudget, rfl⟩
        · rw [hEq, hShift]
          refine Or.inr ⟨?_, rfl⟩
          intro attempts hFirst
          obtain ⟨others, rfl⟩ :=
            Nat.exists_eq_add_of_le' hFirst.pos
          apply Nat.succ_lt_succ
          exact hNone others
            ((firstSuccess_succ_iff hFails others).mp hFirst)

/- Without a receiver all attempts are made in vain. -/
theorem attempts_without_receiver
    (budget done : Nat)
    (losses : γ) :
    Simulation.attempts false budget done losses =
      ⟨false, done + budget, losses⟩ := by
  induction budget generalizing done with
  | zero => rfl
  | succ budget ih =>
      unfold Simulation.attempts
      rw [if_neg Bool.false_ne_true, ih, Nat.add_assoc,
        Nat.add_comm 1]

end Losses

namespace Simulation

variable {γ : Type}

------------------------------------------------------------
-- Receivers
------------------------------------------------------------

/-
  An address is that of a node in range.  There are 255
  addresses for nodes.
-/
structure CanReach
    (s : Simulation γ)
    (sender : Nat)
    (a : Address)
    (receiver : Nat) : Prop where
  exists_node : receiver < s.nodes.size
  addressed : receiver < 255
  address : a = addressOf receiver
  inRange : s.setup.inRange sender receiver = true

theorem receiver?_eq_some_iff
    {s : Simulation γ}
    {sender : Nat}
    {a : Address}
    {receiver : Nat} :
    s.receiver? sender a = some receiver ↔
      s.CanReach sender a receiver := by
  unfold receiver?
  rw [Option.filter_eq_some_iff, indexOf?_eq_some_iff]
  constructor
  · rintro ⟨⟨hSize, hFew, hAddress⟩, hRange⟩
    exact ⟨hSize, hFew, hAddress, hRange⟩
  · intro hReach
    exact
      ⟨⟨hReach.exists_node, hReach.addressed,
        hReach.address⟩, hReach.inRange⟩

------------------------------------------------------------
-- Reliable Unicasts
------------------------------------------------------------

section Unicasts

variable [LossSource γ]

/-
  A packet was transmitted a number of times, and its sender
  is to be told so, after what is to be told to others.
  Nothing else has happened.
-/
structure Transmits
    (s t : Simulation γ)
    (sender : Nat)
    (handover : Handover)
    (arrivals : List (Nat × Event))
    (outcome : TxOutcome)
    (transmissions timeouts : Nat) : Prop where
  positive : 1 ≤ transmissions
  budget :
    transmissions ≤ min (handover.maxRexmit.toNat + 1) 255
  events :
    ∃ reported : UInt8, reported.toNat = transmissions ∧
      t.events.toList =
        s.events.toList ++ arrivals ++
          [ (sender,
              .sent handover.nextHop outcome reported) ]
  rest :
    t =
      { s with
        events := t.events
        losses := t.losses
        traffic :=
          { s.traffic with
            transmissions :=
              s.traffic.transmissions + transmissions
            timeouts := s.traffic.timeouts + timeouts } }

/- As many transmissions as are allowed fit into a byte. -/
theorem toNat_toUInt8_of_budget
    {maxRexmit : UInt8}
    {transmissions : Nat}
    (hBudget : transmissions ≤ transmissionBudget maxRexmit) :
    transmissions.toUInt8.toNat = transmissions := by
  have hFew : transmissions ≤ 255 :=
    Nat.le_trans hBudget (Nat.min_le_right _ _)
  rw [Nat.toUInt8_eq, UInt8.toNat_ofNat']
  omega

theorem transmissionBudget_pos
    (maxRexmit : UInt8) :
    1 ≤ transmissionBudget maxRexmit :=
  le_min (Nat.le_add_left 1 _) (by decide)

/- A round trip succeeds while the budget lasts. -/
theorem transmits_acked
    {s : Simulation γ}
    {sender receiver attempts : Nat}
    {handover : Handover}
    (hReach : s.CanReach sender handover.nextHop receiver)
    (hFirst : Losses.FirstSuccess s.losses attempts)
    (hBudget :
      attempts ≤ transmissionBudget handover.maxRexmit) :
    Transmits s (s.serveUnicast sender handover) sender
      handover
      [ (receiver,
          .received (addressOf sender) handover.packet) ]
      .acked attempts 0 := by
  have hReceiver := receiver?_eq_some_iff.mpr hReach
  rcases Losses.attempts_cases
      (transmissionBudget handover.maxRexmit) 0 s.losses with
    ⟨others, hOther, -, hAttempts⟩ | ⟨hNone, -⟩
  · obtain rfl := hFirst.unique hOther
    rw [Nat.zero_add] at hAttempts
    unfold serveUnicast
    simp only [hReceiver, Option.isSome_some, hAttempts]
    exact
      { positive := hFirst.pos
        budget := hBudget
        events :=
          ⟨attempts.toUInt8, toNat_toUInt8_of_budget hBudget,
            by rw [Queue.toList_push, Queue.toList_push]⟩
        rest := rfl }
  · exact absurd hBudget
      (Nat.not_le_of_lt (hNone attempts hFirst))

/- No round trip succeeds while the budget lasts. -/
theorem transmits_timeout
    {s : Simulation γ}
    {sender : Nat}
    {handover : Handover}
    (hFails :
      ∀ receiver attempts,
        s.CanReach sender handover.nextHop receiver →
          Losses.FirstSuccess s.losses attempts →
            transmissionBudget handover.maxRexmit <
              attempts) :
    Transmits s (s.serveUnicast sender handover) sender
      handover [] .timeout
      (transmissionBudget handover.maxRexmit) 1 := by
  let budget := transmissionBudget handover.maxRexmit
  have hAttempts :
      ∃ losses,
        attempts
            (s.receiver? sender handover.nextHop).isSome
            budget 0 s.losses =
          ⟨false, budget, losses⟩ := by
    cases hReceiver :
      s.receiver? sender handover.nextHop with
    | none =>
        refine ⟨s.losses, ?_⟩
        have hVain :=
          Losses.attempts_without_receiver budget 0 s.losses
        rwa [Nat.zero_add] at hVain
    | some receiver =>
        have hReach := receiver?_eq_some_iff.mp hReceiver
        rcases Losses.attempts_cases budget 0 s.losses with
          ⟨attempts, hFirst, hLate, -⟩ | ⟨-, hVain⟩
        · exact absurd hLate
            (Nat.not_le_of_lt
              (hFails receiver attempts hReach hFirst))
        · rw [Nat.zero_add] at hVain
          exact ⟨_, hVain⟩
  rcases hAttempts with ⟨losses, hAttempts⟩
  unfold serveUnicast
  simp only [budget] at hAttempts
  simp only [hAttempts]
  exact
    { positive := transmissionBudget_pos _
      budget := Nat.le_refl _
      events :=
        ⟨(transmissionBudget handover.maxRexmit).toUInt8,
          toNat_toUInt8_of_budget (Nat.le_refl _),
          by rw [Queue.toList_push, List.append_nil]⟩
      rest := rfl }

/-
  A packet for a node in range arrives just if a round trip
  succeeds while the budget lasts.  Its sender is told about
  the first one that does, or about all those that did not.
-/
theorem unicast_ends_with_first_success
    (s : Simulation γ)
    (sender : Nat)
    (handover : Handover) :
    let budget := min (handover.maxRexmit.toNat + 1) 255
    let t := s.serve (.unicast sender handover)
    (∀ receiver attempts,
        s.CanReach sender handover.nextHop receiver →
          Losses.FirstSuccess s.losses attempts →
            attempts ≤ budget →
              Transmits s t sender handover
                [ (receiver,
                    .received (addressOf sender)
                      handover.packet) ]
                .acked attempts 0) ∧
      ((∀ receiver attempts,
          s.CanReach sender handover.nextHop receiver →
            Losses.FirstSuccess s.losses attempts →
              budget < attempts) →
        Transmits s t sender handover [] .timeout budget
          1) :=
  ⟨fun _ _ hReach hFirst hBudget =>
      transmits_acked hReach hFirst hBudget,
    fun hFails => transmits_timeout hFails⟩

/-
  One acknowledgement gets lost before a packet is known to
  have arrived.  Another packet is for a node that does not
  exist.
-/
theorem unicast_ends_with_first_success_of_two :
    let setup : Setup :=
      { Setup.standard with nodeCount := 2 }
    let s := start setup (SeededLosses.ofSeed 0.5 9)
    let handover : Handover :=
      ⟨addressOf 0, 255, Packet.empty⟩
    let stray : Handover :=
      { handover with nextHop := addressOf 2 }
    s.CanReach 1 handover.nextHop 0 ∧
      Losses.FirstSuccess s.losses 2 ∧
      (∀ receiver, ¬ s.CanReach 1 stray.nextHop receiver) ∧
      Transmits s (s.serve (.unicast 1 handover)) 1 handover
        [(0, .received (addressOf 1) handover.packet)] .acked
        2 0 ∧
      Transmits s (s.serve (.unicast 1 stray)) 1 stray []
        .timeout 255 1 := by
  intro setup s handover stray
  have hReach : s.CanReach 1 handover.nextHop 0 :=
    receiver?_eq_some_iff.mp (by decide +kernel)
  have hFirst : Losses.FirstSuccess s.losses 2 :=
    ⟨1, rfl, by decide +kernel, by decide +kernel⟩
  have hStray :
      ∀ receiver, ¬ s.CanReach 1 stray.nextHop receiver := by
    have hNone : s.receiver? 1 stray.nextHop = none := by
      decide +kernel
    intro receiver hReach
    rw [receiver?_eq_some_iff.mpr hReach] at hNone
    contradiction
  exact
    ⟨hReach, hFirst, hStray,
      (unicast_ends_with_first_success s 1 handover).1 0 2
        hReach hFirst (by decide),
      (unicast_ends_with_first_success s 1 stray).2
        fun receiver _ hReach =>
          absurd hReach (hStray receiver)⟩

end Unicasts

end Simulation

end CollectionTree
