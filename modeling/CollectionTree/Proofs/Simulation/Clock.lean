import CollectionTree.Proofs.Simulation.Start

/-
  The time in a run, and what does not change it.

  Key definitions include:
    * `Simulation.RunsOut`
    * `Simulation.clock`

  Key theorems include:
    * `Simulation.turn?_eq_none_iff`
    * `Simulation.clock_pump`
    * `Simulation.messagesNoRoute_pump`
    * `Simulation.beaconsSent_frame`
    * `Simulation.not_runsOut_iff`
    * `Simulation.clock_run`

  Only the beginning of a step changes the time, and only
  readings change how many of them were sent.
-/

namespace CollectionTree

namespace Simulation

variable {γ : Type}

section Turns

variable [LossSource γ]

theorem turn?_eq_none_iff
    {s : Simulation γ} :
    s.turn? = none ↔
      s.outbox.toList = [] ∧ s.events.toList = [] := by
  rw [← Queue.pop?_eq_none_iff, ← Queue.pop?_eq_none_iff]
  unfold turn?
  cases s.outbox.pop? with
  | some popped => simp
  | none =>
      cases s.events.pop? with
      | some popped => simp
      | none => simp

/-
  A step runs out of turns when something still waits after
  the last of them.
-/
def RunsOut
    (s : Simulation γ) : Prop :=
  s.step.turn? ≠ none

------------------------------------------------------------
-- What Turns and Beacons Leave Alone
------------------------------------------------------------

/- The time, and how many readings were sent. -/
def clock
    (s : Simulation γ) : Setup × Nat × Nat :=
  (s.setup, s.steps, s.traffic.messagesSent)

theorem clock_serve
    (s : Simulation γ)
    (request : Request) :
    (s.serve request).clock = s.clock := by
  cases request with
  | announce sender metric => rfl
  | listen listener bursts => rfl
  | unicast sender handover =>
      generalize hServed : s.serve (.unicast sender handover) = t
      unfold serve serveUnicast at hServed
      simp only at hServed
      split at hServed <;>
        · subst hServed
          rfl

omit [LossSource γ] in
theorem clock_dispatch
    (s : Simulation γ)
    (index : Nat)
    (event : Event) :
    (s.dispatch index event).clock = s.clock := by
  unfold dispatch
  cases s.nodes[index]? <;> rfl

theorem clock_turn
    {s t : Simulation γ}
    (hTurn : s.turn? = some t) :
    t.clock = s.clock := by
  unfold turn? at hTurn
  cases hPop : s.outbox.pop? with
  | some popped =>
      simp only [hPop, Option.some.injEq] at hTurn
      rw [← hTurn, clock_serve]
      rfl
  | none =>
      simp only [hPop] at hTurn
      cases hNext : s.events.pop? with
      | none =>
          simp only [hNext] at hTurn
          contradiction
      | some popped =>
          simp only [hNext, Option.some.injEq] at hTurn
          rw [← hTurn, clock_dispatch]
          rfl

theorem clock_pump
    (budget : Nat)
    (s : Simulation γ) :
    (s.pump budget).clock = s.clock := by
  induction budget generalizing s with
  | zero => rfl
  | succ budget ih =>
      unfold pump
      cases hTurn : s.turn? with
      | none => rfl
      | some next => exact (ih next).trans (clock_turn hTurn)

/- Turns do not refuse readings. -/
theorem messagesNoRoute_turn
    {s t : Simulation γ}
    (hTurn : s.turn? = some t) :
    t.traffic.messagesNoRoute =
      s.traffic.messagesNoRoute := by
  rcases turn_queues hTurn with
    ⟨request, outbox, -, rfl⟩ |
    ⟨index, event, events, -, -, rfl⟩
  · cases request with
    | announce sender metric => rfl
    | listen listener bursts => rfl
    | unicast sender handover =>
        exact
          (serveUnicast_frame { s with outbox := outbox }
            sender handover).2.2.2.2
  · unfold dispatch
    simp only
    split <;> rfl

theorem messagesNoRoute_pump
    (budget : Nat)
    (s : Simulation γ) :
    (s.pump budget).traffic.messagesNoRoute =
      s.traffic.messagesNoRoute := by
  induction budget generalizing s with
  | zero => rfl
  | succ budget ih =>
      unfold pump
      cases hTurn : s.turn? with
      | none => rfl
      | some next =>
          exact (ih next).trans (messagesNoRoute_turn hTurn)

omit [LossSource γ] in
theorem foldl_preserves
    {β : Type}
    (view : Simulation γ → β)
    {action : Simulation γ → Nat → Simulation γ}
    (hAction : ∀ s index, view (action s index) = view s)
    (indices : List Nat)
    (s : Simulation γ) :
    view (indices.foldl action s) = view s := by
  induction indices generalizing s with
  | nil => rfl
  | cons index rest ih =>
      exact (ih (action s index)).trans (hAction s index)

/- A beacon is not an operation of any node. -/
theorem beacon_frame
    (s : Simulation γ)
    (index : Nat) :
    (s.beacon index).setup = s.setup ∧
      (s.beacon index).nodes = s.nodes ∧
      (s.beacon index).outbox = s.outbox ∧
      (s.beacon index).steps = s.steps := by
  unfold beacon
  cases s.announced? index with
  | none => exact ⟨rfl, rfl, rfl, rfl⟩
  | some metric => exact ⟨rfl, rfl, rfl, rfl⟩

/- Beacons are sent without the nodes taking part. -/
theorem beaconsSent_frame
    (s : Simulation γ) :
    (s.beaconsSent.clock, s.beaconsSent.nodes) =
      (s.clock, s.nodes) := by
  unfold beaconsSent
  split
  · refine foldl_preserves
      (fun s : Simulation γ => (s.clock, s.nodes)) ?_ _ s
    intro s index
    unfold beacon
    cases s.announced? index <;> rfl
  · rfl

/- Beacons do not refuse readings either. -/
theorem messagesNoRoute_beaconsSent
    (s : Simulation γ) :
    s.beaconsSent.traffic.messagesNoRoute =
      s.traffic.messagesNoRoute := by
  unfold beaconsSent
  split
  · refine foldl_preserves
      (fun s : Simulation γ => s.traffic.messagesNoRoute)
      ?_ _ s
    intro s index
    unfold beacon
    cases s.announced? index <;> rfl
  · rfl

------------------------------------------------------------
-- Steps and Runs
------------------------------------------------------------

omit [LossSource γ] in
theorem report_frame
    (s : Simulation γ)
    (index : Nat) :
    ((s.report index).setup, (s.report index).steps) =
      (s.setup, s.steps) := by
  unfold report
  cases s.nodes[index]? with
  | none => rfl
  | some node =>
      simp only
      split
      · rfl
      · rw [countReading_eq, perform_frame]

theorem steps_begun
    (s : Simulation γ) :
    (s.begun.setup, s.begun.steps) =
      (s.setup, s.steps + 1) := by
  have hBeacons := beaconsSent_frame s.ticked
  have hClock := (Prod.mk.inj hBeacons).1
  have hSetup := (Prod.mk.inj hClock).1
  have hSteps :=
    (Prod.mk.inj (Prod.mk.inj hClock).2).1
  unfold begun readingsSent
  split
  · rw [atEachNode,
      foldl_preserves
        (fun s : Simulation γ => (s.setup, s.steps))
        report_frame, hSetup, hSteps]
    rfl
  · rw [hSetup, hSteps]
    rfl

theorem run_succ
    (steps : Nat)
    (s : Simulation γ) :
    run (steps + 1) s = (run steps s).step := by
  induction steps generalizing s with
  | zero => rfl
  | succ steps ih => exact ih s.step

/- A step does not run out if nothing waits after it. -/
theorem not_runsOut_iff
    {steps : Nat}
    {s : Simulation γ} :
    ¬ (run steps s).RunsOut ↔
      (run (steps + 1) s).turn? = none := by
  rw [RunsOut, Decidable.not_not, run_succ]

theorem run_add
    (first steps : Nat)
    (s : Simulation γ) :
    run (first + steps) s = run steps (run first s) := by
  induction steps with
  | zero => rfl
  | succ steps ih =>
      rw [← Nat.add_assoc, run_succ, run_succ, ih]

theorem clock_run
    (steps : Nat)
    (s : Simulation γ) :
    (run steps s).setup = s.setup ∧
      (run steps s).steps = s.steps + steps := by
  induction steps with
  | zero => exact ⟨rfl, rfl⟩
  | succ steps ih =>
      obtain ⟨hSetup, hSteps⟩ := ih
      have hPump :=
        clock_pump turnsPerStep (run steps s).begun
      have hBegun := steps_begun (run steps s)
      rw [run_succ, step_eq_pump]
      constructor
      · rw [(Prod.mk.inj hPump).1,
          (Prod.mk.inj hBegun).1, hSetup]
      · rw [(Prod.mk.inj (Prod.mk.inj hPump).2).1,
          (Prod.mk.inj hBegun).2, hSteps, Nat.add_assoc]

end Turns

end Simulation

end CollectionTree
