import CollectionTree.Proofs.Simulation.Journal
import CollectionTree.Proofs.Simulation.Schedule

/-
  Along a line that loses nothing, each step is a round.

  Key definitions include:
    * `Simulation.NoneRefused`
    * `Simulation.Underway`
    * `Simulation.Resting`

  Key theorems include:
    * `Simulation.Underway.reports`
    * `Simulation.Underway.pump`
    * `Simulation.Resting.step`
    * `Simulation.Resting.run`

  When nothing waits, a step sends one reading from every
  node but the sink, or none at all, and what it sends has
  been delivered when nothing waits again.
-/

namespace CollectionTree

namespace Simulation

variable {γ : Type}

/- No reading was refused for lack of a route. -/
def NoneRefused
    (entries : List Entry) : Prop :=
  ∀ reading ∈ readingsIn entries,
    reading.reply ≠ .sent .droppedNoRoute

theorem noneRefused_append
    {entries more : List Entry}
    (hEntries : NoneRefused entries)
    (hMore : NoneRefused more) :
    NoneRefused (entries ++ more) := by
  intro reading hMem
  rw [readingsIn_append, List.mem_append] at hMem
  rcases hMem with hOld | hNew
  · exact hEntries reading hOld
  · exact hMore reading hNew

section Runs

variable
  [LossSource γ]
  {r : Round}
  {s t : Simulation γ}

------------------------------------------------------------
-- Beginnings
------------------------------------------------------------

/- Time and beacons are not about packets. -/
theorem OnSchedule.beginning
    {g : Stage}
    (hOn : s.OnSchedule r g) :
    s.ticked.beaconsSent.OnSchedule r g := by
  have hTicked : s.ticked.OnSchedule r g :=
    hOn.of_sameCargo (SameCargo.of_airs (airs_ticked s) rfl)
  have hBeacons :
      ∀ (indices : List Nat) (s : Simulation γ),
        s.OnSchedule r g →
          (indices.foldl Simulation.beacon s).OnSchedule r
            g := by
    intro indices
    induction indices with
    | nil => exact fun _ hOn => hOn
    | cons index rest ih =>
        intro s hOn
        obtain ⟨-, -, hOutbox, -⟩ := beacon_frame s index
        exact
          ih _
            (hOn.of_sameCargo
              (SameCargo.of_airs (airs_beacon s index)
                (by rw [hOutbox])))
  unfold beaconsSent
  split
  · exact hBeacons _ _ hTicked
  · exact hTicked

/- With routes to the sink, packets are on schedule. -/
structure Underway
    (r : Round)
    (g : Stage)
    (s : Simulation γ) : Prop where
  flowing : s.Flowing r.setup
  schedule : s.OnSchedule r g

/- A node with a route sends its reading. -/
theorem Underway.report
    {place : Nat}
    (hUnderway : s.Underway r ⟨0, place, false⟩)
    (hPlace : place < r.count)
    (hStep : s.steps = r.step)
    (hOnLine : s.OnLine r.setup) :
    (s.report place).Underway r ⟨0, place + 1, false⟩ ∧
      (s.report place).traffic.messagesNoRoute =
        s.traffic.messagesNoRoute ∧
      NoneRefused (s.entriesOfReport place) := by
  have hSound := hOnLine.sound
  have hFlowing := hUnderway.flowing
  refine
    ⟨{ flowing :=
          hFlowing.report hOnLine.line hSound hOnLine.vicinal
            place
       schedule :=
          hUnderway.schedule.report hPlace hStep hOnLine
            hFlowing }, ?_⟩
  rcases report_cases (hSound.ready place) with
    ⟨hSame, hSilent⟩ |
    ⟨node, next, requests, reply, hReported⟩
  · rw [hSame, entriesOfReport_of_silent hSilent]
    exact ⟨rfl, by simp [NoneRefused, readingsIn]⟩
  · rcases hFlowing.handedOver hOnLine.line hSound
      hOnLine.vicinal hReported with
      ⟨before, -, hReply, -, -⟩
    constructor
    · rw [hReported.traffic, hReply]
      rfl
    · rw [entriesOfReport_of_reported hSound hReported]
      intro reading hMem
      have hOne :
          readingsIn
              (entriesOf place
                (requests.filterMap Request.handover?)) =
            [] :=
        readingsIn_entriesOf _ _
      unfold readingsIn at hOne hMem
      rw [List.filterMap_cons, hOne] at hMem
      rw [List.mem_singleton.mp hMem, hReply]
      intro hDropped
      cases hDropped

variable
  {setup : Setup}
  {losses : γ}

/- All nodes send their readings in turn. -/
theorem Underway.reports
    (hLine : r.setup.LosslessLine)
    (hLossless : Losses.Lossless losses)
    (hReaches : Reaches (start r.setup losses) s)
    {place : Nat}
    (hUnderway : s.Underway r ⟨0, place, false⟩)
    (hStep : s.steps = r.step)
    {more : Nat}
    (hCount : place + more = r.count) :
    ((List.range' place more).foldl Simulation.report
        s).Underway r ⟨0, r.count, false⟩ ∧
      ((List.range' place more).foldl Simulation.report
          s).traffic.messagesNoRoute =
        s.traffic.messagesNoRoute ∧
      NoneRefused
        (entriesOfReports (List.range' place more) s) := by
  induction more generalizing s place with
  | zero =>
      obtain rfl : place = r.count := by
        omega
      exact
        ⟨hUnderway, rfl, by
          simp [NoneRefused, entriesOfReports, readingsIn]⟩
  | succ more ih =>
      have hOnLine := onLine_of_reaches hLine hLossless hReaches
      obtain ⟨hNext, hNoRoute, hNone⟩ :=
        hUnderway.report (by omega) hStep hOnLine
      have hSteps :=
        (Prod.mk.inj (report_frame s place)).2
      obtain ⟨hLast, hSame, hRest⟩ :=
        ih (hReaches.tail (.report s place)) hNext
          (hSteps.trans hStep) (by omega)
      rw [List.range'_succ]
      exact
        ⟨hLast, hSame.trans hNoRoute,
          noneRefused_append hNone hRest⟩

------------------------------------------------------------
-- Turns
------------------------------------------------------------

theorem Underway.pump
    (hLine : r.setup.LosslessLine)
    (hLossless : Losses.Lossless losses)
    (hReaches : Reaches (start r.setup losses) s)
    {g : Stage}
    (hUnderway : s.Underway r g)
    (hWithin : g.Within r)
    (budget : Nat) :
    ∃ g', (s.pump budget).Underway r g' ∧ g'.Within r := by
  induction budget generalizing s g with
  | zero => exact ⟨g, hUnderway, hWithin⟩
  | succ budget ih =>
      unfold Simulation.pump
      cases hTurn : s.turn? with
      | none => exact ⟨g, hUnderway, hWithin⟩
      | some next =>
          have hOnLine :=
            onLine_of_reaches hLine hLossless hReaches
          have hFlowing := hUnderway.flowing
          have hSchedule := hUnderway.schedule
          have hNext :=
            hFlowing.turn hLine hOnLine.sound hOnLine.vicinal
              hOnLine.lossless
              (hSchedule.at_once hWithin.told) hTurn
          rcases hSchedule.turn hWithin hOnLine
            hFlowing.downhill hTurn with
            ⟨g', hOn, hWithin'⟩
          exact
            ih (hReaches.tail (.turn s next hTurn))
              { flowing := hNext
                schedule := hOn }
              hWithin'

------------------------------------------------------------
-- Steps
------------------------------------------------------------

/- Nothing waits, and the next round may begin. -/
structure Resting
    (setup : Setup)
    (s : Simulation γ) : Prop where
  outbox : s.outbox.toList = []
  events : s.events.toList = []
  underway :
    ∃ seqno, ∀ step,
      s.Underway ⟨setup, seqno, step⟩ Stage.rest

/- When nothing waits, a round is done. -/
theorem Underway.finish
    (hLine : r.setup.LosslessLine)
    (hLossless : Losses.Lossless losses)
    (hReaches : Reaches (start r.setup losses) s)
    {g : Stage}
    (hUnderway : s.Underway r g)
    (hWithin : g.Within r)
    {budget : Nat}
    (hEnd : (s.pump budget).turn? = none) :
    (s.pump budget).Resting r.setup := by
  obtain ⟨hOutbox, hEvents⟩ := turn?_eq_none_iff.mp hEnd
  rcases hUnderway.pump hLine hLossless hReaches hWithin
    budget with ⟨g', hLast, hWithin'⟩
  have hAgenda : (s.pump budget).agenda = [] := by
    unfold agenda
    rw [hOutbox, hEvents]
    rfl
  exact
    { outbox := hOutbox
      events := hEvents
      underway :=
        ⟨r.seqno + 1, fun step =>
          { flowing := hLast.flowing
            schedule :=
              hLast.schedule.finished hWithin' hAgenda
                step }⟩ }

omit [LossSource γ] in
/- Before a round, the round before it is done. -/
theorem Underway.of_rest
    (hUnderway : s.Underway r Stage.rest) :
    s.Underway ⟨r.setup, r.seqno - 1, r.step⟩
      ⟨r.count, 0, false⟩ := by
  refine
    { flowing := hUnderway.flowing
      schedule := ?_ }
  refine hUnderway.schedule.of_awaited rfl ?_ ?_
  · rw [Round.agenda_rest]
    unfold Round.agenda
    simp [Round.count]
  · intro index origin _ hOrigin hBound
    rw [Round.awaited_rest _ hOrigin]
    have hPassed :
        Stage.Passed ⟨r.count, 0, false⟩ index origin := by
      apply Or.inl
      simp only
      omega
    unfold Round.awaited
    rw [if_pos hPassed]
    exact UInt8.sub_add_cancel _ _

/-
  A step from rest leads to rest, unless it runs out of
  turns, and no reading is refused in it.
-/
theorem Resting.step
    (hLine : setup.LosslessLine)
    (hLossless : Losses.Lossless losses)
    (hReaches : Reaches (start setup losses) s)
    (hResting : s.Resting setup)
    (hTurns : ¬ s.RunsOut) :
    s.step.Resting setup ∧
      s.step.traffic.messagesNoRoute =
        s.traffic.messagesNoRoute ∧
      NoneRefused s.entriesOfBeginning := by
  have hOnLine := onLine_of_reaches hLine hLossless hReaches
  have hSeveral := hLine.several
  rcases hResting.underway with ⟨seqno, hUnderway⟩
  let r : Round := ⟨setup, seqno, s.steps + 1⟩
  let now := s.ticked.beaconsSent
  have hReachesNow : Reaches (start setup losses) now :=
    (hReaches.tail (.tick s)).trans
      (reaches_beaconsSent s.ticked)
  have hNow : now.Underway r Stage.rest :=
    { flowing :=
        (hUnderway (s.steps + 1)).flowing.beaconsSent hLine
          hOnLine.sound hOnLine.vicinal hOnLine.lossless
          hResting.outbox hResting.events
      schedule :=
        (hUnderway (s.steps + 1)).schedule.beginning }
  have hFrame := beaconsSent_frame s.ticked
  have hClock := (Prod.mk.inj hFrame).1
  have hStep : now.steps = s.steps + 1 :=
    (Prod.mk.inj (Prod.mk.inj hClock).2).1
  have hSize : now.nodes.size = r.count := by
    rw [(Prod.mk.inj hFrame).2]
    exact hOnLine.vicinal.size
  have hNoRouteNow :
      now.traffic.messagesNoRoute =
        s.traffic.messagesNoRoute :=
    messagesNoRoute_beaconsSent s.ticked
  have hEnd : (s.begun.pump turnsPerStep).turn? = none := by
    rw [RunsOut, Decidable.not_not] at hTurns
    exact hTurns
  have hReachesBegun : Reaches (start setup losses) s.begun :=
    hReaches.trans (reaches_begun s)
  have hNoRoute :
      s.step.traffic.messagesNoRoute =
        s.begun.traffic.messagesNoRoute :=
    messagesNoRoute_pump turnsPerStep s.begun
  by_cases hDue : now.isDue now.setup.messageInterval = true
  · have hBegun :
        s.begun =
          (List.range' 0 now.nodes.size).foldl
            Simulation.report now := by
      rw [← List.range_eq_range']
      exact if_pos hDue
    have hEntries :
        s.entriesOfBeginning =
          entriesOfReports (List.range' 0 now.nodes.size)
            now := by
      rw [← List.range_eq_range']
      exact if_pos hDue
    rw [hSize] at hBegun hEntries
    obtain ⟨hSent, hSame, hNone⟩ :=
      Underway.reports (r := r) hLine hLossless hReachesNow
        hNow hStep (Nat.zero_add r.count)
    rw [← hBegun] at hSent hSame
    have hFirst : s.begun.Underway r ⟨1, 0, false⟩ :=
      { flowing := hSent.flowing
        schedule :=
          hSent.schedule.next_wave (Nat.zero_add r.count) }
    have hWithin : Stage.Within r ⟨1, 0, false⟩ :=
      { sent := Nat.le_refl 1
        bound := Nat.le_of_lt hSeveral
        told := fun hHalf => Bool.noConfusion hHalf }
    refine
      ⟨hFirst.finish hLine hLossless hReachesBegun hWithin
        hEnd, ?_, ?_⟩
    · rw [hNoRoute, hSame, hNoRouteNow]
    · rw [hEntries]
      exact hNone
  · have hBegun : s.begun = now := if_neg hDue
    have hEntries : s.entriesOfBeginning = [] := if_neg hDue
    rw [hBegun] at hReachesBegun hEnd hNoRoute
    have hWithin :
        Stage.Within ⟨setup, seqno - 1, s.steps + 1⟩
          ⟨r.count, 0, false⟩ :=
      { sent := Nat.le_of_lt hSeveral
        bound := Nat.le_refl _
        told := fun hHalf => Bool.noConfusion hHalf }
    have hDone :=
      hNow.of_rest.finish hLine hLossless hReachesBegun
        hWithin hEnd
    rw [← hBegun] at hDone
    refine ⟨hDone, hNoRoute.trans hNoRouteNow, ?_⟩
    rw [hEntries]
    simp [NoneRefused, readingsIn]

/- A run from rest refuses no reading. -/
theorem Resting.run
    (hLine : setup.LosslessLine)
    (hLossless : Losses.Lossless losses)
    (hReaches : Reaches (start setup losses) s)
    (hResting : s.Resting setup)
    {steps : Nat}
    (hTurns :
      ∀ m, m < steps → ¬ (Simulation.run m s).RunsOut) :
    (Simulation.run steps s).Resting setup ∧
      (Simulation.run steps s).traffic.messagesNoRoute =
        s.traffic.messagesNoRoute ∧
      NoneRefused (entriesOfSteps steps s) := by
  induction steps generalizing s with
  | zero =>
      exact
        ⟨hResting, rfl, by
          simp [NoneRefused, entriesOfSteps, readingsIn]⟩
  | succ steps ih =>
      obtain ⟨hNext, hNoRoute, hNone⟩ :=
        hResting.step hLine hLossless hReaches
          (hTurns 0 (Nat.zero_lt_succ steps))
      obtain ⟨hLast, hSame, hRest⟩ :=
        ih (hReaches.trans (reaches_step s)) hNext
          (fun m hLess =>
            hTurns (m + 1) (Nat.succ_lt_succ hLess))
      refine ⟨hLast, hSame.trans hNoRoute, ?_⟩
      refine
        noneRefused_append (noneRefused_append hNone ?_) hRest
      intro reading hMem
      rw [readingsIn_turns] at hMem
      contradiction

end Runs

end Simulation

end CollectionTree
