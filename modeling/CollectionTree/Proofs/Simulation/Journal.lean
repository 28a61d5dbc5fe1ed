import CollectionTree.Proofs.Notation
import CollectionTree.Proofs.Simulation.Gossip
import CollectionTree.Proofs.Simulation.InFlight
import Mathlib.Data.List.Nodup

/-
  A journal of what nodes send in a run.

  Key definitions include:
    * `Reading`
    * `Entry`
    * `Simulation.entriesOfReport`
    * `Simulation.entriesOfTurn`
    * `Simulation.journal`
    * `Simulation.Noted`
    * `Simulation.Records`

  Key theorems include:
    * `Simulation.records_journal`
    * `Simulation.Records.invariant`
    * `Simulation.distinct_journal`
    * `Simulation.payloads_journal`

  An entry is made of every reading and of every packet that
  is handed to a transport, whether it is accepted or not.
  The simulation itself never looks at the journal.
-/

namespace CollectionTree

------------------------------------------------------------
-- Entries
------------------------------------------------------------

/- A reading: who sent it when, and what became of it. -/
structure Reading where
  index : Nat
  step : Nat
  seqno : UInt8
  payload : List UInt8
  reply : Reply

/- When a reading was sent and by whom. -/
def Reading.place
    (r : Reading) : Nat × Nat :=
  (r.step, r.index)

/- A reading is of a node that is not the sink. -/
structure Reading.Proper
    (size : Nat)
    (r : Reading) : Prop where
  other : r.index ≠ 0
  exists_node : r.index < size
  payload :
    r.payload =
      Simulation.reading r.step
        (Simulation.addressOf r.index)

/- Something that a node did. -/
inductive Entry
  /- A node sent a reading. -/
  | sent (reading : Reading)
  /- A node handed a packet to its transport. -/
  | handed (index : Nat) (handover : Handover)

/- The reading that an entry is about. -/
def Entry.reading? : Entry → Option Reading
  | .sent reading => some reading
  | .handed _ _ => none

/- The packet that an entry is about. -/
def Entry.handover? : Entry → Option Handover
  | .sent _ => none
  | .handed _ handover => some handover

/- The readings among some entries. -/
def readingsIn
    (entries : List Entry) : List Reading :=
  entries.filterMap Entry.reading?

/- The packets handed over among some entries. -/
def handoversIn
    (entries : List Entry) : List Handover :=
  entries.filterMap Entry.handover?

/- What a request takes from the transport. -/
def Request.handover? : Request → Option Handover
  | .unicast _ handover => some handover
  | _ => none

/- Entries of packets that a node hands over. -/
def entriesOf
    (index : Nat)
    (handovers : List Handover) : List Entry :=
  handovers.map (.handed index)

theorem readingsIn_append
    (entries more : List Entry) :
    readingsIn (entries ++ more) =
      readingsIn entries ++ readingsIn more :=
  List.filterMap_append

theorem handoversIn_append
    (entries more : List Entry) :
    handoversIn (entries ++ more) =
      handoversIn entries ++ handoversIn more :=
  List.filterMap_append

theorem readingsIn_entriesOf
    (index : Nat)
    (handovers : List Handover) :
    readingsIn (entriesOf index handovers) = [] := by
  unfold readingsIn entriesOf
  rw [List.filterMap_map, List.filterMap_eq_nil_iff]
  intro handover _
  rfl

namespace Node

/-
  Without refusals, what is handed to the transport is what
  the radio is asked to deliver.
-/
theorem handovers_carryOutAll
    (index : Nat)
    (node : Node)
    {effects : List Effect}
    (hAccepted :
      ∀ handover, .refuse handover ∉ effects) :
    effects.filterMap Effect.handover? =
      (carryOutAll index node effects).2.filterMap
        Request.handover? := by
  induction effects generalizing node with
  | nil => rfl
  | cons effect effects ih =>
      have hRest :=
        ih (node.carryOut index effect).1
          (fun handover hMem =>
            hAccepted handover (List.mem_cons_of_mem _ hMem))
      have hOne :
          (node.carryOut index effect).2.toList.filterMap
              Request.handover? =
            effect.handover?.toList := by
        cases effect with
        | refuse handover =>
            exact absurd List.mem_cons_self
              (hAccepted handover)
        | announce metric =>
            unfold carryOut
            simp only
            split <;> rfl
        | _ => rfl
      simp only [carryOutAll, List.filterMap_append, hOne,
        ← hRest]
      cases hEffect : effect.handover? <;>
        simp [hEffect]

end Node

namespace Simulation

variable {γ : Type}

------------------------------------------------------------
-- The Journal
------------------------------------------------------------

/- The entries of what a node reports in a step. -/
def entriesOfReport
    (s : Simulation γ)
    (index : Nat) : List Entry :=
  match s.nodes[index]? with
  | none => []
  | some node =>
      if node.connection.isSink ||
          node.connection.forwarding then
        []
      else
        let payload :=
          reading s.steps node.connection.address
        let outcome :=
          node.outcomeOf (.send payload s.setup.maxRexmit)
        .sent
            { index := index
              step := s.steps
              seqno := node.connection.seqno
              payload := payload
              reply := outcome.reply } ::
          entriesOf index
            (outcome.effects.filterMap Effect.handover?)

/- The entries of what some nodes report in turn. -/
def entriesOfReports :
    List Nat → Simulation γ → List Entry
  | [], _ => []
  | index :: rest, s =>
      s.entriesOfReport index ++
        entriesOfReports rest (s.report index)

/- The entries of a turn: those of the event it hands on. -/
def entriesOfTurn
    (s : Simulation γ) : List Entry :=
  match s.outbox.toList, s.events.toList with
  | [], (index, event) :: _ =>
      match s.nodes[index]? with
      | none => []
      | some node =>
          entriesOf index
            (((prepare node event).outcomeOf
              (.handle event)).effects.filterMap
                Effect.handover?)
  | _, _ => []

section Runs

variable [LossSource γ]

/- The entries of a number of turns. -/
def entriesOfTurns :
    Nat → Simulation γ → List Entry
  | 0, _ => []
  | budget + 1, s =>
      match s.turn? with
      | none => []
      | some next =>
          s.entriesOfTurn ++ entriesOfTurns budget next

/- The entries of the time before the first turn of a step. -/
def entriesOfBeginning
    (s : Simulation γ) : List Entry :=
  let announced := s.ticked.beaconsSent
  if announced.isDue announced.setup.messageInterval then
    entriesOfReports (List.range announced.nodes.size)
      announced
  else
    []

/- The entries of a number of steps. -/
def entriesOfSteps :
    Nat → Simulation γ → List Entry
  | 0, _ => []
  | steps + 1, s =>
      s.entriesOfBeginning ++
        entriesOfTurns turnsPerStep s.begun ++
          entriesOfSteps steps s.step

/-
  The entries of a number of steps and of a number of turns
  of the step after them.
-/
def journal
    (steps turns : Nat)
    (s : Simulation γ) : List Entry :=
  entriesOfSteps steps s ++
    ((run steps s).entriesOfBeginning ++
      entriesOfTurns turns (run steps s).begun)

------------------------------------------------------------
-- Recorded Runs
------------------------------------------------------------

/- One of the things that happen in a run, and its entries. -/
inductive Noted
    (s : Simulation γ) :
    List Entry → Simulation γ → Prop
  | tick : Noted s [] s.ticked
  | beacon
      (index : Nat) :
      Noted s [] (s.beacon index)
  | report
      (index : Nat) :
      Noted s (s.entriesOfReport index) (s.report index)
  | turn
      (t : Simulation γ)
      (hTurn : s.turn? = some t) :
      Noted s s.entriesOfTurn t

/- A run leads from one state to another with some entries. -/
inductive Records
    (s : Simulation γ) :
    List Entry → Simulation γ → Prop
  | refl : Records s [] s
  | tail
      (entries more : List Entry)
      (t u : Simulation γ)
      (hRecords : Records s entries t)
      (hNoted : Noted t more u) :
      Records s (entries ++ more) u

theorem Noted.next
    {s t : Simulation γ}
    {entries : List Entry}
    (hNoted : Noted s entries t) :
    Next s t := by
  cases hNoted with
  | tick => exact .tick s
  | beacon index => exact .beacon s index
  | report index => exact .report s index
  | turn _ hTurn => exact .turn s t hTurn

theorem Records.reaches
    {s t : Simulation γ}
    {entries : List Entry}
    (hRecords : Records s entries t) :
    Reaches s t := by
  induction hRecords with
  | refl => exact .refl
  | tail entries more t u _ hNoted ih =>
      exact ih.tail hNoted.next

theorem Next.noted
    {s t : Simulation γ}
    (hNext : Next s t) :
    ∃ entries, Noted s entries t := by
  cases hNext with
  | tick => exact ⟨_, .tick⟩
  | beacon index => exact ⟨_, .beacon index⟩
  | report index => exact ⟨_, .report index⟩
  | turn _ hTurn => exact ⟨_, .turn t hTurn⟩

/- Entries are made of every run. -/
theorem Reaches.records
    {s t : Simulation γ}
    (hReaches : Reaches s t) :
    ∃ entries, Records s entries t := by
  induction hReaches with
  | refl => exact ⟨[], .refl⟩
  | tail _ hNext ih =>
      rcases ih with ⟨entries, hRecords⟩
      rcases hNext.noted with ⟨more, hNoted⟩
      exact ⟨_, .tail entries more _ _ hRecords hNoted⟩

theorem Records.trans
    {s t u : Simulation γ}
    {entries more : List Entry}
    (hFirst : Records s entries t)
    (hSecond : Records t more u) :
    Records s (entries ++ more) u := by
  induction hSecond with
  | refl =>
      rw [List.append_nil]
      exact hFirst
  | tail first last v w _ hNoted ih =>
      rw [← List.append_assoc]
      exact .tail _ _ v w ih hNoted

theorem Noted.records
    {s t : Simulation γ}
    {entries : List Entry}
    (hNoted : Noted s entries t) :
    Records s entries t :=
  .tail [] entries s t .refl hNoted

theorem records_beacons
    (indices : List Nat)
    (s : Simulation γ) :
    Records s [] (indices.foldl beacon s) := by
  induction indices generalizing s with
  | nil => exact .refl
  | cons index rest ih =>
      exact (Noted.beacon index).records.trans
        (ih (s.beacon index))

theorem records_reports
    (indices : List Nat)
    (s : Simulation γ) :
    Records s (entriesOfReports indices s)
      (indices.foldl report s) := by
  induction indices generalizing s with
  | nil => exact .refl
  | cons index rest ih =>
      exact (Noted.report index).records.trans
        (ih (s.report index))

theorem records_begun
    (s : Simulation γ) :
    Records s s.entriesOfBeginning s.begun := by
  have hBeacons : Records s [] s.ticked.beaconsSent := by
    apply Noted.tick.records.trans
    unfold beaconsSent
    split
    · exact records_beacons _ s.ticked
    · exact .refl
  have hReadings :
      Records s.ticked.beaconsSent s.entriesOfBeginning
        s.begun := by
    unfold entriesOfBeginning begun readingsSent
    simp only
    split
    · exact records_reports _ _
    · exact .refl
  exact hBeacons.trans hReadings

theorem records_turns
    (turns : Nat)
    (s : Simulation γ) :
    Records s (entriesOfTurns turns s) (s.pump turns) := by
  induction turns generalizing s with
  | zero => exact .refl
  | succ turns ih =>
      unfold entriesOfTurns pump
      cases hTurn : s.turn? with
      | none => exact .refl
      | some next =>
          exact (Noted.turn next hTurn).records.trans
            (ih next)

theorem records_steps
    (steps : Nat)
    (s : Simulation γ) :
    Records s (entriesOfSteps steps s) (run steps s) := by
  induction steps generalizing s with
  | zero => exact .refl
  | succ steps ih =>
      exact
        ((records_begun s).trans
          (records_turns turnsPerStep s.begun)).trans
            (ih s.step)

theorem records_journal
    (steps turns : Nat)
    (s : Simulation γ) :
    Records s (journal steps turns s)
      ((run steps s).begun.pump turns) :=
  (records_steps steps s).trans
    ((records_begun _).trans (records_turns turns _))

/-
  What everything that is noted preserves holds along all
  runs from a sound simulation.
-/
theorem Records.invariant
    {P : List Entry → Simulation γ → Prop}
    (hNoted :
      ∀ entries more s t,
        s.Sound → P entries s → Noted s more t →
          P (entries ++ more) t)
    {s t : Simulation γ}
    {entries : List Entry}
    (hRecords : Records s entries t)
    (hSound : s.Sound)
    (hStart : P [] s) :
    P entries t := by
  induction hRecords with
  | refl => exact hStart
  | tail entries more t u hBefore hNext ih =>
      exact hNoted entries more t u
        (hBefore.reaches.sound hSound) ih hNext

end Runs

------------------------------------------------------------
-- Entries of Nodes
------------------------------------------------------------

/- Only one reading is sent by a node that reports. -/
theorem readingsIn_report
    (s : Simulation γ)
    (index : Nat) :
    readingsIn (s.entriesOfReport index) = [] ∨
      ∃ node reply,
        s.nodes[index]? = some node ∧
          node.connection.role ≠ .sink ∧
          readingsIn (s.entriesOfReport index) =
            [ { index := index
                step := s.steps
                seqno := node.connection.seqno
                payload :=
                  reading s.steps node.connection.address
                reply := reply } ] := by
  unfold entriesOfReport
  cases hNode : s.nodes[index]? with
  | none => exact Or.inl rfl
  | some node =>
      by_cases hSkip :
        (node.connection.isSink ||
          node.connection.forwarding) = true
      · simp only [if_pos hSkip]
        exact Or.inl rfl
      · simp only [if_neg hSkip]
        have hRole : node.connection.role ≠ .sink := by
          intro hRole
          simp [Connection.isSink, hRole] at hSkip
        let payload :=
          reading s.steps node.connection.address
        let outcome :=
          node.outcomeOf (.send payload s.setup.maxRexmit)
        have hNone :=
          readingsIn_entriesOf index
            (outcome.effects.filterMap Effect.handover?)
        refine Or.inr
          ⟨node, outcome.reply, rfl, hRole, ?_⟩
        exact congrArg (_ :: ·) hNone

theorem readingsIn_turn
    (s : Simulation γ) :
    readingsIn s.entriesOfTurn = [] := by
  unfold entriesOfTurn
  split
  next index event rest _ _ =>
    cases s.nodes[index]? with
    | none => rfl
    | some node => exact readingsIn_entriesOf _ _
  next => rfl

/-
  The entries of a report are its reading and the packets
  that the radio is asked to deliver.
-/
theorem entriesOfReport_of_reported
    {s t : Simulation γ}
    (hSound : s.Sound)
    {index : Nat}
    {node next : Node}
    {requests : List Request}
    {reply : Reply}
    (hReported :
      Reported s t index node next requests reply) :
    s.entriesOfReport index =
      .sent
          { index := index
            step := s.steps
            seqno := node.connection.seqno
            payload :=
              reading s.steps node.connection.address
            reply := reply } ::
        entriesOf index
          (requests.filterMap Request.handover?) := by
  have hReady := hSound.ready index node hReported.found
  have hRole := hReported.role
  have hReporting := hReported.reporting
  have hSending :=
    Connection.sending hReady.isOpen node.sendAnswer
      (reading s.steps node.connection.address)
      s.setup.maxRexmit
  have hSkip :
      ¬ (node.connection.isSink ||
        node.connection.forwarding) = true := by
    simp [Connection.isSink, hReported.role, hReported.idle]
  unfold entriesOfReport
  simp only [hReported.found, if_neg hSkip]
  change
    (Entry.sent
        { index := index
          step := s.steps
          seqno := node.connection.seqno
          payload :=
            reading s.steps node.connection.address
          reply :=
            (node.connection.send node.sendAnswer
              (reading s.steps node.connection.address)
              s.setup.maxRexmit).reply } ::
      entriesOf index
        ((node.connection.send node.sendAnswer
          (reading s.steps node.connection.address)
          s.setup.maxRexmit).effects.filterMap
            Effect.handover?)) = _
  generalize
    node.connection.send node.sendAnswer
      (reading s.steps node.connection.address)
      s.setup.maxRexmit = outcome at hSending
  cases hSending with
  | delivered hSink => exact absurd hSink hRole
  | dropped _ hBest =>
      cases hReporting with
      | dropped => rfl
      | handedOver n hSome =>
          rw [hBest] at hSome
          contradiction
  | refused _ n hBest failure hAnswer =>
      rw [hReady.sendAnswer hReported.idle] at hAnswer
      contradiction
  | handedOver _ n hBest _ =>
      cases hReporting with
      | dropped hNone =>
          rw [hBest] at hNone
          contradiction
      | handedOver m hSome =>
          rw [hBest] at hSome
          cases hSome
          rfl

theorem entriesOfReport_of_silent
    {s : Simulation γ}
    {index : Nat}
    (hSilent :
      ∀ node, s.nodes[index]? = some node →
        node.connection.role = .sink ∨
          node.connection.forwarding = true) :
    s.entriesOfReport index = [] := by
  unfold entriesOfReport
  cases hNode : s.nodes[index]? with
  | none => rfl
  | some node =>
      have hSkip :
          (node.connection.isSink ||
            node.connection.forwarding) = true := by
        simpa [Connection.isSink] using hSilent node hNode
      exact if_pos hSkip

/-
  The entries of a turn are the packets that the node of the
  event asks the radio to deliver.
-/
theorem entriesOfTurn_of_event
    {s : Simulation γ}
    (hSound : s.Sound)
    {index : Nat}
    {event : Event}
    {events : Queue (Nat × Event)}
    (hOutbox : s.outbox.toList = [])
    (hEvents :
      s.events.toList = (index, event) :: events.toList) :
    s.entriesOfTurn =
      entriesOf index
        ((dispatch { s with events := events } index
            event).outbox.toList.filterMap
              Request.handover?) := by
  have hIndex : index < s.nodes.size := by
    apply hSound.events (index, event)
    rw [hEvents]
    exact List.mem_cons_self
  have hNode := Array.getElem?_eq_getElem hIndex
  have hReady := hSound.ready index _ hNode
  unfold entriesOfTurn dispatch
  simp only [hOutbox, hEvents, hNode]
  rw [update, Queue.toList_pushAll, hOutbox,
    List.nil_append]
  exact congrArg (entriesOf index)
    (Node.handovers_carryOutAll index _
      (hReady.not_refused_handle event))

theorem entriesOfTurn_of_request
    {s : Simulation γ}
    {request : Request}
    {requests : List Request}
    (hOutbox : s.outbox.toList = request :: requests) :
    s.entriesOfTurn = [] := by
  unfold entriesOfTurn
  rw [hOutbox]

------------------------------------------------------------
-- Readings Are Distinct
------------------------------------------------------------

theorem readingsIn_reports
    (indices : List Nat)
    (s : Simulation γ) :
    ((readingsIn (entriesOfReports indices s)).map
        Reading.index).Sublist indices ∧
      ∀ r ∈ readingsIn (entriesOfReports indices s),
        r.step = s.steps := by
  induction indices generalizing s with
  | nil => exact ⟨.slnil, by simp [entriesOfReports, readingsIn]⟩
  | cons index rest ih =>
      have hRest := ih (s.report index)
      have hSteps := (Prod.mk.inj (report_frame s index)).2
      rw [hSteps] at hRest
      rw [entriesOfReports, readingsIn_append]
      rcases readingsIn_report s index with
        hNone | ⟨node, reply, -, -, hOne⟩
      · rw [hNone, List.nil_append]
        exact ⟨hRest.1.cons index, hRest.2⟩
      · rw [hOne]
        refine ⟨hRest.1.cons_cons index, ?_⟩
        intro r hMem
        rcases List.mem_cons.mp hMem with rfl | hMem
        · rfl
        · exact hRest.2 r hMem

section Distinct

variable [LossSource γ]

theorem readingsIn_turns
    (turns : Nat)
    (s : Simulation γ) :
    readingsIn (entriesOfTurns turns s) = [] := by
  induction turns generalizing s with
  | zero => rfl
  | succ turns ih =>
      unfold entriesOfTurns
      cases s.turn? with
      | none => rfl
      | some next =>
          rw [readingsIn_append, readingsIn_turn, ih]
          rfl

/- In a step, a node sends one reading at most. -/
theorem distinct_beginning
    (s : Simulation γ) :
    ((readingsIn s.entriesOfBeginning).map
        Reading.place).Nodup ∧
      ∀ r ∈ readingsIn s.entriesOfBeginning,
        r.step = s.steps + 1 := by
  have hSteps : s.ticked.beaconsSent.steps = s.steps + 1 := by
    have hClock :=
      (Prod.mk.inj (beaconsSent_frame s.ticked)).1
    exact (Prod.mk.inj (Prod.mk.inj hClock).2).1
  unfold entriesOfBeginning
  simp only
  split
  · have hReports :=
      readingsIn_reports
        (List.range s.ticked.beaconsSent.nodes.size)
        s.ticked.beaconsSent
    rw [hSteps] at hReports
    refine ⟨?_, hReports.2⟩
    have hIndices := hReports.1.nodup List.nodup_range
    apply List.Nodup.of_map Prod.snd
    rw [List.map_map]
    exact hIndices
  · simp [readingsIn]

/- The steps of a run come one after the other. -/
theorem distinct_steps
    (steps : Nat)
    (s : Simulation γ) :
    ((readingsIn (entriesOfSteps steps s)).map
        Reading.place).Nodup ∧
      ∀ r ∈ readingsIn (entriesOfSteps steps s),
        s.steps < r.step ∧ r.step ≤ s.steps + steps := by
  induction steps generalizing s with
  | zero => simp [entriesOfSteps, readingsIn]
  | succ steps ih =>
      have hFirst := distinct_beginning s
      have hRest := ih s.step
      have hNext : s.step.steps = s.steps + 1 :=
        (clock_run 1 s).2
      rw [hNext] at hRest
      rw [entriesOfSteps, readingsIn_append,
        readingsIn_append, readingsIn_turns, List.append_nil]
      constructor
      · rw [List.map_append, List.nodup_append]
        refine ⟨hFirst.1, hRest.1, ?_⟩
        intro place hMem place' hMem' hSame
        rcases List.mem_map.mp hMem with ⟨r, hR, rfl⟩
        rcases List.mem_map.mp hMem' with ⟨r', hR', rfl⟩
        have hStep := (Prod.mk.inj hSame).1
        have hEarly := hFirst.2 r hR
        have hLate := hRest.2 r' hR'
        omega
      · intro r hMem
        rcases List.mem_append.mp hMem with hMem | hMem
        · have hStep := hFirst.2 r hMem
          omega
        · have hStep := hRest.2 r hMem
          omega

/- No two readings were sent by one node in one step. -/
theorem distinct_journal
    (steps turns : Nat)
    (s : Simulation γ) :
    ((readingsIn (journal steps turns s)).map
        Reading.place).Nodup := by
  have hSteps := distinct_steps steps s
  have hLast := distinct_beginning (run steps s)
  rw [(clock_run steps s).2] at hLast
  rw [journal, readingsIn_append, readingsIn_append,
    readingsIn_turns, List.append_nil, List.map_append,
    List.nodup_append]
  refine ⟨hSteps.1, hLast.1, ?_⟩
  intro place hMem place' hMem' hSame
  rcases List.mem_map.mp hMem with ⟨r, hR, rfl⟩
  rcases List.mem_map.mp hMem' with ⟨r', hR', rfl⟩
  have hStep := (Prod.mk.inj hSame).1
  have hEarly := hSteps.2 r hR
  have hLate := hLast.2 r' hR'
  omega

------------------------------------------------------------
-- Readings Are of Nodes
------------------------------------------------------------

theorem proper_of_records
    {s t : Simulation γ}
    (hSound : s.Sound)
    {entries : List Entry}
    (hRecords : Records s entries t) :
    ∀ r ∈ readingsIn entries,
      r.Proper s.nodes.size := by
  refine hRecords.invariant
    (P := fun entries t =>
      t.nodes.size = s.nodes.size ∧
        ∀ r ∈ readingsIn entries, r.Proper s.nodes.size)
    ?_ hSound ⟨rfl, by simp [readingsIn]⟩ |>.2
  intro entries more t u hSound hHeld hNoted
  have hSize :=
    (hNoted.next.move hSound).size_nodes.trans hHeld.1
  refine ⟨hSize, ?_⟩
  intro r hMem
  rw [readingsIn_append, List.mem_append] at hMem
  rcases hMem with hOld | hNew
  · exact hHeld.2 r hOld
  · cases hNoted with
    | tick => contradiction
    | beacon index => contradiction
    | turn _ hTurn =>
        rw [readingsIn_turn] at hNew
        contradiction
    | report index =>
        rcases readingsIn_report t index with
          hNone | ⟨node, reply, hNode, hRole, hOne⟩
        · rw [hNone] at hNew
          contradiction
        · have hReady := hSound.ready index node hNode
          rw [hOne, List.mem_singleton] at hNew
          subst hNew
          exact
            { other := fun hZero =>
                hRole (hReady.role_iff.mpr hZero)
              exists_node := by
                rw [← hHeld.1]
                exact (Array.getElem?_eq_some_iff.mp hNode).1
              payload := by
                change reading t.steps _ = reading t.steps _
                rw [hReady.address] }

/- No two readings of a run have the same payload. -/
theorem payloads_journal
    {s : Simulation γ}
    (hSound : s.Sound)
    (hSize : s.nodes.size ≤ 255)
    (steps turns : Nat) :
    ((readingsIn (journal steps turns s)).map
        Reading.payload).Nodup := by
  have hProper :=
    proper_of_records hSound (records_journal steps turns s)
  have hDistinct := distinct_journal steps turns s
  apply List.Nodup.map_on ?_ (List.Nodup.of_map _ hDistinct)
  intro r hR r' hR' hSame
  have hFirst := hProper r hR
  have hSecond := hProper r' hR'
  rw [hFirst.payload, hSecond.payload] at hSame
  rcases reading_injective hSame with ⟨hStep, hNode⟩
  have hIndex :=
    addressOf_inj
      (Nat.lt_of_lt_of_le hFirst.exists_node hSize)
      (Nat.lt_of_lt_of_le hSecond.exists_node hSize) hNode
  apply List.inj_on_of_nodup_map hDistinct hR hR'
  exact Prod.ext hStep hIndex

end Distinct

end Simulation

end CollectionTree
