import CollectionTree.Proofs.Connection.Coherence
import Mathlib.Data.List.Basic
import Mathlib.Data.List.Induction

/-
  How long a node stays the sink.

  Key definitions include:
    * `Connection.Reigns`
    * `Operation.reignAfter`
    * `Connection.OpenedSinceSink`

  Key theorems include:
    * `Connection.Reigns.perform`
    * `Connection.Reigns.after`
    * `Connection.sink_until_opened`
    * `Connection.opening_ends_sink_role`

  Neither neighbors nor packets change the role of the sink,
  and closing the connection keeps it.  Opening does not: a
  session starts disconnected, whatever the node was before.
-/

namespace CollectionTree

/-
  Whether a node is the sink after an operation, by whether
  it was before.
-/
def Operation.reignAfter
    (reign : Bool) :
    Operation × Answer → Bool
  | (.setSink on, _) => on
  | (.openOn _, .ok _) => false
  | _ => reign

namespace Connection

------------------------------------------------------------
-- One Operation
------------------------------------------------------------

/-
  Whether a node is the sink.  The sink has the metric of
  the sink; of other nodes it does not matter which one.
-/
def Reigns
    (c : Connection) :
    Bool → Prop
  | true => c.role = .sink ∧ c.metric = Metric.sink
  | false => c.role ≠ .sink

theorem Reigns.of_eq
    {c d : Connection}
    {reign : Bool}
    (hReigns : c.Reigns reign)
    (hRole : d.role = c.role)
    (hMetric : d.metric = c.metric) :
    d.Reigns reign := by
  unfold Reigns at hReigns ⊢
  rw [hRole, hMetric]
  exact hReigns

/- No metric that is learned makes or unmakes a sink. -/
theorem Reigns.thenUpdate
    {c : Connection}
    {reign : Bool}
    (hReigns : c.Reigns reign)
    (effects : List Effect) :
    (c.thenUpdate effects).connection.Reigns reign := by
  unfold Connection.thenUpdate
  rcases updateMetric_cases c with
    ⟨-, hEq⟩ | ⟨hOther, -, hEq⟩
  · rw [hEq]
    exact hReigns
  · rw [hEq]
    cases reign with
    | true => exact absurd hReigns.1 hOther
    | false => exact roleOf_ne_sink c.routeMetric

/- The role is given, not found out. -/
theorem Reigns.handle
    {c : Connection}
    {reign : Bool}
    (hReigns : c.Reigns reign)
    (answer : Answer)
    (event : Event) :
    (c.handle answer event).connection.Reigns reign := by
  cases event with
  | received sender packet =>
      have hRoute := route_receive c answer sender packet
      simp only [route, Prod.mk.injEq] at hRoute
      exact hReigns.of_eq hRoute.2.2 hRoute.2.1
  | sent receiver outcome transmissions =>
      unfold Connection.handle concludeTransmission
      dsimp only
      split
      · exact hReigns
      · split
        · apply Reigns.thenUpdate
          exact hReigns.of_eq rfl rfl
        · apply Reigns.thenUpdate
          exact hReigns.of_eq rfl rfl
  | announced sender metric =>
      unfold Connection.handle hear
      dsimp only
      split
      · exact hReigns
      · apply Reigns.thenUpdate
        exact hReigns.of_eq rfl rfl
  | elapsed time =>
      unfold Connection.handle tick
      dsimp only
      split
      · exact hReigns
      · split
        · exact hReigns.of_eq rfl rfl
        · apply Reigns.thenUpdate
          exact hReigns.of_eq rfl rfl

theorem Reigns.perform
    {c : Connection}
    {reign : Bool}
    (hReigns : c.Reigns reign)
    (answer : Answer)
    (operation : Operation) :
    (c.perform answer operation).connection.Reigns
      (Operation.reignAfter reign (operation, answer)) := by
  cases operation with
  | openOn channel =>
      cases answer with
      | error failure => exact hReigns
      | ok _ => exact Role.noConfusion
  | close =>
      unfold Connection.perform close
      dsimp only
      split
      · exact hReigns.of_eq rfl rfl
      · exact hReigns
  | setSink on =>
      cases on with
      | true =>
          apply Reigns.thenUpdate
          exact ⟨rfl, rfl⟩
      | false =>
          apply Reigns.thenUpdate
          exact Role.noConfusion
  | send payload maxRexmit =>
      have hRoute := route_send c answer payload maxRexmit
      simp only [route, Prod.mk.injEq] at hRoute
      exact hReigns.of_eq hRoute.2.2 hRoute.2.1
  | handle event => exact hReigns.handle answer event

------------------------------------------------------------
-- Runs
------------------------------------------------------------

theorem Reigns.after
    {c : Connection}
    {reign : Bool}
    (hReigns : c.Reigns reign)
    (run : List (Operation × Answer)) :
    (c.after run).Reigns
      (run.foldl Operation.reignAfter reign) := by
  induction run generalizing c reign with
  | nil => exact hReigns
  | cons entry rest ih =>
      exact ih (hReigns.perform entry.2 entry.1)

/-
  The connection was opened, and after that the node was not
  made the sink again.
-/
def OpenedSinceSink
    (run : List (Operation × Answer)) : Prop :=
  ∃ before channel rest,
    run = before ++ (.openOn channel, .ok ()) :: rest ∧
      ∀ entry ∈ rest, entry.1 ≠ .setSink true

/- An operation other than these two does not matter. -/
theorem openedSinceSink_append_iff
    {run : List (Operation × Answer)}
    {entry : Operation × Answer}
    (hOpen :
      ∀ channel, entry ≠ (.openOn channel, .ok ()))
    (hSink : entry.1 ≠ .setSink true) :
    OpenedSinceSink (run ++ [entry]) ↔
      OpenedSinceSink run := by
  constructor
  · rintro ⟨before, channel, rest, hRun, hRest⟩
    rcases List.eq_nil_or_concat' rest with
      rfl | ⟨first, last, rfl⟩
    · have hLast := (List.append_inj' hRun rfl).2
      exact absurd (List.singleton_inj.mp hLast)
        (hOpen channel)
    · rw [← List.cons_append, ← List.append_assoc] at hRun
      have hFirst := (List.append_inj' hRun rfl).1
      refine ⟨before, channel, first, hFirst, ?_⟩
      intro other hMem
      exact hRest other (List.mem_append_left _ hMem)
  · rintro ⟨before, channel, rest, rfl, hRest⟩
    refine ⟨before, channel, rest ++ [entry], ?_, ?_⟩
    · rw [List.append_assoc, List.cons_append]
    · intro other hMem
      rcases List.mem_append.mp hMem with hOld | hNew
      · exact hRest other hOld
      · rw [List.mem_singleton.mp hNew]
        exact hSink

/- A node that was just made the sink was not opened since. -/
theorem not_openedSinceSink
    (run : List (Operation × Answer))
    (answer : Answer) :
    ¬ OpenedSinceSink (run ++ [(.setSink true, answer)]) := by
  rintro ⟨before, channel, rest, hRun, hRest⟩
  rcases List.eq_nil_or_concat' rest with
    rfl | ⟨first, last, rfl⟩
  · have hLast := (List.append_inj' hRun rfl).2
    simp at hLast
  · rw [← List.cons_append, ← List.append_assoc] at hRun
    have hLast :=
      List.singleton_inj.mp (List.append_inj' hRun rfl).2
    refine hRest last ?_ (congrArg Prod.fst hLast).symm
    exact List.mem_append_right _ List.mem_cons_self

/-
  Without an operation that stops it from being the sink, a
  node is the sink as long as it was not opened since.
-/
theorem foldl_reignAfter_iff
    {run : List (Operation × Answer)}
    (hKept : ∀ entry ∈ run, entry.1 ≠ .setSink false) :
    run.foldl Operation.reignAfter true = true ↔
      ¬ OpenedSinceSink run := by
  induction run using List.reverseRecOn with
  | nil => simp [OpenedSinceSink]
  | append_singleton run entry ih =>
      have hBefore := ih (fun other hMem =>
        hKept other (List.mem_append_left _ hMem))
      have hLast : entry.1 ≠ .setSink false :=
        hKept entry
          (List.mem_append_right _ List.mem_cons_self)
      rw [List.foldl_append, List.foldl_cons, List.foldl_nil]
      -- Any other operation leaves both sides as they are.
      have hOther
          (hOpen :
            ∀ channel, entry ≠ (.openOn channel, .ok ()))
          (hSink : entry.1 ≠ .setSink true)
          (hSame :
            ∀ reign,
              Operation.reignAfter reign entry = reign) :
          Operation.reignAfter
              (run.foldl Operation.reignAfter true) entry =
                true ↔
            ¬ OpenedSinceSink (run ++ [entry]) := by
        rw [hSame, openedSinceSink_append_iff hOpen hSink]
        exact hBefore
      obtain ⟨operation, answer⟩ := entry
      cases operation with
      | openOn channel =>
          cases answer with
          | error failure =>
              exact hOther (by simp) (by simp) (fun _ => rfl)
          | ok _ =>
              constructor
              · intro hSink
                contradiction
              · intro hClosed
                exact absurd ⟨run, channel, [], rfl, by simp⟩
                  hClosed
      | close => exact hOther (by simp) (by simp) (fun _ => rfl)
      | setSink on =>
          cases on with
          | true =>
              constructor
              · intro _
                exact not_openedSinceSink run answer
              · intro _
                rfl
          | false => exact absurd rfl hLast
      | send payload maxRexmit =>
          exact hOther (by simp) (by simp) (fun _ => rfl)
      | handle event =>
          exact hOther (by simp) (by simp) (fun _ => rfl)

/-
  A node that is made the sink, and not stopped from being
  it, is the sink with the metric of the sink, whatever its
  table holds, until the connection is opened; then it is no
  sink until it is made one again.
-/
theorem sink_until_opened
    (c : Connection)
    (answer : Answer)
    (run : List (Operation × Answer))
    (hKept : ∀ entry ∈ run, entry.1 ≠ .setSink false) :
    (¬ OpenedSinceSink run →
        ((c.perform answer
            (.setSink true)).connection.after run).isSink =
              true ∧
          ((c.perform answer
            (.setSink true)).connection.after run).metric =
              Metric.sink) ∧
      (OpenedSinceSink run →
        ((c.perform answer
            (.setSink true)).connection.after run).isSink =
              false) := by
  have hMade :
      (c.perform answer
        (.setSink true)).connection.Reigns true := by
    apply Reigns.thenUpdate
    exact ⟨rfl, rfl⟩
  have hAfter := hMade.after run
  have hIff := foldl_reignAfter_iff hKept
  unfold isSink
  constructor
  · intro hClosed
    rw [hIff.mpr hClosed] at hAfter
    exact ⟨beq_iff_eq.mpr hAfter.1, hAfter.2⟩
  · intro hOpened
    have hEnded :
        run.foldl Operation.reignAfter true = false := by
      rw [← Bool.not_eq_true, hIff]
      exact not_not_intro hOpened
    rw [hEnded] at hAfter
    exact beq_eq_false_iff_ne.mpr hAfter

/- The sink hears a neighbor and is closed, and stays it. -/
theorem sink_until_opened_by_closing :
    let c := Connection.withConfig ⟨1, 0⟩ Config.standard
    let run : List (Operation × Answer) :=
      [ (.openOn 128, .ok ()),
        (.setSink true, .ok ()),
        (.handle (.announced ⟨2, 0⟩ 40), .ok ()),
        (.openOn 128,
          .error (.transport "no radio")),
        (.close, .ok ()) ]
    (∀ entry ∈ run, entry.1 ≠ .setSink false) ∧
      ((c.perform (.ok ())
          (.setSink true)).connection.after run).isSink =
            true ∧
        ((c.perform (.ok ())
          (.setSink true)).connection.after run).metric =
            Metric.sink := by
  intro c run
  have hKept : ∀ entry ∈ run, entry.1 ≠ .setSink false := by
    simp [run]
  have hClosed : ¬ OpenedSinceSink run := by
    rw [← foldl_reignAfter_iff hKept]
    rfl
  exact
    ⟨hKept, (sink_until_opened c (.ok ()) run hKept).1 hClosed⟩

/-
  A node is made the sink and then opened.  It is no sink
  any more.
-/
theorem opening_ends_sink_role :
    ¬ ∀ (c : Connection)
        (answer : Answer)
        (run : List (Operation × Answer)),
        (∀ entry ∈ run, entry.1 ≠ .setSink false) →
          ((c.perform answer
              (.setSink true)).connection.after run).isSink =
                true ∧
            ((c.perform answer
              (.setSink true)).connection.after run).metric =
                Metric.sink := by
  intro hAlways
  have hSink :=
    hAlways (Connection.withConfig ⟨1, 0⟩ Config.standard)
      (.ok ()) [(.openOn 128, .ok ())] (by simp)
  have hDisconnected :
      (((Connection.withConfig ⟨1, 0⟩
          Config.standard).perform (.ok ())
            (.setSink true)).connection.after
              [(.openOn 128, .ok ())]).isSink = false := by
    decide
  rw [hDisconnected] at hSink
  exact absurd hSink.1 Bool.false_ne_true

end Connection

end CollectionTree
