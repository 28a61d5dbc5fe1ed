import CollectionTree.Proofs.Connection.Steps
import CollectionTree.Simulation.Node
import Mathlib.Data.List.Basic

/-
  What a connection announces, and when.

  Key definitions include:
    * `Effect.isAnnouncement`
    * `Effect.announcedAfter`
    * `Connection.lastAnnounced`
    * `Connection.Publishes`

  Key theorems include:
    * `Node.announced_carryOutAll`
    * `Connection.Step.publishes`
    * `Connection.publishes_run`
    * `Connection.Step.changes`
    * `Connection.announcements_follow_metric`

  The metric is set in three places, and each of them has to
  see to its announcement.  A step is taken together with
  what it announces: both start at the metric before and end
  at the metric after.
-/

namespace CollectionTree

------------------------------------------------------------
-- Announcers
------------------------------------------------------------

/- The metric that an effect passes to the announcer. -/
def Effect.announced? : Effect → Option Metric
  | .register _ metric => some metric
  | .announce metric => some metric
  | _ => none

/- Whether an effect replaces the announced metric. -/
def Effect.isAnnouncement : Effect → Bool
  | .announce _ => true
  | _ => false

/-
  What is announced after an effect, by what was announced
  before.  Without a registration nothing is.
-/
def Effect.announcedAfter
    (announced : Option Metric) :
    Effect → Option Metric
  | .register _ metric => some metric
  | .announce metric => announced.map (fun _ => metric)
  | .withdraw => none
  | _ => announced

theorem Node.announced_carryOut
    (node : Node)
    (index : Nat)
    (effect : Effect) :
    (node.carryOut index effect).1.announced =
      effect.announcedAfter node.announced := by
  cases effect with
  | announce metric =>
      unfold Node.carryOut Effect.announcedAfter
      cases hAnnounced : node.announced with
      | none => simpa using hAnnounced
      | some old => rfl
  | _ => rfl

/- The announcer of a simulated node is just this. -/
theorem Node.announced_carryOutAll
    (index : Nat)
    (node : Node)
    (effects : List Effect) :
    (Node.carryOutAll index node effects).1.announced =
      effects.foldl Effect.announcedAfter
        node.announced := by
  induction effects generalizing node with
  | nil => rfl
  | cons effect rest ih =>
      rw [List.foldl_cons, ← node.announced_carryOut index]
      exact ih (node.carryOut index effect).1

namespace Connection

/- The last metric that was passed to the announcer. -/
def lastAnnounced
    (effects : List Effect) : Option Metric :=
  (effects.filterMap Effect.announced?).getLast?

theorem lastAnnounced_append
    (effects more : List Effect) :
    lastAnnounced (effects ++ more) =
      (lastAnnounced more).or (lastAnnounced effects) := by
  unfold lastAnnounced
  rw [List.filterMap_append, List.getLast?_append]

/- What is announced is what was passed on last. -/
theorem lastAnnounced_of_foldl
    {effects : List Effect}
    {announced : Option Metric}
    {metric : Metric}
    (hFinally :
      effects.foldl Effect.announcedAfter announced =
        some metric) :
    (lastAnnounced effects).or announced = some metric := by
  induction effects generalizing announced with
  | nil => exact hFinally
  | cons effect rest ih =>
      have hRest := ih hFinally
      rw [← List.singleton_append, lastAnnounced_append]
      cases hLast : lastAnnounced rest with
      | some last =>
          rw [hLast] at hRest
          exact hRest
      | none =>
          rw [hLast, Option.none_or] at hRest
          cases effect with
          | announce next =>
              unfold Effect.announcedAfter at hRest
              cases announced with
              | none => contradiction
              | some old => exact hRest
          | withdraw => contradiction
          | _ => exact hRest

------------------------------------------------------------
-- One Step
------------------------------------------------------------

/- While a connection is open its metric is announced. -/
def announced?
    (c : Connection) : Option Metric :=
  if c.isOpen then some c.metric else none

/- Another metric is announced only while open. -/
theorem map_announced?
    (c : Connection)
    (metric : Metric) :
    c.announced?.map (fun _ => metric) =
      if c.isOpen then some metric else none := by
  unfold announced?
  by_cases hOpen : c.isOpen = true
  · rw [if_pos hOpen, if_pos hOpen, Option.map_some]
  · rw [if_neg hOpen, if_neg hOpen, Option.map_none]

/-
  Effects between two states announce the metric of the
  second, and each announcement is counted.
-/
structure Publishes
    (c d : Connection)
    (effects : List Effect) : Prop where
  announced :
    effects.foldl Effect.announcedAfter c.announced? =
      d.announced?
  counted :
    d.stats.metricChanges =
      c.stats.metricChanges +
        effects.countP Effect.isAnnouncement

theorem Publishes.trans
    {c d e : Connection}
    {effects more : List Effect}
    (hFirst : Publishes c d effects)
    (hRest : Publishes d e more) :
    Publishes c e (effects ++ more) := by
  constructor
  · rw [List.foldl_append, hFirst.announced,
      hRest.announced]
  · rw [List.countP_append, hRest.counted, hFirst.counted,
      Nat.add_assoc]

/- A metric that is brought up to date is announced. -/
theorem Publishes.thenUpdate
    {c d : Connection}
    {effects : List Effect}
    (hPublishes : Publishes c d effects) :
    Publishes c (d.thenUpdate effects).connection
      (d.thenUpdate effects).effects := by
  rcases thenUpdate_cases d effects with
    ⟨-, hEq⟩ | ⟨-, -, hEq⟩
  · rw [hEq]
    exact hPublishes
  · have hUpdate :
        Publishes d d.withRouteMetric
          [.announce d.routeMetric] :=
      ⟨map_announced? d d.routeMetric, rfl⟩
    rw [hEq]
    exact hPublishes.trans hUpdate

theorem publishes_assigned
    (c : Connection)
    (on : Bool) :
    Publishes c (c.assigned on)
      [.announce (c.assigned on).metric] :=
  ⟨map_announced? c (c.assigned on).metric, rfl⟩

theorem publishes_concluded
    (c : Connection)
    (receiver : Address)
    (outcome : TxOutcome)
    (transmissions : UInt8) :
    Publishes c (c.concluded receiver outcome transmissions)
      [] := by
  unfold concluded
  split <;> exact ⟨rfl, rfl⟩

theorem Step.publishes
    {c : Connection}
    {answer : Answer}
    {operation : Operation}
    {outcome : Outcome}
    (hStep : Step c answer operation outcome) :
    Publishes c outcome.connection outcome.effects := by
  cases hStep with
  | unopened _ _ _ => exact ⟨rfl, rfl⟩
  | opened _ _ => exact ⟨rfl, rfl⟩
  | unclosed _ => exact ⟨rfl, rfl⟩
  | closed _ => exact ⟨rfl, rfl⟩
  | assigned on => exact (publishes_assigned c on).thenUpdate
  | unsent _ _ _ => exact ⟨rfl, rfl⟩
  | sent _ _ _ _ hSending =>
      cases hSending <;> exact ⟨rfl, rfl⟩
  | unheard _ _ => exact ⟨rfl, rfl⟩
  | received _ _ _ _ hReception =>
      cases hReception <;> exact ⟨rfl, rfl⟩
  | concluded _ receiver ended transmissions =>
      exact (publishes_concluded c receiver ended
        transmissions).thenUpdate
  | echoed _ _ => exact ⟨rfl, rfl⟩
  | informed _ sender _ metric =>
      have hInformed :
          Publishes c (c.informed sender metric) [] :=
        ⟨rfl, rfl⟩
      exact hInformed.thenUpdate
  | aged _ _ _ => exact ⟨rfl, rfl⟩
  | thinned _ time _ =>
      have hAged : Publishes c (c.aged time) [] :=
        ⟨rfl, rfl⟩
      exact hAged.thenUpdate

------------------------------------------------------------
-- What Is Worth Announcing
------------------------------------------------------------

/-
  An announcement was asked for before the metric is brought
  up to date, or it is of another metric.
-/
theorem announce_of_thenUpdate
    {c : Connection}
    {effects before rest : List Effect}
    {metric : Metric}
    (hEffects :
      (c.thenUpdate effects).effects =
        before ++ .announce metric :: rest) :
    (∃ more, effects = before ++ .announce metric :: more) ∨
      (before = effects ∧ c.metric ≠ metric) := by
  rcases thenUpdate_cases c effects with
    ⟨-, hEq⟩ | ⟨-, hOther, hEq⟩
  · rw [hEq] at hEffects
    exact Or.inl ⟨rest, hEffects⟩
  · rw [hEq] at hEffects
    rcases List.eq_nil_or_concat rest with
      rfl | ⟨more, last, rfl⟩
    · have hSplit := List.append_inj' hEffects rfl
      have hMetric : c.routeMetric = metric := by
        simpa using hSplit.2
      exact Or.inr
        ⟨hSplit.1.symm, fun hSame =>
          hOther (hMetric.trans hSame.symm)⟩
    · rw [List.concat_eq_append, ← List.cons_append,
        ← List.append_assoc] at hEffects
      exact Or.inl ⟨more, (List.append_inj' hEffects rfl).1⟩

/- What is learned while open is announced if it is new. -/
theorem announce_of_learning
    {c : Connection}
    {earlier before rest : List Effect}
    {metric : Metric}
    (hLast : lastAnnounced earlier = some c.metric)
    (hEffects :
      (c.thenUpdate []).effects =
        before ++ .announce metric :: rest) :
    ∃ old,
      lastAnnounced (earlier ++ before) = some old ∧
        old ≠ metric := by
  rcases announce_of_thenUpdate hEffects with
    ⟨more, hGiven⟩ | ⟨rfl, hOther⟩
  · simp at hGiven
  · rw [List.append_nil]
    exact ⟨c.metric, hLast, hOther⟩

/-
  Only a role that is given is announced in any case.  Any
  other announcement is of another metric than the last.
-/
theorem Step.changes
    {c : Connection}
    {answer : Answer}
    {operation : Operation}
    {outcome : Outcome}
    (hStep : Step c answer operation outcome)
    {earlier : List Effect}
    (hLast :
      c.isOpen = true →
        lastAnnounced earlier = some c.metric)
    {before rest : List Effect}
    {metric : Metric}
    (hEffects :
      outcome.effects =
        before ++ .announce metric :: rest) :
    ((∃ on, operation = .setSink on) ∧ before = []) ∨
      ∃ old,
        lastAnnounced (earlier ++ before) = some old ∧
          old ≠ metric := by
  have hMem : .announce metric ∈ outcome.effects := by
    rw [hEffects]
    exact List.mem_append_right _ List.mem_cons_self
  cases hStep with
  | assigned on =>
      rcases announce_of_thenUpdate hEffects with
        ⟨more, hGiven⟩ | ⟨rfl, hOther⟩
      · cases before with
        | nil => exact Or.inl ⟨⟨on, rfl⟩, rfl⟩
        | cons first others => simp at hGiven
      · refine Or.inr ⟨(c.assigned on).metric, ?_, hOther⟩
        rw [lastAnnounced_append]
        rfl
  | concluded hOpen receiver ended transmissions =>
      refine Or.inr (announce_of_learning ?_ hEffects)
      rw [metric_concluded]
      exact hLast hOpen
  | informed hOpen sender _ heard =>
      exact Or.inr
        (announce_of_learning (c := c.informed sender heard)
          (hLast hOpen) hEffects)
  | thinned hOpen time _ =>
      exact Or.inr
        (announce_of_learning (c := c.aged time)
          (hLast hOpen) hEffects)
  | sent _ _ _ _ hSending =>
      cases hSending <;> simp [deliver] at hMem
  | received _ _ _ _ hReception =>
      cases hReception <;> simp [deliver] at hMem
  -- The other steps announce nothing.
  | _ => simp [unchanged] at hMem

------------------------------------------------------------
-- Runs
------------------------------------------------------------

theorem publishes_run
    (c : Connection)
    (run : List (Operation × Answer)) :
    Publishes c (c.after run) (c.effectsOf run) := by
  induction run generalizing c with
  | nil => exact ⟨rfl, rfl⟩
  | cons first rest ih =>
      have hFirst := (step c first.2 first.1).publishes
      exact hFirst.trans
        (ih (c.perform first.2 first.1).connection)

/-
  After any run of a new connection, the last metric passed
  to the announcer is the metric of the node if it is open,
  and the announcer of a simulated node shows it then only.
  All announcements are counted.  Whatever is done next, it
  announces another metric than the last, unless the node is
  given a role, which is announced first.
-/
theorem announcements_follow_metric
    (address : Address)
    (config : Config)
    (neighbors : NeighborTable)
    (recent : RecentPackets)
    (run : List (Operation × Answer)) :
    let start := withTables address config neighbors recent
    let current := start.after run
    let effects := start.effectsOf run
    (current.isOpen = true →
        lastAnnounced effects = some current.metric) ∧
      (∀ index,
        (Node.carryOutAll index (Node.new start)
            effects).1.announced =
          if current.isOpen then
            some current.metric
          else
            none) ∧
      current.stats.metricChanges =
        effects.countP Effect.isAnnouncement ∧
      ∀ operation answer before metric rest,
        (current.perform answer operation).effects =
            before ++ .announce metric :: rest →
          ((∃ on, operation = .setSink on) ∧
              before = []) ∨
            ∃ old,
              lastAnnounced (effects ++ before) = some old ∧
                old ≠ metric := by
  intro start current effects
  have hPublishes := publishes_run start run
  have hShown :
      effects.foldl Effect.announcedAfter none =
        current.announced? :=
    hPublishes.announced
  have hLast :
      current.isOpen = true →
        lastAnnounced effects = some current.metric := by
    intro hOpen
    have hFinally :
        effects.foldl Effect.announcedAfter none =
          some current.metric := by
      rw [hShown, announced?, if_pos hOpen]
    simpa using lastAnnounced_of_foldl hFinally
  refine ⟨hLast, ?_, ?_, ?_⟩
  · intro index
    rw [Node.announced_carryOutAll]
    exact hShown
  · have hCounted := hPublishes.counted
    rw [show start.stats.metricChanges = 0 from rfl,
      Nat.zero_add] at hCounted
    exact hCounted
  · intro operation answer before metric rest hEffects
    exact (step current answer operation).changes hLast
      hEffects

end Connection

end CollectionTree
