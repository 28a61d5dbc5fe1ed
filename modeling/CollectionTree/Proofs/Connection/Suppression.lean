import CollectionTree.Proofs.Connection.PacketBalance
import CollectionTree.Proofs.Windows
import Mathlib.Data.List.Nodup

/-
  Which packets a connection drops as duplicates.

  Key definitions include:
    * `Connection.Occurrence.admitted?`
    * `Connection.admitted`
    * `Connection.Remembers`

  Key theorems include:
    * `Connection.Reception.duplicate_iff`
    * `Connection.Step.remembers`
    * `Connection.duplicates_are_the_latest`

  A packet that is new is admitted, and remembered whatever
  becomes of it.  Nothing else changes the memory: neither
  the role of the node nor the end of a session does.
-/

namespace CollectionTree

namespace Connection

------------------------------------------------------------
-- Admitted Packets
------------------------------------------------------------

/- The packet that reached an open node and was new to it. -/
def Occurrence.admitted?
    (o : Occurrence) : Option PacketId :=
  match o.operation with
  | .handle (.received _ packet) =>
      if o.before.isOpen ∧
          (o.before.recent.accept packet.id).1 = true then
        some packet.id
      else
        none
  | _ => none

/- The packets that were admitted, in their order. -/
def admitted
    (steps : List Occurrence) : List PacketId :=
  steps.filterMap Occurrence.admitted?

theorem admitted?_received
    {c : Connection}
    (hOpen : c.isOpen = true)
    (sender : Address)
    (packet : Packet)
    (answer : Answer)
    (outcome : Outcome) :
    Occurrence.admitted?
        ⟨c, .handle (.received sender packet), answer,
          outcome⟩ =
      if c.recent.seen packet.id = false then
        some packet.id
      else
        none := by
  simp only [Occurrence.admitted?, hOpen,
    RecentPackets.fst_accept_iff, true_and]

------------------------------------------------------------
-- One Step
------------------------------------------------------------

/- The state after one more packet was a duplicate. -/
def countDuplicate
    (c : Connection) : Connection :=
  { c with
    stats :=
      { c.stats with
        duplicatesDropped :=
          c.stats.duplicatesDropped + 1 } }

/-
  A packet is dropped as a duplicate if it is remembered,
  and then nothing but the count of duplicates changes.
-/
theorem Reception.duplicate_iff
    {c : Connection}
    {answer : Answer}
    {sender : Address}
    {packet : Packet}
    {outcome : Outcome}
    (hReception :
      Reception c answer sender packet outcome) :
    (outcome.connection.stats.duplicatesDropped =
          c.stats.duplicatesDropped + 1 ↔
        c.recent.seen packet.id = true) ∧
      (c.recent.seen packet.id = true →
        outcome = ⟨c.countDuplicate, [], .done⟩) := by
  have hOther
      (hNew : c.recent.seen packet.id = false)
      (hSame :
        outcome.connection.stats.duplicatesDropped =
          c.stats.duplicatesDropped) :
      (outcome.connection.stats.duplicatesDropped =
            c.stats.duplicatesDropped + 1 ↔
          c.recent.seen packet.id = true) ∧
        (c.recent.seen packet.id = true →
          outcome = ⟨c.countDuplicate, [], .done⟩) := by
    simp [hNew, hSame]
  cases hReception with
  | duplicate hSeen =>
      exact
        ⟨⟨fun _ => hSeen, fun _ => rfl⟩, fun _ => rfl⟩
  | delivered hNew _ => exact hOther hNew rfl
  | expired hNew _ _ => exact hOther hNew rfl
  | disconnected hNew _ _ _ => exact hOther hNew rfl
  | busy hNew _ _ _ _ => exact hOther hNew rfl
  | unrouted hNew _ _ _ _ _ => exact hOther hNew rfl
  | refused hNew _ _ _ _ _ _ _ _ _ => exact hOther hNew rfl
  | relayed hNew _ _ _ _ _ _ _ _ => exact hOther hNew rfl

/- Whatever becomes of a new packet, it is remembered. -/
theorem Reception.recent_eq
    {c : Connection}
    {answer : Answer}
    {sender : Address}
    {packet : Packet}
    {outcome : Outcome}
    (hReception :
      Reception c answer sender packet outcome) :
    outcome.connection.recent =
      if c.recent.seen packet.id = false then
        c.recent.record packet.id
      else
        c.recent := by
  cases hReception with
  | duplicate hSeen => simp [hSeen]
  | delivered hNew _ => simp [hNew, deliver, remember]
  | expired hNew _ _ => simp [hNew, remember]
  | disconnected hNew _ _ _ =>
      simp [hNew, remember, countNoRoute]
  | busy hNew _ _ _ _ => simp [hNew, remember]
  | unrouted hNew _ _ _ _ _ =>
      simp [hNew, remember, countNoRoute]
  | refused hNew _ _ _ _ _ _ _ _ _ => simp [hNew, remember]
  | relayed hNew _ _ _ _ _ _ _ _ => simp [hNew, remember]

/- Only a packet that reaches it is new to a node. -/
theorem Step.recent_of_other
    {c : Connection}
    {answer : Answer}
    {operation : Operation}
    {outcome : Outcome}
    (hStep : Step c answer operation outcome)
    (hOther :
      ∀ sender packet,
        c.isOpen = true →
          operation ≠ .handle (.received sender packet)) :
    outcome.connection.recent = c.recent := by
  have hKept
      (hNoSend : operation.isSend = false)
      (hNoReception : operation.isReception = false) :
      outcome.connection.recent = c.recent :=
    congrArg (fun ledger => ledger.2.1)
      (hStep.ledger_eq hNoSend hNoReception)
  cases hStep with
  | unsent _ _ _ => rfl
  | sent _ _ _ _ hSending => cases hSending <;> rfl
  | unheard _ _ => rfl
  | received hOpen sender packet _ _ =>
      exact absurd rfl (hOther sender packet hOpen)
  | _ => exact hKept rfl rfl

/-
  A packet that is admitted is new and is remembered, and
  otherwise the memory stays as it is.
-/
theorem Step.recent_cases
    {o : Occurrence}
    (hStep : Step o.before o.answer o.operation o.outcome) :
    (∃ id,
        o.admitted? = some id ∧
          o.before.recent.seen id = false ∧
          o.outcome.connection.recent =
            o.before.recent.record id) ∨
      (o.admitted? = none ∧
        o.outcome.connection.recent = o.before.recent) := by
  rcases o with ⟨c, operation, answer, outcome⟩
  dsimp only at hStep ⊢
  by_cases hReaches :
      ∃ sender packet,
        c.isOpen = true ∧
          operation = .handle (.received sender packet)
  · rcases hReaches with ⟨sender, packet, hOpen, rfl⟩
    cases hStep with
    | unheard hClosed _ =>
        rw [hOpen] at hClosed
        contradiction
    | received _ _ _ _ hReception =>
        have hRecent := hReception.recent_eq
        rw [admitted?_received hOpen]
        by_cases hNew : c.recent.seen packet.id = false
        · rw [if_pos hNew] at hRecent ⊢
          exact Or.inl ⟨packet.id, rfl, hNew, hRecent⟩
        · rw [if_neg hNew] at hRecent ⊢
          exact Or.inr ⟨rfl, hRecent⟩
  · have hOther :
        ∀ sender packet,
          c.isOpen = true →
            operation ≠ .handle (.received sender packet) :=
      fun sender packet hOpen hReception =>
        hReaches ⟨sender, packet, hOpen, hReception⟩
    refine Or.inr ⟨?_, hStep.recent_of_other hOther⟩
    unfold Occurrence.admitted?
    split
    next sender packet hReception =>
      exact if_neg (fun hNew =>
        hOther sender packet hNew.1 hReception)
    next => rfl

------------------------------------------------------------
-- Runs
------------------------------------------------------------

/-
  The memory of a node after some steps: it holds what was
  admitted, after what was recorded before the first step,
  and each packet was new when it was admitted.
-/
structure Remembers
    (capacity : Nat)
    (before : List PacketId)
    (steps : List Occurrence)
    (c : Connection) : Prop where
  recent :
    c.recent =
      RecentPackets.recorded capacity
        ((admitted steps).reverse ++ before)
  sifted :
    RecentPackets.Sifted (max capacity 1) before
      (admitted steps).reverse

theorem Step.remembers
    {capacity : Nat}
    {before : List PacketId}
    {earlier : List Occurrence}
    {o : Occurrence}
    (hStep : Step o.before o.answer o.operation o.outcome)
    (hHeld : Remembers capacity before earlier o.before) :
    Remembers capacity before (earlier ++ [o])
      o.outcome.connection := by
  have hAdmitted :
      admitted (earlier ++ [o]) =
        admitted earlier ++ o.admitted?.toList := by
    unfold admitted
    rw [List.filterMap_append]
    cases hId : o.admitted? <;> simp [hId]
  rcases hStep.recent_cases with
    ⟨id, hId, hNew, hRecent⟩ | ⟨hNone, hRecent⟩
  · have hReverse :
        (admitted (earlier ++ [o])).reverse =
          id :: (admitted earlier).reverse := by
      simp [hAdmitted, hId]
    constructor
    · rw [hRecent, hHeld.recent, hReverse]
      rfl
    · rw [hReverse]
      refine ⟨?_, hHeld.sifted⟩
      intro hMem
      rw [← RecentPackets.seen_recorded_iff,
        ← hHeld.recent, hNew] at hMem
      contradiction
  · have hSame :
        admitted (earlier ++ [o]) = admitted earlier := by
      simp [hAdmitted, hNone]
    constructor
    · rw [hRecent, hHeld.recent, hSame]
    · rw [hSame]
      exact hHeld.sifted

/-
  A packet that reaches an open node is dropped as a
  duplicate just if it is one of the packets admitted last,
  as many as the memory has room for, and then nothing but
  the count of duplicates changes.  Between two times that a
  packet is admitted, as many other packets are admitted, no
  two of them the same.  The node may begin with a memory of
  packets, newest first; one made from settings has none.
-/
theorem duplicates_are_the_latest
    (address : Address)
    (config : Config)
    (neighbors : NeighborTable)
    (capacity : Nat)
    (before : List PacketId)
    (run : List (Operation × Answer)) :
    let recent := RecentPackets.recorded capacity before
    let start := withTables address config neighbors recent
    let steps := start.history run
    let current := start.after run
    let window :=
      ((admitted steps).reverse ++ before).take
        recent.capacity
    (current.isOpen = true →
        ∀ (answer : Answer) (sender : Address)
          (packet : Packet),
          let outcome :=
            current.perform answer
              (.handle (.received sender packet))
          (outcome.connection.stats.duplicatesDropped =
                current.stats.duplicatesDropped + 1 ↔
              packet.id ∈ window) ∧
            (packet.id ∈ window →
              outcome =
                ⟨current.countDuplicate, [], .done⟩)) ∧
      ∀ (id : PacketId) (first second : Occurrence)
        (earlier between later : List Occurrence),
        steps =
            earlier ++ first :: (between ++ second :: later) →
          first.admitted? = some id →
            second.admitted? = some id →
              ∃ others : List PacketId,
                others.Sublist (admitted between) ∧
                  others.Nodup ∧ id ∉ others ∧
                  recent.capacity ≤ others.length := by
  intro recent start steps current window
  have hRemembers :
      Remembers capacity before steps current :=
    invariant_history
      (P := Remembers capacity before)
      (fun hStep hHeld => hStep.remembers hHeld)
      ⟨rfl, trivial⟩ run
  have hSize : recent.capacity = max capacity 1 :=
    RecentPackets.capacity_recorded capacity before
  constructor
  · intro hOpen answer sender packet outcome
    have hWindow :
        current.recent.seen packet.id = true ↔
          packet.id ∈ window := by
      rw [hRemembers.recent,
        RecentPackets.seen_recorded_iff, ← hSize]
    rw [← hWindow]
    exact
      (reception hOpen answer sender packet).duplicate_iff
  · intro id first second earlier between later hSplit
      hFirst hSecond
    have hReverse :
        (admitted steps).reverse =
          (admitted later).reverse ++
            id :: ((admitted between).reverse ++
              id :: (admitted earlier).reverse) := by
      rw [hSplit]
      simp [admitted, hFirst, hSecond]
    have hSifted := hRemembers.sifted
    rw [hReverse] at hSifted
    rcases hSifted.exists_others with
      ⟨others, hSublist, hDistinct, hOther, hLength⟩
    refine
      ⟨others.reverse, ?_, List.nodup_reverse.mpr hDistinct,
        ?_, ?_⟩
    · rw [← List.reverse_reverse (admitted between)]
      exact hSublist.reverse
    · rw [List.mem_reverse]
      exact hOther
    · rw [List.length_reverse, hLength]
      exact Nat.le_of_eq hSize

end Connection

end CollectionTree
