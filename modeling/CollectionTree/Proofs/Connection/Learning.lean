import CollectionTree.Proofs.Connection.Outcomes
import CollectionTree.Proofs.Tables

/-
  How the table of a connection changes.

  Key definitions include:
    * `Connection.neighborsAfter`

  Key theorems include:
    * `Connection.neighbors_handle`
    * `Connection.isOpen_handle`
    * `Connection.handle_closed`
    * `NeighborTable.lt_lifetime_of_mem_tick`
    * `Connection.mem_neighborsAfter`

  An event changes the table in a way that depends on the
  table and on the event only.  Entries are renewed by what
  a neighbor announces or acknowledges, and by nothing else.
-/

namespace CollectionTree

namespace Connection

------------------------------------------------------------
-- Tables After Events
------------------------------------------------------------

/- The table of an open node after an event. -/
def neighborsAfter
    (c : Connection)
    (event : Event) : NeighborTable :=
  match event with
  | .received _ _ => c.neighbors
  | .sent receiver outcome transmissions =>
      if outcome = .acked then
        noteAcknowledged c.neighbors receiver
          (max transmissions 1)
      else
        (c.neighbors.recordFailure receiver
          (max transmissions 1)).2
  | .announced sender metric =>
      if sender = c.address then
        c.neighbors
      else
        noteAnnounced c.neighbors sender metric
  | .elapsed time => (c.neighbors.tick time).2

/- Bringing the metric up to date is not learning. -/
theorem thenUpdate_frame
    (c : Connection)
    (effects : List Effect) :
    (c.thenUpdate effects).connection.neighbors =
        c.neighbors ∧
      (c.thenUpdate effects).connection.isOpen =
        c.isOpen := by
  unfold thenUpdate
  rcases updateMetric_cases c with
    ⟨-, hEq⟩ | ⟨-, -, hEq⟩
  · rw [hEq]
    exact ⟨rfl, rfl⟩
  · rw [hEq]
    exact ⟨rfl, rfl⟩

/- An event leaves a closed connection as it is. -/
theorem handle_closed
    {c : Connection}
    (hClosed : c.isOpen = false)
    (answer : Answer)
    (event : Event) :
    c.handle answer event = c.unchanged := by
  cases event with
  | received sender packet => simp [handle, receive, hClosed]
  | sent receiver outcome transmissions =>
      simp [handle, concludeTransmission, hClosed]
  | announced sender metric => simp [handle, hear, hClosed]
  | elapsed time => simp [handle, tick, hClosed]

theorem handle_open
    {c : Connection}
    (hOpen : c.isOpen = true)
    (answer : Answer)
    (event : Event) :
    (c.handle answer event).connection.neighbors =
        c.neighborsAfter event ∧
      (c.handle answer event).connection.isOpen = true := by
  have hListening : ¬ (!c.isOpen) = true := by
    simp [hOpen]
  cases event with
  | received sender packet =>
      constructor
      · exact
          congrArg Prod.fst
            (route_receive c answer sender packet)
      · exact
          (isOpen_receive c answer sender packet).trans hOpen
  | sent receiver outcome transmissions =>
      unfold handle concludeTransmission neighborsAfter
      simp only [if_neg hListening]
      split
      · obtain ⟨hNeighbors, hSame⟩ := thenUpdate_frame _ []
        exact ⟨hNeighbors, hSame.trans hOpen⟩
      · obtain ⟨hNeighbors, hSame⟩ := thenUpdate_frame _ []
        exact ⟨hNeighbors, hSame.trans hOpen⟩
  | announced sender metric =>
      unfold handle hear neighborsAfter
      by_cases hOwn : sender = c.address
      · simp only [hOwn, or_true, if_true]
        exact ⟨rfl, hOpen⟩
      · dsimp only
        rw [if_neg (by simp [hOpen, hOwn]), if_neg hOwn]
        obtain ⟨hNeighbors, hSame⟩ := thenUpdate_frame _ []
        exact ⟨hNeighbors, hSame.trans hOpen⟩
  | elapsed time =>
      unfold handle tick neighborsAfter
      simp only [if_neg hListening]
      split
      · exact ⟨rfl, hOpen⟩
      · obtain ⟨hNeighbors, hSame⟩ := thenUpdate_frame _ []
        exact ⟨hNeighbors, hSame.trans hOpen⟩

/- An open node learns what the event tells it. -/
theorem neighbors_handle
    {c : Connection}
    (hOpen : c.isOpen = true)
    (answer : Answer)
    (event : Event) :
    (c.handle answer event).connection.neighbors =
      c.neighborsAfter event :=
  (handle_open hOpen answer event).1

/- An event neither opens nor closes a node. -/
theorem isOpen_handle
    (c : Connection)
    (answer : Answer)
    (event : Event) :
    (c.handle answer event).connection.isOpen = c.isOpen := by
  cases hOpen : c.isOpen with
  | true => exact (handle_open hOpen answer event).2
  | false =>
      rw [handle_closed hOpen]
      exact hOpen

end Connection

------------------------------------------------------------
-- Ages
------------------------------------------------------------

/- Whether an event renews the entry of an address. -/
def Event.Renews
    (event : Event)
    (a : Address) : Prop :=
  match event with
  | .announced sender _ => sender = a
  | .sent receiver outcome _ =>
      receiver = a ∧ outcome = .acked
  | _ => False

/- Who stays in a table has not reached the lifetime. -/
theorem NeighborTable.lt_lifetime_of_mem_tick
    {t : NeighborTable}
    {elapsed : Duration}
    {n : Neighbor}
    (hMem : n ∈ (t.tick elapsed).2.entries) :
    n.age.nanos < t.lifetime.nanos := by
  rcases List.mem_filter.mp hMem with ⟨-, hFresh⟩
  have hYoung : n.isStale t.lifetime = false := by
    simpa using hFresh
  exact Nat.lt_of_not_le (of_decide_eq_false hYoung)

namespace Connection

@[simp] theorem lifetime_neighborsAfter
    (c : Connection)
    (event : Event) :
    (c.neighborsAfter event).lifetime =
      c.neighbors.lifetime := by
  cases event with
  | received sender packet => rfl
  | sent receiver outcome transmissions =>
      unfold neighborsAfter
      simp only
      split
      · rw [noteAcknowledged_eq_upsert]
        exact NeighborTable.lifetime_upsert _ _ _
      · rfl
  | announced sender metric =>
      unfold neighborsAfter
      simp only
      split
      · rfl
      · rw [noteAnnounced_eq_upsert]
        exact NeighborTable.lifetime_upsert _ _ _
  | elapsed time => rfl

/-
  Unless time passes, an entry is as old as it was before or
  it has just been renewed.
-/
theorem mem_neighborsAfter
    {c : Connection}
    {event : Event}
    (hNoTick : ∀ time, event ≠ .elapsed time)
    {n : Neighbor}
    (hMem : n ∈ (c.neighborsAfter event).entries) :
    (∃ m ∈ c.neighbors.entries,
        m.address = n.address ∧ m.age = n.age) ∨
      (event.Renews n.address ∧ n.age = Duration.zero) := by
  cases event with
  | received sender packet =>
      exact Or.inl ⟨n, hMem, rfl, rfl⟩
  | sent receiver outcome transmissions =>
      unfold neighborsAfter at hMem
      simp only at hMem
      split at hMem
      next hAcked =>
        rw [noteAcknowledged_eq_upsert] at hMem
        rcases NeighborTable.mem_upsert hMem with
          hOld | rfl | ⟨m, hOld, hAddress, rfl⟩
        · exact Or.inl ⟨n, hOld, rfl, rfl⟩
        · exact Or.inr ⟨⟨rfl, hAcked⟩, rfl⟩
        · exact Or.inr ⟨⟨hAddress.symm, hAcked⟩, rfl⟩
      next =>
        rcases NeighborTable.mem_modifyEntry hMem with
          hOld | ⟨m, hOld, -, rfl⟩
        · exact Or.inl ⟨n, hOld, rfl, rfl⟩
        · exact Or.inl ⟨m, hOld, rfl, rfl⟩
  | announced sender metric =>
      unfold neighborsAfter at hMem
      simp only at hMem
      split at hMem
      next => exact Or.inl ⟨n, hMem, rfl, rfl⟩
      next =>
        rw [noteAnnounced_eq_upsert] at hMem
        rcases NeighborTable.mem_upsert hMem with
          hOld | rfl | ⟨m, hOld, hAddress, rfl⟩
        · exact Or.inl ⟨n, hOld, rfl, rfl⟩
        · exact Or.inr ⟨rfl, rfl⟩
        · exact Or.inr ⟨hAddress.symm, rfl⟩
  | elapsed time => exact absurd rfl (hNoTick time)

end Connection

end CollectionTree
