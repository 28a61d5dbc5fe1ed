import CollectionTree.Proofs.Windows
import Mathlib.Data.List.Induction
import Mathlib.Data.List.ReduceOption

/-
  What a memory of recent packets holds, whatever is asked
  of it.

  Key definitions include:
    * `RecentPackets.Access`
    * `RecentPackets.access`
    * `RecentPackets.after`
    * `RecentPackets.recordings`

  Key theorems include:
    * `RecentPackets.access_snd`
    * `RecentPackets.after_empty_eq`
    * `RecentPackets.sifted_recordings`
    * `RecentPackets.memories_are_windows`

  An access records a packet or leaves the memory as it is,
  and its answer tells which.  So the memory is determined
  by the packets that were recorded, and they are in a
  window that slides over them.
-/

namespace CollectionTree

namespace RecentPackets

------------------------------------------------------------
-- Accesses
------------------------------------------------------------

/- What may be asked of a memory. -/
inductive Access
  | look (id : PacketId)
  | record (id : PacketId)
  | accept (id : PacketId)
  deriving DecidableEq, Repr

/- The answer to an access, if any, and the memory then. -/
def access
    (r : RecentPackets) : Access → Option Bool × RecentPackets
  | .look id => (some (r.seen id), r)
  | .record id => (none, r.record id)
  | .accept id => (some (r.accept id).1, (r.accept id).2)

/- The memory after some accesses. -/
def after
    (r : RecentPackets)
    (accesses : List Access) : RecentPackets :=
  accesses.foldl (fun r a => (r.access a).2) r

/-
  The packet that an access with some answer records.  One
  that is to be accepted is recorded only if it is new.
-/
def Access.recorded? : Access → Option Bool → Option PacketId
  | .record id, _ => some id
  | .accept id, some true => some id
  | _, _ => none

/- The packets that accesses record, in their order. -/
def recordings
    (r : RecentPackets) : List Access → List PacketId
  | [] => []
  | a :: rest =>
      (a.recorded? (r.access a).1).toList ++
        (r.access a).2.recordings rest

theorem after_concat
    (r : RecentPackets)
    (accesses : List Access)
    (last : Access) :
    r.after (accesses ++ [last]) =
      ((r.after accesses).access last).2 :=
  List.foldl_concat ..

theorem recordings_concat
    (r : RecentPackets)
    (accesses : List Access)
    (last : Access) :
    r.recordings (accesses ++ [last]) =
      r.recordings accesses ++
        (last.recorded?
          ((r.after accesses).access last).1).toList := by
  induction accesses generalizing r with
  | nil => exact List.append_nil _
  | cons first rest ih =>
      rw [List.cons_append, recordings, recordings, ih,
        List.append_assoc]
      rfl

------------------------------------------------------------
-- One Access
------------------------------------------------------------

/- The memory changes by what is recorded and nothing else. -/
theorem access_snd
    (r : RecentPackets)
    (a : Access) :
    (r.access a).2 =
      (a.recorded? (r.access a).1).elim r r.record := by
  cases a with
  | look id => rfl
  | record id => rfl
  | accept id =>
      simp only [access, accept]
      cases r.seen id with
      | true => rfl
      | false => rfl

/- What is recorded on acceptance was not remembered. -/
theorem unseen_of_recorded?
    {r : RecentPackets}
    {a : Access}
    {id : PacketId}
    (hRecorded : a.recorded? (r.access a).1 = some id)
    (hOther : a ≠ .record id) :
    r.seen id = false := by
  cases a with
  | look other => contradiction
  | record other =>
      cases hRecorded
      contradiction
  | accept other =>
      simp only [access] at hRecorded
      cases hNew : (r.accept other).1 with
      | true =>
          rw [hNew] at hRecorded
          cases hRecorded
          exact (fst_accept_iff r id).mp hNew
      | false =>
          rw [hNew] at hRecorded
          contradiction

------------------------------------------------------------
-- Some Accesses
------------------------------------------------------------

/- Nothing but the recorded packets makes a difference. -/
theorem after_empty_eq
    (capacity : Nat)
    (accesses : List Access) :
    (empty capacity).after accesses =
      recorded capacity
        ((empty capacity).recordings accesses).reverse := by
  induction accesses using List.reverseRecOn with
  | nil => rfl
  | append_singleton earlier last ih =>
      rw [after_concat, access_snd, recordings_concat,
        List.reverse_append]
      cases last.recorded?
        (((empty capacity).after earlier).access last).1 with
      | none => exact ih
      | some id => exact congrArg (fun r => r.record id) ih

/- Packets that are only accepted are new when recorded. -/
theorem sifted_recordings
    (capacity : Nat)
    {accesses : List Access}
    (hAccepted : ∀ id, Access.record id ∉ accesses) :
    Sifted (max capacity 1) []
      ((empty capacity).recordings accesses).reverse := by
  induction accesses using List.reverseRecOn with
  | nil => exact True.intro
  | append_singleton earlier last ih =>
      have hEarlier :=
        ih fun id hMem =>
          hAccepted id (List.mem_append_left [last] hMem)
      rw [recordings_concat, List.reverse_append]
      cases hRecorded :
          last.recorded?
            (((empty capacity).after earlier).access
              last).1 with
      | none => exact hEarlier
      | some id =>
          have hOther : last ≠ .record id := by
            rintro rfl
            exact hAccepted id (by simp)
          have hUnseen :=
            unseen_of_recorded? hRecorded hOther
          -- It was none of the latest that were recorded before.
          rw [after_empty_eq, ← Bool.not_eq_true,
            seen_recorded_iff] at hUnseen
          refine ⟨?_, hEarlier⟩
          rw [List.append_nil]
          exact hUnseen

/- The packets in the slots are those in the window. -/
theorem reduceOption_slots_perm
    (capacity : Nat)
    (ids : List PacketId) :
    (recorded capacity ids).ring.slots.reduceOption.Perm
      (ids.take (max capacity 1)) := by
  have hSlots :
      (recorded capacity ids).ring.slots.Perm
        (recorded capacity ids).ring.newestFirst :=
    (RingBuffer.newestFirst_perm _).symm
  have hWindow :
      (recorded capacity ids).ring.newestFirst.reduceOption =
        ids.take (max capacity 1) := by
    rw [newestFirst_recorded_eq, List.reduceOption_append,
      List.reduceOption_replicate_none, List.append_nil]
    simp [List.reduceOption]
  exact hWindow ▸ hSlots.filterMap id

/-
  A memory holds the latest of the packets that were
  recorded, as many as it has room for, and its other slots
  are unused and never match.  So a packet is remembered if
  it is one of the latest, and else it is new.  If packets
  are only accepted, no two slots hold the same one.
-/
theorem memories_are_windows
    (capacity : Nat)
    (accesses : List Access) :
    let size := max capacity 1
    let r := (empty capacity).after accesses
    let ids := (empty capacity).recordings accesses
    let latest := ids.reverse.take size
    r.capacity = size ∧
      (∀ id, r.seen id = true ↔ id ∈ latest) ∧
      (∀ id, (r.accept id).1 = true ↔ id ∉ latest) ∧
      r.ring.newestFirst =
        latest.map some ++
          List.replicate (size - ids.length) none ∧
      (∀ id, id ∉ ids → r.seen id = false) ∧
      ((∀ id, Access.record id ∉ accesses) →
        r.ring.slots.reduceOption.Nodup) := by
  intro size r ids latest
  have hRecorded : r = recorded capacity ids.reverse :=
    after_empty_eq capacity accesses
  have hSeen (id : PacketId) :
      r.seen id = true ↔ id ∈ latest := by
    rw [hRecorded]
    exact seen_recorded_iff capacity ids.reverse id
  refine ⟨?_, hSeen, ?_, ?_, ?_, ?_⟩
  · rw [hRecorded]
    exact capacity_recorded capacity ids.reverse
  · intro id
    rw [fst_accept_iff, ← Bool.not_eq_true, hSeen]
  · rw [hRecorded, newestFirst_recorded_eq,
      List.length_reverse]
  · intro id hNever
    rw [← Bool.not_eq_true, hSeen]
    intro hMem
    exact
      hNever (List.mem_reverse.mp (List.mem_of_mem_take hMem))
  · intro hAccepted
    have hSifted := sifted_recordings capacity hAccepted
    have hPerm :=
      reduceOption_slots_perm capacity ids.reverse
    rw [hRecorded]
    exact hPerm.nodup_iff.mpr
      (hSifted.nodup_take (Nat.le_refl size))

/-
  The packet without an originator is new although two slots
  are unused.  The third packet takes its slot, so that it is
  new once more.
-/
theorem memories_are_windows_of_two :
    let null : PacketId := ⟨Address.null, 0⟩
    let accesses : List Access :=
      [.look null, .accept null, .accept null,
        .accept ⟨⟨1, 0⟩, 0⟩, .accept ⟨⟨2, 0⟩, 0⟩,
        .accept null]
    (∀ id, Access.record id ∉ accesses) ∧
      (empty 2).recordings accesses =
        [null, ⟨⟨1, 0⟩, 0⟩, ⟨⟨2, 0⟩, 0⟩, null] ∧
      ((empty 2).after accesses).ring.slots.reduceOption.Nodup := by
  intro null accesses
  have hAccepted : ∀ id, Access.record id ∉ accesses := by
    simp [accesses]
  exact
    ⟨hAccepted, by decide,
      (memories_are_windows 2 accesses).2.2.2.2.2 hAccepted⟩

end RecentPackets

end CollectionTree
