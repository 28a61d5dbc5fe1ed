import CollectionTree.Proofs.Duplicates

/-
  A memory of recent packets is a window over all packets
  that were recorded in it.

  Key definitions include:
    * `RecentPackets.recorded`
    * `RecentPackets.Sifted`

  Key theorems include:
    * `RecentPackets.newestFirst_recorded`
    * `RecentPackets.seen_recorded_iff`
    * `RecentPackets.Sifted.nodup_take`
    * `RecentPackets.Sifted.exists_others`

  The memory is a ring with a cursor that comes round.  Seen
  from the packet that was recorded last, it is the first
  part of a list that only grows at its front.
-/

namespace CollectionTree

namespace RecentPackets

/- Only a packet that is remembered is not new. -/
theorem fst_accept_iff
    (r : RecentPackets)
    (id : PacketId) :
    (r.accept id).1 = true ↔ r.seen id = false := by
  unfold accept
  cases r.seen id with
  | true => simp
  | false => simp

------------------------------------------------------------
-- What Is Remembered
------------------------------------------------------------

/-
  A memory in which some packets were recorded.  The list
  begins with the latest one.
-/
def recorded
    (capacity : Nat) :
    List PacketId → RecentPackets
  | [] => empty capacity
  | id :: older => (recorded capacity older).record id

@[simp] theorem capacity_recorded
    (capacity : Nat)
    (ids : List PacketId) :
    (recorded capacity ids).capacity = max capacity 1 := by
  induction ids with
  | nil => exact List.length_replicate
  | cons id older ih =>
      have hSame :
          (recorded capacity (id :: older)).capacity =
            (recorded capacity older).capacity :=
        List.length_set
      rw [hSame, ih]

theorem inBounds_recorded
    (capacity : Nat)
    (ids : List PacketId) :
    (recorded capacity ids).ring.InBounds := by
  induction ids with
  | nil =>
      have hSize := capacity_recorded capacity []
      change 0 < (recorded capacity []).capacity
      omega
  | cons id older ih => exact ih.push (some id)

/-
  The slots hold the latest packets in their order, and
  nothing where no packet was recorded yet.
-/
theorem newestFirst_recorded
    (capacity : Nat)
    (ids : List PacketId) :
    (recorded capacity ids).ring.newestFirst =
      (ids.map some ++
        List.replicate (max capacity 1) none).take
          (max capacity 1) := by
  have hSome : 1 ≤ max capacity 1 :=
    Nat.le_max_right capacity 1
  induction ids with
  | nil =>
      simp [recorded, empty, RingBuffer.filled,
        RingBuffer.newestFirst, RingBuffer.toList]
  | cons id older ih =>
      have hPush :
          (recorded capacity (id :: older)).ring.newestFirst =
            some id ::
              (recorded capacity
                older).ring.newestFirst.dropLast :=
        RingBuffer.newestFirst_push _ (some id)
          (inBounds_recorded capacity older)
      rcases Nat.exists_eq_add_of_le' hSome with ⟨size, hSize⟩
      rw [hPush, ih, hSize, List.map_cons, List.cons_append,
        List.take_succ_cons, List.dropLast_eq_take,
        List.length_take, List.take_take]
      simp

/- Where no packet was recorded, the slots are unused. -/
theorem newestFirst_recorded_eq
    (capacity : Nat)
    (ids : List PacketId) :
    (recorded capacity ids).ring.newestFirst =
      (ids.take (max capacity 1)).map some ++
        List.replicate (max capacity 1 - ids.length)
          none := by
  rw [newestFirst_recorded, List.take_append,
    List.length_map, List.map_take, List.take_replicate,
    Nat.min_eq_left (Nat.sub_le _ _)]

/- A packet is remembered if it is one of the latest. -/
theorem seen_recorded_iff
    (capacity : Nat)
    (ids : List PacketId)
    (id : PacketId) :
    (recorded capacity ids).seen id = true ↔
      id ∈ ids.take (max capacity 1) := by
  have hSlots :
      (recorded capacity ids).seen id = true ↔
        some id ∈
          (recorded capacity ids).ring.newestFirst := by
    unfold seen RingBuffer.newestFirst
    rw [List.contains_iff_mem, List.mem_reverse,
      RingBuffer.mem_toList_iff]
  rw [hSlots, newestFirst_recorded, List.take_append,
    List.mem_append, ← List.map_take, List.mem_map]
  constructor
  · rintro (⟨other, hMem, hSame⟩ | hUnused)
    · exact Option.some.inj hSame ▸ hMem
    · have hNone :=
        List.eq_of_mem_replicate
          (List.mem_of_mem_take hUnused)
      contradiction
  · intro hMem
    exact Or.inl ⟨id, hMem, rfl⟩

------------------------------------------------------------
-- Packets That Were New
------------------------------------------------------------

/-
  Each packet was new when it was recorded: it was not one
  of the latest `size` then.  The lists begin with the
  latest packet, and some packets were recorded before.
-/
def Sifted
    (size : Nat)
    (before : List PacketId) :
    List PacketId → Prop
  | [] => True
  | id :: older =>
      id ∉ (older ++ before).take size ∧
        Sifted size before older

theorem Sifted.of_append
    {size : Nat}
    {before later older : List PacketId}
    (hSifted : Sifted size before (later ++ older)) :
    Sifted size before older := by
  induction later with
  | nil => exact hSifted
  | cons id rest ih => exact ih hSifted.2

/- Any window over packets that were new tells them apart. -/
theorem Sifted.nodup_take
    {size count : Nat}
    (hCount : count ≤ size)
    {before ids : List PacketId}
    (hSifted : Sifted size before ids) :
    (ids.take count).Nodup := by
  induction ids generalizing count with
  | nil => simp
  | cons id older ih =>
      cases count with
      | zero => exact List.nodup_nil
      | succ count =>
          have hFewer : count ≤ size :=
            Nat.le_of_succ_le hCount
          rw [List.take_succ_cons, List.nodup_cons]
          refine ⟨?_, ih hFewer hSifted.2⟩
          intro hAgain
          apply hSifted.1
          rw [List.take_append, List.mem_append]
          exact Or.inl
            (List.take_subset_take_left older hFewer hAgain)

/-
  Before a packet is new again, as many other packets are
  recorded as fit in, and no two of them are the same.
-/
theorem Sifted.exists_others
    {size : Nat}
    {before later between older : List PacketId}
    {id : PacketId}
    (hSifted :
      Sifted size before
        (later ++ id :: (between ++ id :: older))) :
    ∃ others : List PacketId,
      others.Sublist between ∧ others.Nodup ∧
        id ∉ others ∧ others.length = size := by
  rcases hSifted.of_append with ⟨hNew, hBetween⟩
  rw [List.append_assoc, List.take_append,
    List.mem_append, not_or] at hNew
  rcases hNew with ⟨hOther, hOlder⟩
  -- Else the packet itself is still within the window.
  have hFull : size ≤ between.length := by
    apply Nat.le_of_not_lt
    intro hShort
    apply hOlder
    rcases Nat.exists_eq_add_of_lt hShort with ⟨more, hMore⟩
    have hLeft : size - between.length = more + 1 := by
      omega
    rw [hLeft, List.cons_append, List.take_succ_cons]
    exact List.mem_cons_self
  have hTake :
      (between ++ id :: older).take size =
        between.take size :=
    List.take_append_of_le_length hFull
  refine
    ⟨between.take size, List.take_sublist size between, ?_,
      hOther, List.length_take_of_le hFull⟩
  rw [← hTake]
  exact hBetween.nodup_take (Nat.le_refl size)

end RecentPackets

end CollectionTree
