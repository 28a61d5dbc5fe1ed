import CollectionTree.RecentPackets

/-
  When a memory of recent packets tells packets apart.

  Key definitions include:
    * `RecentPackets.Short`
    * `RecentPackets.Awaits`

  Key theorems include:
    * `RecentPackets.Awaits.record_self`
    * `RecentPackets.Awaits.record_of_ne`
    * `RecentPackets.Awaits.unseen`

  Sequence numbers come round after 256 packets.  A packet
  that comes in its turn is taken for an old one only if the
  memory holds as many, so a memory that is shorter never
  mistakes a new packet for a duplicate.
-/

namespace CollectionTree

namespace RingBuffer

variable {α : Type}

/- The slots hold the same values, in an order of their own. -/
theorem toList_perm
    (r : RingBuffer α) :
    r.toList.Perm r.slots := by
  have hSwap : r.toList.Perm _ := List.perm_append_comm
  rwa [List.take_append_drop] at hSwap

theorem mem_toList_iff
    (r : RingBuffer α)
    (x : α) :
    x ∈ r.toList ↔ x ∈ r.slots :=
  r.toList_perm.mem_iff

/- The values from the newest to the oldest. -/
def newestFirst
    (r : RingBuffer α) : List α :=
  r.toList.reverse

@[simp] theorem length_newestFirst
    (r : RingBuffer α) :
    r.newestFirst.length = r.size := by
  unfold newestFirst toList size
  rw [List.length_reverse, List.length_append,
    List.length_drop, List.length_take]
  omega

theorem newestFirst_perm
    (r : RingBuffer α) :
    r.newestFirst.Perm r.slots :=
  (List.reverse_perm r.toList).trans r.toList_perm

theorem newestFirst_push
    (r : RingBuffer α)
    (x : α)
    (hBounds : r.InBounds) :
    (r.push x).newestFirst = x :: r.newestFirst.dropLast := by
  unfold newestFirst
  rw [toList_push r x hBounds, List.reverse_append,
    List.dropLast_reverse]
  rfl

/- The cursor never leaves the slots. -/
theorem InBounds.push
    {r : RingBuffer α}
    (hBounds : r.InBounds)
    (x : α) :
    (r.push x).InBounds := by
  have hSlots : 0 < r.slots.length :=
    Nat.zero_lt_of_lt hBounds
  unfold InBounds RingBuffer.push
  rw [List.length_set]
  exact Nat.mod_lt _ hSlots

end RingBuffer

namespace RecentPackets

------------------------------------------------------------
-- Short Memories
------------------------------------------------------------

/- There are fewer slots than there are sequence numbers. -/
structure Short
    (r : RecentPackets) : Prop where
  inBounds : r.ring.InBounds
  size : r.ring.size ≤ 255

theorem short_empty
    {capacity : Nat}
    (hFew : capacity ≤ 255) :
    (empty capacity).Short := by
  have hSize :
      (empty capacity).ring.slots.length = max capacity 1 :=
    List.length_replicate
  constructor
  · change 0 < (empty capacity).ring.slots.length
    omega
  · change (empty capacity).ring.slots.length ≤ 255
    omega

theorem Short.record
    {r : RecentPackets}
    (hShort : r.Short)
    (id : PacketId) :
    (r.record id).Short := by
  constructor
  · exact hShort.inBounds.push (some id)
  · have hSame :
        (r.record id).ring.size = r.ring.size :=
      List.length_set
    rw [hSame]
    exact hShort.size

/- A packet that is remembered is in one of the slots. -/
theorem exists_depth_of_seen
    {r : RecentPackets}
    {id : PacketId}
    (hSeen : r.seen id = true) :
    ∃ depth, depth < r.ring.size ∧
      r.ring.newestFirst[depth]? = some (some id) := by
  have hSlot : some id ∈ r.ring.slots := by
    simpa [seen] using hSeen
  have hMem : some id ∈ r.ring.newestFirst :=
    List.mem_reverse.mpr
      ((r.ring.mem_toList_iff _).mpr hSlot)
  rcases List.getElem?_of_mem hMem with ⟨depth, hDepth⟩
  have hLess :=
    (List.getElem?_eq_some_iff.mp hDepth).choose
  rw [RingBuffer.length_newestFirst] at hLess
  exact ⟨depth, hLess, hDepth⟩

------------------------------------------------------------
-- Packets in Their Turn
------------------------------------------------------------

/-
  The packets of an originator that are remembered came in
  their turn: each of them is behind the next one by no more
  than the number of packets remembered since.
-/
def Awaits
    (r : RecentPackets)
    (originator : Address)
    (next : UInt8) : Prop :=
  ∀ (depth : Nat) (seqno : UInt8),
    r.ring.newestFirst[depth]? =
        some (some ⟨originator, seqno⟩) →
      ∃ behind, 1 ≤ behind ∧ behind ≤ depth + 1 ∧
        next = seqno + behind.toUInt8

theorem awaits_empty
    (capacity : Nat)
    (originator : Address)
    (next : UInt8) :
    (empty capacity).Awaits originator next := by
  intro depth seqno hDepth
  have hMem := List.mem_of_getElem? hDepth
  have hNone :
      some (⟨originator, seqno⟩ : PacketId) ∈
        List.replicate (max capacity 1) none :=
    (RingBuffer.mem_toList_iff _ _).mp
      (List.mem_reverse.mp hMem)
  have hEq := List.eq_of_mem_replicate hNone
  contradiction

/- What is remembered after a packet was, and how deep. -/
theorem newestFirst_record
    {r : RecentPackets}
    (hShort : r.Short)
    {id : PacketId}
    {depth : Nat}
    {slot : Option PacketId}
    (hDepth :
      (r.record id).ring.newestFirst[depth]? = some slot) :
    (depth = 0 ∧ slot = some id) ∨
      ∃ before, depth = before + 1 ∧
        r.ring.newestFirst[before]? = some slot := by
  have hPush :
      (r.record id).ring.newestFirst =
        some id :: r.ring.newestFirst.dropLast :=
    r.ring.newestFirst_push (some id) hShort.inBounds
  rw [hPush] at hDepth
  cases depth with
  | zero => exact Or.inl ⟨rfl, (Option.some.inj hDepth).symm⟩
  | succ before =>
      refine Or.inr ⟨before, rfl, ?_⟩
      rw [List.getElem?_cons_succ,
        List.getElem?_dropLast] at hDepth
      split at hDepth
      · exact hDepth
      · contradiction

/- The packet that was awaited came, and then its successor. -/
theorem Awaits.record_self
    {r : RecentPackets}
    (hShort : r.Short)
    {originator : Address}
    {next : UInt8}
    (hAwaits : r.Awaits originator next) :
    (r.record ⟨originator, next⟩).Awaits originator
      (next + 1) := by
  intro depth seqno hDepth
  rcases newestFirst_record hShort hDepth with
    ⟨-, hSlot⟩ | ⟨before, rfl, hBefore⟩
  · cases hSlot
    exact ⟨1, Nat.le_refl 1, Nat.le_add_left 1 depth, rfl⟩
  · rcases hAwaits before seqno hBefore with
      ⟨behind, hSome, hBound, rfl⟩
    refine
      ⟨behind + 1, Nat.le_add_left 1 behind,
        Nat.succ_le_succ hBound, ?_⟩
    have hNext :
        (behind + 1).toUInt8 = behind.toUInt8 + 1 := by
      simp
    rw [hNext, UInt8.add_assoc]

/- Packets of others only push what is remembered deeper. -/
theorem Awaits.record_of_ne
    {r : RecentPackets}
    (hShort : r.Short)
    {originator : Address}
    {next : UInt8}
    (hAwaits : r.Awaits originator next)
    {id : PacketId}
    (hOther : originator ≠ id.originator) :
    (r.record id).Awaits originator next := by
  intro depth seqno hDepth
  rcases newestFirst_record hShort hDepth with
    ⟨-, hSlot⟩ | ⟨before, rfl, hBefore⟩
  · cases hSlot
    exact absurd rfl hOther
  · rcases hAwaits before seqno hBefore with
      ⟨behind, hSome, hBound, hNext⟩
    exact ⟨behind, hSome, Nat.le_succ_of_le hBound, hNext⟩

/-
  The next packet is new: to be behind itself, a packet
  would have to be 256 behind.
-/
theorem Awaits.unseen
    {r : RecentPackets}
    (hShort : r.Short)
    {originator : Address}
    {next : UInt8}
    (hAwaits : r.Awaits originator next) :
    r.seen ⟨originator, next⟩ = false := by
  cases hSeen : r.seen ⟨originator, next⟩ with
  | false => rfl
  | true =>
      rcases exists_depth_of_seen hSeen with
        ⟨depth, hLess, hDepth⟩
      rcases hAwaits depth next hDepth with
        ⟨behind, hSome, hBound, hNext⟩
      have hFew := hShort.size
      have hNat := congrArg UInt8.toNat hNext
      simp only [UInt8.toNat_add, Nat.toUInt8_eq,
        UInt8.toNat_ofNat'] at hNat
      have hByte := UInt8.toNat_lt next
      omega

end RecentPackets

end CollectionTree
